/-!
# Shortest decimals

A positive binary value `significand * 2 ^ exponent` is written with the fewest decimal digits
that still round to it. Every comparison is between natural numbers.

On the grid of multiples of `10 ^ place` the value is the fraction `numerator / denominator` of
one step, and only its two neighbours can round back to it at the first grid where any point does.
-/

namespace DiceChat.Number

/-- The number `digits * 10 ^ place`. -/
structure Decimal where
  digits : Nat
  place : Int
deriving DecidableEq, Repr

/-- A positive binary value in lowest position: 53 bits, or fewer at the least exponent. -/
structure Binary where
  significand : Nat
  exponent : Int
deriving DecidableEq, Repr

namespace Binary

/-- At a power of two the values below lie twice as dense as those above. -/
def narrowBelow (x : Binary) : Bool :=
  x.significand == Nat.pow 2 52

/-- An even significand takes the ends of the interval that rounds to it. -/
def takesEnds (x : Binary) : Bool :=
  x.significand % 2 == 0

/-- The value in steps of `10 ^ place`, as a fraction. -/
def steps (x : Binary) (place : Int) : Nat × Nat :=
  (x.significand * Nat.pow 2 x.exponent.toNat * Nat.pow 10 (-place).toNat,
   Nat.pow 2 (-x.exponent).toNat * Nat.pow 10 place.toNat)

/-- Whether a point at `distance / denominator` steps from the value rounds back to it, where half
the gap on that side is `numerator / (parts * significand)` of the same unit. -/
def reaches (x : Binary) (numerator parts distance : Nat) : Bool :=
  let scaled := parts * x.significand * distance
  if x.takesEnds then decide (scaled ≤ numerator) else decide (scaled < numerator)

/-- The point of the grid that rounds back to the value and is nearest to it, the upper one of two
equally near, if there is one. -/
def onGrid? (x : Binary) (place : Int) : Option Nat :=
  let (numerator, denominator) := x.steps place
  let floor := numerator / denominator
  let above := numerator % denominator
  let below := denominator - above
  let down := x.reaches numerator (if x.narrowBelow then 4 else 2) above
  let up := x.reaches numerator 2 below
  match down, up with
  | true, true => some (if 2 * above < denominator then floor else floor + 1)
  | true, false => some floor
  | false, true => some (floor + 1)
  | false, false => none

/-- The first hit on finer and finer grids. -/
def search (x : Binary) : Nat → Int → Decimal
  | 0, place => ⟨(x.steps place).1 / (x.steps place).2, place⟩
  | grids + 1, place =>
    match x.onGrid? place with
    | some digits => ⟨digits, place⟩
    | none => search x grids (place - 1)

/-- A grid too coarse for a hit: its first point is more than twice the value. The factor 0.30103
is just over the decimal logarithm of two. -/
def topPlace (x : Binary) : Int :=
  (x.significand.log2 + 1 + x.exponent) * 30103 / 100000 + 2

/-- The fewest digits that round back to `x`. Seventeen always do, and the search starts at most
four grids above the one of the leading digit. -/
def shortest (x : Binary) : Decimal :=
  x.search 24 x.topPlace

end Binary
end DiceChat.Number
