/-!
# Ranges of code points

A character class of the Unicode standard is a list of closed ranges of code points.
-/

namespace DiceChat

/-- All code points from `low` to `high`. -/
structure CodeRange where
  low : Nat
  high : Nat
deriving DecidableEq, Repr

namespace CodeRange

def contains (range : CodeRange) (c : Char) : Bool :=
  decide (range.low ≤ c.toNat) && decide (c.toNat ≤ range.high)

/-- Membership in the union of the ranges. -/
def anyContains (ranges : List CodeRange) (c : Char) : Bool :=
  ranges.any fun range => range.contains c

theorem contains_iff {range : CodeRange} {c : Char} :
    range.contains c = true ↔ range.low ≤ c.toNat ∧ c.toNat ≤ range.high := by
  simp [contains]

theorem anyContains_iff {ranges : List CodeRange} {c : Char} :
    anyContains ranges c = true ↔ ∃ range ∈ ranges, range.low ≤ c.toNat ∧ c.toNat ≤ range.high := by
  simp [anyContains, contains]

end CodeRange
end DiceChat
