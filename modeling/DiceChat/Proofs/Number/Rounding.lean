import Mathlib
import DiceChat.Proofs.Number.Packing

/-!
# Rounding to the nearest number

Which rational numbers round to a number in lowest position: those at most half a gap away from it,
and of two numbers equally near the one with the even significand takes the point between them.

## Main results

* `Describes.roundedMantissa_eq`: rounding finds the nearest integer.
* `roundWithAccuracy_eq`: what lies in the interval of a number is rounded to that number.

## Proof strategy

A truncated mantissa with its two residual bits describes where a number lies between two multiples
of a power of two. Shifting keeps the description, and rounding reads the nearest multiple off it.
-/

namespace DiceChat.Number

open Float.Model UnpackedFloat

/-! ### Intervals -/

namespace Binary

def value (x : Binary) : ℚ :=
  x.significand * 2 ^ x.exponent

/-- Half the gap to the number below, in units of the last place. -/
def halfBelow (x : Binary) : ℚ :=
  if x.narrowBelow then 1 / 4 else 1 / 2

/-- The numbers that round to `x`, in units of its last place. -/
structure Rounds (x : Binary) (v : ℚ) : Prop where
  below : x.significand - x.halfBelow ≤ v / 2 ^ x.exponent
  above : v / 2 ^ x.exponent ≤ x.significand + 1 / 2
  ends : v / 2 ^ x.exponent = x.significand - x.halfBelow ∨
    v / 2 ^ x.exponent = x.significand + 1 / 2 → x.takesEnds = true

theorem halfBelow_bounds (x : Binary) : 0 < x.halfBelow ∧ x.halfBelow ≤ 1 / 2 := by
  unfold halfBelow
  split <;> norm_num

theorem halfBelow_of_power {x : Binary} (power : x.significand = 2 ^ 52) :
    x.halfBelow = 1 / 4 := by
  have narrow : x.narrowBelow = true := beq_iff_eq.mpr power
  rw [halfBelow, if_pos narrow]

theorem rounds_value (x : Binary) : x.Rounds x.value := by
  have below := x.halfBelow_bounds
  have units : x.value / 2 ^ x.exponent = x.significand :=
    mul_div_cancel_right₀ _ (zpow_ne_zero _ two_ne_zero)
  constructor
  case below =>
    rw [units]
    linarith
  case above =>
    rw [units]
    linarith
  case ends =>
    rw [units]
    rintro (low | high) <;> linarith

variable {x : Binary} {v : ℚ}

/-- No number rounds so far down that half of its last place is left. -/
theorem Rounds.half_le (rounds : x.Rounds v) (canonical : x.Canonical) :
    1 / 2 ≤ v / 2 ^ x.exponent := by
  have least : (1 : ℚ) ≤ x.significand := by exact_mod_cast canonical.positive
  linarith [rounds.below, x.halfBelow_bounds.2]

theorem Rounds.pos (rounds : x.Rounds v) (canonical : x.Canonical) : 0 < v := by
  have half := (le_div_iff₀ (zpow_pos two_pos _)).mp (rounds.half_le canonical)
  exact lt_of_lt_of_le (by positivity) half

end Binary

/-! ### Residual bits -/

/-- The mantissa is the integral part of `v`, and the two bits say whether the fraction is zero,
below one half, one half, or beyond. -/
structure Describes (em : ExtendedMantissa) (v : ℚ) : Prop where
  floor : em.mantissa ≤ v ∧ v < em.mantissa + 1
  round : em.roundBit = true ↔ em.mantissa + 1 / 2 ≤ v
  sticky : em.stickyBit = true ↔ v ≠ em.mantissa ∧ v ≠ em.mantissa + 1 / 2

variable {em : ExtendedMantissa} {v : ℚ}

theorem describes_exact (mantissa : Nat) :
    Describes (.ofMantissaAndAccuracy mantissa .exact) mantissa := by
  constructor <;> simp [ExtendedMantissa.ofMantissaAndAccuracy]

/-- Where both bits are clear there is no fraction. -/
theorem Describes.inexact_iff (described : Describes em v) :
    (em.roundBit || em.stickyBit) = true ↔ v ≠ em.mantissa := by
  rw [Bool.or_eq_true, described.round, described.sticky]
  constructor
  · rintro (half | ⟨different, -⟩)
    · exact ne_of_gt (by linarith)
    · exact different
  · intro different
    by_cases half : v = em.mantissa + 1 / 2
    · exact .inl half.ge
    · exact .inr ⟨different, half⟩

theorem Describes.shiftRightOne (described : Describes em v) :
    Describes em.shiftRightOne (v / 2) := by
  have inexact := described.inexact_iff
  obtain ⟨⟨low, high⟩, -, -⟩ := described
  -- The bit that is shifted out says which half, and the bits before it whether there is a rest.
  have halves : (em.mantissa : ℚ) = 2 * (em.mantissa / 2 : ℕ) + (em.mantissa % 2 : ℕ) := by
    exact_mod_cast (Nat.div_add_mod em.mantissa 2).symm
  have odd : (em.mantissa % 2 != 0) = true ↔ em.mantissa % 2 = 1 := by
    rw [bne_iff_ne]
    omega
  constructor
  case floor =>
    have small : ((em.mantissa % 2 : ℕ) : ℚ) ≤ 1 := by
      exact_mod_cast Nat.lt_succ_iff.mp (Nat.mod_lt _ two_pos)
    dsimp only [ExtendedMantissa.shiftRightOne]
    constructor <;> linarith [(em.mantissa % 2 : ℕ).cast_nonneg (α := ℚ)]
  case round =>
    dsimp only [ExtendedMantissa.shiftRightOne]
    rw [odd]
    rcases Nat.mod_two_eq_zero_or_one em.mantissa with rest | rest <;> rw [rest] at halves ⊢
    · norm_num at halves ⊢
      linarith
    · norm_num at halves ⊢
      linarith
  case sticky =>
    dsimp only [ExtendedMantissa.shiftRightOne]
    rw [inexact]
    rcases Nat.mod_two_eq_zero_or_one em.mantissa with rest | rest <;> rw [rest] at halves
    · norm_num at halves
      refine ⟨fun different => ⟨fun same => ?_, fun next => ?_⟩, fun ⟨different, _⟩ same => ?_⟩
      · exact different (by linarith)
      · linarith
      · exact different (by linarith)
    · norm_num at halves
      refine ⟨fun different => ⟨fun before => ?_, fun same => ?_⟩, fun ⟨_, different⟩ same => ?_⟩
      · linarith
      · exact different (by linarith)
      · exact different (by linarith)

theorem Describes.shiftRight (described : Describes em v) (places : Nat) :
    Describes (em >>> places) (v / 2 ^ places) := by
  induction places with
  | zero =>
    rw [pow_zero, div_one]
    exact described
  | succ places ih =>
    rw [pow_succ, ← div_div]
    exact ih.shiftRightOne

/-- Rounding finds the integer that lies nearest, the even one of two. -/
theorem Describes.roundedMantissa_eq (described : Describes em v) {n : Nat}
    (below : n - 1 / 2 ≤ v) (above : v ≤ n + 1 / 2)
    (ends : v = n - 1 / 2 ∨ v = n + 1 / 2 → n % 2 = 0) : em.roundedMantissa = n := by
  obtain ⟨⟨low, high⟩, round, sticky⟩ := described
  have least : em.mantissa ≤ n := by
    have : (em.mantissa : ℚ) < n + 1 := by linarith
    exact Nat.lt_succ_iff.mp (by exact_mod_cast this)
  have most : n < em.mantissa + 2 := by
    have : (n : ℚ) < em.mantissa + 2 := by linarith
    exact_mod_cast this
  rcases Nat.lt_succ_iff_lt_or_eq.mp most with less | rfl
  · obtain rfl : em.mantissa = n := by omega
    rcases em with ⟨n, _ | _, _ | _⟩
    · rfl
    · rfl
    · -- Half a unit beyond an even mantissa.
      have half := round.mp rfl
      have even := ends (.inr (le_antisymm above half))
      exact (congrArg (n + ·) even : n + n % 2 = n + 0)
    · have half := round.mp rfl
      exact absurd (le_antisymm above half) (sticky.mp rfl).2
  · have half : (em.mantissa : ℚ) + 1 / 2 ≤ v := by
      push_cast at below
      linarith
    rcases em with ⟨n, _ | _, _ | _⟩
    · cases round.mpr half
    · cases round.mpr half
    · -- Half a unit beyond an odd mantissa.
      have tie : v = (n : ℚ) + 1 / 2 := by
        by_contra different
        cases sticky.mpr ⟨ne_of_gt (by dsimp only at half; linarith), different⟩
      have even := ends (.inl (by rw [tie]; push_cast; ring))
      have odd : n % 2 = 1 := by
        change (n + 1) % 2 = 0 at even
        omega
      exact (congrArg (n + ·) odd : n + n % 2 = n + 1)
    · rfl

/-! ### Shifting to the last place -/

theorem targetExponent_eq (total : Int) :
    Format.binary64.targetExponent total = max (total - 53) (-1074) :=
  rfl

section

variable {mantissa : Nat} {exponent : Int} {accuracy : Accuracy}

/-- Shifting a mantissa that is fine enough leaves the same number, with the target exponent. -/
theorem shiftToTargetExponent_of_fine
    (fine : exponent ≤ Format.binary64.targetExponent (totalExponent mantissa exponent))
    (described : Describes (.ofMantissaAndAccuracy mantissa accuracy) (v / 2 ^ exponent)) :
    ∃ em, shiftToTargetExponent .binary64 mantissa exponent accuracy =
        (em, Format.binary64.targetExponent (totalExponent mantissa exponent)) ∧
      Describes em
        (v / 2 ^ Format.binary64.targetExponent (totalExponent mantissa exponent)) := by
  generalize found : Format.binary64.targetExponent (totalExponent mantissa exponent) = target at *
  obtain ⟨places, rfl⟩ := Int.le.dest fine
  have amount : (exponent + (places : Int) - exponent).toNat = places := by omega
  refine ⟨ExtendedMantissa.ofMantissaAndAccuracy mantissa accuracy >>> places, ?_, ?_⟩
  · simp only [shiftToTargetExponent, shiftToExponent, found, amount]
  · have shifted := described.shiftRight places
    rwa [div_div, ← zpow_natCast, ← zpow_add₀ two_ne_zero] at shifted

theorem succ_mul_le_total (mantissa : Nat) (exponent : Int) :
    (mantissa + 1 : ℚ) * 2 ^ exponent ≤ 2 ^ totalExponent mantissa exponent := by
  have bits : (mantissa : ℚ) + 1 ≤ 2 ^ (mantissa.log2 + 1) := by
    exact_mod_cast Nat.lt_log2_self
  rw [totalExponent, zpow_add₀ two_ne_zero, ← Nat.cast_succ mantissa.log2, zpow_natCast]
  exact mul_le_mul_of_nonneg_right bits (zpow_pos two_pos _).le

theorem total_le_mul (some : 0 < mantissa) (exponent : Int) :
    (2 : ℚ) ^ (totalExponent mantissa exponent - 1) ≤ mantissa * 2 ^ exponent := by
  have bits : (2 : ℚ) ^ mantissa.log2 ≤ mantissa := by
    exact_mod_cast Nat.log2_self_le some.ne'
  rw [totalExponent, add_right_comm, add_sub_cancel_right, zpow_add₀ two_ne_zero, zpow_natCast]
  exact mul_le_mul_of_nonneg_right bits (zpow_pos two_pos _).le

theorem ofMantissaAndAccuracy_mantissa :
    (ExtendedMantissa.ofMantissaAndAccuracy mantissa accuracy).mantissa = mantissa := by
  rcases accuracy with _ | (_ | _ | _) <;> rfl

theorem lt_of_powers {low high : Int} (above : 2 ^ low ≤ v) (below : v < 2 ^ high) : low < high :=
  (zpow_lt_zpow_iff_right₀ one_lt_two).mp (lt_of_le_of_lt above below)

/-- The position of the leading bit bounds the number. -/
theorem Describes.lt_total
    (described : Describes (.ofMantissaAndAccuracy mantissa accuracy) (v / 2 ^ exponent)) :
    v < 2 ^ totalExponent mantissa exponent := by
  have high := described.floor.2
  rw [ofMantissaAndAccuracy_mantissa, div_lt_iff₀ (zpow_pos two_pos _)] at high
  exact high.trans_le (succ_mul_le_total mantissa exponent)

theorem Describes.total_le (some : 0 < mantissa)
    (described : Describes (.ofMantissaAndAccuracy mantissa accuracy) (v / 2 ^ exponent)) :
    2 ^ (totalExponent mantissa exponent - 1) ≤ v := by
  have low := described.floor.1
  rw [ofMantissaAndAccuracy_mantissa, le_div_iff₀ (zpow_pos two_pos _)] at low
  exact (total_le_mul some exponent).trans low

section

variable {x : Binary} (canonical : x.Canonical) (rounds : x.Rounds v)
include canonical rounds

/-- No target is coarser than the last place of the number that is rounded to. -/
theorem target_le
    (fine : exponent ≤ Format.binary64.targetExponent (totalExponent mantissa exponent))
    (described : Describes (.ofMantissaAndAccuracy mantissa accuracy) (v / 2 ^ exponent)) :
    Format.binary64.targetExponent (totalExponent mantissa exponent) ≤ x.exponent := by
  have least := canonical.least
  rw [targetExponent_eq] at fine ⊢
  rcases Nat.eq_zero_or_pos mantissa with rfl | some
  · -- A mantissa without bits is fine enough for the least target only.
    have total : totalExponent 0 exponent = 1 + exponent := rfl
    omega
  · have bound : v < 2 ^ (53 + x.exponent) := by
      have small : (x.significand : ℚ) + 1 ≤ 2 ^ 53 := by exact_mod_cast canonical.bits
      have short : v / 2 ^ x.exponent < 2 ^ 53 := by linarith [rounds.above]
      rw [zpow_add₀ two_ne_zero, ← div_lt_iff₀ (zpow_pos two_pos _)]
      exact_mod_cast short
    have order := lt_of_powers (described.total_le some) bound
    omega

/-- A number in the interval of `x` has the exponent of `x` as its target, or the one before if it
lies below a power of two that it rounds to. -/
theorem target_of_rounds
    (fine : exponent ≤ Format.binary64.targetExponent (totalExponent mantissa exponent))
    (described : Describes (.ofMantissaAndAccuracy mantissa accuracy) (v / 2 ^ exponent)) :
    Format.binary64.targetExponent (totalExponent mantissa exponent) = x.exponent ∨
      Format.binary64.targetExponent (totalExponent mantissa exponent) = x.exponent - 1 ∧
        x.significand = 2 ^ 52 ∧ v / 2 ^ x.exponent < 2 ^ 52 := by
  have most := target_le canonical rounds fine described
  have high := described.lt_total
  have low := rounds.below
  have half := x.halfBelow_bounds.2
  -- The leading bit of `v` stands as far from the last place of `x` as `v` has bits in its units.
  have position {bits : Nat} (long : 2 ^ bits ≤ v / 2 ^ x.exponent) :
      bits + x.exponent < totalExponent mantissa exponent := by
    rw [le_div_iff₀ (zpow_pos two_pos _), ← zpow_natCast, ← zpow_add₀ two_ne_zero] at long
    exact lt_of_powers long high
  rw [targetExponent_eq] at most ⊢
  by_cases subnormal : x.exponent = -1074
  · omega
  have full := canonical.lowest.resolve_right subnormal
  by_cases inside : 2 ^ 52 ≤ v / 2 ^ x.exponent
  · have := position inside
    omega
  · have power : x.significand = 2 ^ 52 := by
      have small : (x.significand : ℚ) < 2 ^ 52 + 1 := by linarith
      have : x.significand < 2 ^ 52 + 1 := by exact_mod_cast small
      omega
    have long : (2 : ℚ) ^ 51 ≤ v / 2 ^ x.exponent := by
      rw [power] at low
      push_cast at low
      linarith
    have := position long
    by_cases same : max (totalExponent mantissa exponent - 53) (-1074) = x.exponent
    · exact .inl same
    · exact .inr ⟨by omega, power, not_le.mp inside⟩

end

theorem shiftToTargetExponent_canonical {x : Binary} (canonical : x.Canonical) :
    shiftToTargetExponent .binary64 x.significand x.exponent .exact =
      (⟨x.significand, false, false⟩, x.exponent) := by
  obtain ⟨positive, bits, least, -, -⟩ := canonical
  have short := (Nat.log2_lt (Nat.ne_of_gt positive)).mpr bits
  have target : (Format.binary64.targetExponent (totalExponent x.significand x.exponent) -
      x.exponent).toNat = 0 := by
    rw [targetExponent_eq, totalExponent]
    omega
  simp only [shiftToTargetExponent, shiftToExponent, target]
  exact congrArg _ (add_zero _)

/-- A mantissa that rounding has made too long is shifted once more. -/
theorem shiftToTargetExponent_carry (least : -1074 ≤ exponent) :
    shiftToTargetExponent .binary64 (2 ^ 53) exponent .exact =
      (⟨2 ^ 52, false, false⟩, exponent + 1) := by
  have total : totalExponent (2 ^ 53) exponent = 54 + exponent := by
    rw [totalExponent, Nat.log2_two_pow]
    rfl
  have target : (Format.binary64.targetExponent (totalExponent (2 ^ 53) exponent) -
      exponent).toNat = 1 := by
    rw [targetExponent_eq, total]
    omega
  simp only [shiftToTargetExponent, shiftToExponent, target]
  rfl

/-- In units of the last place of `x`, its interval is rounded to its significand. -/
theorem Binary.Rounds.roundedMantissa_eq {x : Binary} (rounds : x.Rounds v)
    (described : Describes em (v / 2 ^ x.exponent)) : em.roundedMantissa = x.significand := by
  have half := x.halfBelow_bounds.2
  apply described.roundedMantissa_eq
  · linarith [rounds.below]
  · exact rounds.above
  · intro tie
    -- An end half a unit below is the end of the interval, since no end is farther.
    have ends : x.takesEnds = true :=
      rounds.ends (tie.imp_left fun low => le_antisymm (by linarith) rounds.below)
    exact beq_iff_eq.mp ends

/-- In half units, what lies below a power of two in its interval is rounded to twice that power. -/
theorem Binary.Rounds.roundedMantissa_below {x : Binary} (rounds : x.Rounds v)
    (power : x.significand = 2 ^ 52) (below : v / 2 ^ x.exponent < 2 ^ 52)
    (described : Describes em (v / 2 ^ (x.exponent - 1))) : em.roundedMantissa = 2 ^ 53 := by
  have double : v / 2 ^ (x.exponent - 1) = 2 * (v / 2 ^ x.exponent) := by
    rw [zpow_sub_one₀ two_ne_zero]
    field_simp
  have low := rounds.below
  rw [halfBelow_of_power power, power] at low
  rw [double] at described
  apply described.roundedMantissa_eq
  · push_cast at low ⊢
    linarith
  · push_cast
    linarith
  · rintro -
    rfl

/-- What lies in the interval of a number is rounded to that number. -/
theorem roundWithAccuracy_eq {x : Binary} (canonical : x.Canonical) (rounds : x.Rounds v)
    (fine : exponent ≤ Format.binary64.targetExponent (totalExponent mantissa exponent))
    (described : Describes (.ofMantissaAndAccuracy mantissa accuracy) (v / 2 ^ exponent))
    (sign : UnpackedFloat.Sign) :
    roundWithAccuracy .binary64 sign mantissa exponent accuracy =
      .finite sign x.significand x.exponent canonical.positive := by
  obtain ⟨em, shifted, result⟩ := shiftToTargetExponent_of_fine fine described
  -- The rounded mantissa is shifted again, in case that rounding has added a bit.
  have again : shiftToTargetExponent .binary64 em.roundedMantissa
      (Format.binary64.targetExponent (totalExponent mantissa exponent)) .exact =
        (⟨x.significand, false, false⟩, x.exponent) := by
    rcases target_of_rounds canonical rounds fine described with target | ⟨target, power, below⟩
    · rw [target] at result ⊢
      rw [rounds.roundedMantissa_eq result]
      exact shiftToTargetExponent_canonical canonical
    · have least : -1074 ≤ x.exponent - 1 := by
        rw [← target]
        exact le_max_right _ _
      rw [target] at result ⊢
      rw [rounds.roundedMantissa_below power below result, shiftToTargetExponent_carry least, power,
        sub_add_cancel]
  have some : x.significand ≠ 0 := Nat.ne_of_gt canonical.positive
  simp only [roundWithAccuracy, shifted, again, some, dif_neg, not_false_eq_true]

/-- A number in lowest position is rounded to itself. -/
theorem roundWithAccuracy_canonical {x : Binary} (canonical : x.Canonical)
    (sign : UnpackedFloat.Sign) :
    roundWithAccuracy .binary64 sign x.significand x.exponent .exact =
      .finite sign x.significand x.exponent canonical.positive := by
  have some : x.significand ≠ 0 := Nat.ne_of_gt canonical.positive
  have rounded : (ExtendedMantissa.mk x.significand false false).roundedMantissa = x.significand :=
    rfl
  simp only [roundWithAccuracy, shiftToTargetExponent_canonical canonical, rounded, some, dif_neg,
    not_false_eq_true]

end

end DiceChat.Number
