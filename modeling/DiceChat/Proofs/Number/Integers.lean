import Mathlib
import DiceChat.Number.Remainder
import DiceChat.Proofs.Number.Quotient

/-!
# Integers among the numbers

Every integer up to `2 ^ 53` is a number. Where the result of an operation on integers is one of
them, it is that integer exactly: there is nothing to be rounded.

## Main results

* `exactly_ofScientific`: digits up to `2 ^ 53` are read exactly.
* `Exactly.neg`, `Exactly.add`, `Exactly.sub`, `Exactly.mul` and `Exactly.remainder`: what is exact
  stays exact.

## Proof strategy

An integer has a place among the numbers with its leading bit in front, and rounding finds it. The
operations only have to hand over enough bits. All but the product take care of that themselves, and
the factors of a product have enough because they are integers.
-/

namespace DiceChat.Number

open Float.Model UnpackedFloat

/-- The rational number that parts stand for. -/
def rational? : UnpackedFloat → Option ℚ
  | .zero _ => some 0
  | .finite sign m e _ => some (sign.apply m * 2 ^ e)
  | .infinity _ | .notANumber => none

/-- The number is this integer; the zeros of both signs are. -/
def Exactly (x : Float) (n : Int) : Prop :=
  rational? x.toModel.unpack = some (n : ℚ)

instance (x : Float) (n : Int) : Decidable (Exactly x n) :=
  inferInstanceAs (Decidable (_ = _))

/-- Parts that some number has, and that stand for this integer. -/
structure IsInteger (u : UnpackedFloat) (n : Int) : Prop where
  packable : Packable u
  value : rational? u = some (n : ℚ)

variable {x y : Float} {u w : UnpackedFloat} {a b : Int} {m n : Nat} {e : Int}
  {sign : UnpackedFloat.Sign}

theorem Exactly.parts (exactly : Exactly x a) : IsInteger x.toModel.unpack a :=
  ⟨packable_unpack _, exactly⟩

theorem IsInteger.exactly (integer : IsInteger u a) : Exactly (.ofModel (.pack u)) a := by
  change rational? (Float.Model.pack u).unpack = _
  rw [unpack_pack integer.packable, integer.value]

theorem isInteger_zero (sign : UnpackedFloat.Sign) : IsInteger (.zero sign) 0 :=
  ⟨trivial, congrArg some Int.cast_zero.symm⟩

theorem apply_mul {v : ℚ} (value : m * v = n) : (sign.apply m : ℚ) * v = sign.apply n := by
  cases sign with
  | positive => exact_mod_cast value
  | negative => simp only [UnpackedFloat.Sign.apply, Int.cast_neg, Int.cast_natCast, neg_mul, value]

theorem natAbs_apply (sign : UnpackedFloat.Sign) (n : Nat) : (sign.apply n).natAbs = n := by
  cases sign with
  | positive => exact Int.natAbs_natCast n
  | negative => rw [UnpackedFloat.Sign.apply, Int.natAbs_neg, Int.natAbs_natCast]

theorem apply_neg (sign : UnpackedFloat.Sign) (n : Int) : (-sign).apply n = -sign.apply n := by
  cases sign with
  | positive => rfl
  | negative => exact (Int.neg_neg n).symm

theorem natural_of_value (some : 0 < m) (value : (m : ℚ) * 2 ^ e = a) :
    ∃ n : Nat, 0 < n ∧ a = n ∧ (m : ℚ) * 2 ^ e = n := by
  have positive : 0 < a := by
    have product : (0 : ℚ) < m * 2 ^ e := mul_pos (by exact_mod_cast some) (zpow_pos two_pos _)
    rw [value] at product
    exact_mod_cast product
  obtain ⟨n, rfl⟩ := Int.eq_ofNat_of_zero_le positive.le
  exact ⟨n, by exact_mod_cast positive, rfl, value⟩

/-- Parts of an integer are those of a zero, or sign and magnitude. -/
theorem IsInteger.cases (integer : IsInteger u a) :
    (∃ sign, u = .zero sign ∧ a = 0) ∨
      ∃ sign m e some, ∃ n : Nat, u = .finite sign m e some ∧ a = sign.apply n ∧ 0 < n ∧
        (m : ℚ) * 2 ^ e = n := by
  obtain ⟨-, value⟩ := integer
  cases u with
  | infinity | notANumber => cases value
  | zero sign =>
    refine .inl ⟨sign, rfl, ?_⟩
    exact_mod_cast (Option.some.inj value).symm
  | finite sign m e some =>
    right
    have value := Option.some.inj value
    cases sign with
    | positive =>
      obtain ⟨n, positive, same, value⟩ := natural_of_value some (by exact_mod_cast value)
      exact ⟨.positive, m, e, some, n, rfl, same, positive, value⟩
    | negative =>
      have opposite : (m : ℚ) * 2 ^ e = ((-a : Int) : ℚ) := by
        simp only [UnpackedFloat.Sign.apply, Int.cast_neg, Int.cast_natCast] at value ⊢
        linarith
      obtain ⟨n, positive, same, value⟩ := natural_of_value some opposite
      exact ⟨.negative, m, e, some, n, rfl, (Int.neg_eq_comm.mp same).symm, positive, value⟩

/-! ### Rounding -/

theorem exists_canonical (some : 0 < n) (small : n ≤ 2 ^ 53) :
    ∃ x : Binary, x.Canonical ∧ x.value = n := by
  rcases small.lt_or_eq with less | rfl
  · exact ⟨ofInteger n, ofInteger_canonical some less, value_ofInteger n⟩
  · refine ⟨⟨2 ^ 52, 1⟩, ?_, ?_⟩
    · constructor <;> norm_num
    · norm_num [Binary.value]

/-- Rounding finds the integer that parts stand for. -/
theorem isInteger_roundWithAccuracy (some : 0 < n) (small : n ≤ 2 ^ 53)
    (fine : e ≤ Format.binary64.targetExponent (totalExponent m e))
    (value : (m : ℚ) * 2 ^ e = n) (sign : UnpackedFloat.Sign) :
    IsInteger (roundWithAccuracy .binary64 sign m e .exact) (sign.apply n) := by
  obtain ⟨x, canonical, same⟩ := exists_canonical some small
  have rounds : x.Rounds (m * 2 ^ e) := by
    rw [value, ← same]
    exact x.rounds_value
  have described : Describes (.ofMantissaAndAccuracy m .exact) (m * 2 ^ e / 2 ^ e) := by
    rw [mul_div_cancel_right₀ _ (zpow_ne_zero _ two_ne_zero)]
    exact describes_exact m
  rw [roundWithAccuracy_eq canonical rounds fine described]
  exact ⟨canonical, congrArg Option.some (apply_mul same)⟩

theorem totalExponent_shiftLeft (some : 0 < m) (places : Nat) :
    totalExponent (m <<< places) (e - places) = totalExponent m e := by
  have bits : (m <<< places).log2 = m.log2 + places := by
    rw [Nat.shiftLeft_eq, Nat.log2_eq_iff (by positivity), pow_add, add_right_comm, pow_add]
    exact ⟨Nat.mul_le_mul_right _ (Nat.log2_self_le some.ne'),
      Nat.mul_lt_mul_of_pos_right Nat.lt_log2_self (by positivity)⟩
  rw [totalExponent, totalExponent, bits]
  omega

theorem isInteger_round (some : 0 < n) (small : n ≤ 2 ^ 53) (value : (m : ℚ) * 2 ^ e = n)
    (sign : UnpackedFloat.Sign) : IsInteger (.round .binary64 sign m e) (sign.apply n) := by
  have positive : 0 < m := by
    refine Nat.pos_of_ne_zero fun none => ?_
    rw [none, Nat.cast_zero, zero_mul] at value
    exact some.ne (by exact_mod_cast value)
  rw [UnpackedFloat.round, decreaseExponent]
  generalize found : (e - Format.binary64.targetExponent (totalExponent m e)).toNat = places
  -- The bits that are added below the mantissa make it fine enough.
  refine isInteger_roundWithAccuracy some small ?_ ?_ sign
  · rw [totalExponent_shiftLeft positive]
    omega
  · rw [← value, Nat.shiftLeft_eq, zpow_sub₀ two_ne_zero, zpow_natCast]
    push_cast
    field_simp

theorem isInteger_normalize {mantissa : Int} (small : a.natAbs ≤ 2 ^ 53)
    (value : (mantissa : ℚ) * 2 ^ e = a) (zeroSign : UnpackedFloat.Sign) :
    IsInteger (.normalize .binary64 mantissa e zeroSign) a := by
  rw [UnpackedFloat.normalize]
  cases order : compare mantissa 0 with
  | eq =>
    rw [Int.compare_eq_eq] at order
    rw [order, Int.cast_zero, zero_mul] at value
    obtain rfl : a = 0 := by exact_mod_cast value.symm
    exact isInteger_zero zeroSign
  | gt =>
    rw [Int.compare_eq_gt] at order
    obtain ⟨m, rfl⟩ := Int.eq_ofNat_of_zero_le order.le
    rw [Int.cast_natCast] at value
    obtain ⟨n, positive, rfl, value⟩ := natural_of_value (Int.natCast_pos.mp order) value
    exact isInteger_round positive (by omega) value .positive
  | lt =>
    rw [Int.compare_eq_lt] at order
    obtain ⟨m, rfl⟩ := Int.exists_eq_neg_ofNat order.le
    have opposite : (m : ℚ) * 2 ^ e = ((-a : Int) : ℚ) := by
      push_cast at value ⊢
      linarith
    obtain ⟨n, positive, same, magnitude⟩ := natural_of_value (by omega) opposite
    obtain rfl : a = -n := by omega
    have mantissa : (-(-(m : Int))).toNat = m := by omega
    dsimp only
    rw [mantissa]
    exact isInteger_round positive (by omega) magnitude .negative

/-! ### Literals -/

/-- Digits up to `2 ^ 53` are read exactly. -/
theorem exactly_ofScientific (small : n ≤ 2 ^ 53) : Exactly (Float.ofScientific n true 0) n := by
  rcases Nat.eq_zero_or_pos n with rfl | some
  · decide +kernel
  · obtain ⟨x, canonical, same⟩ := exists_canonical some small
    have rounds : x.Rounds (n / 10 ^ 0) := by
      rw [pow_zero, div_one, ← same]
      exact x.rounds_value
    rw [ofScientific_eq canonical rounds]
    refine IsInteger.exactly ⟨canonical, congrArg Option.some ?_⟩
    exact_mod_cast same

/-! ### Signs and sums -/

theorem Exactly.neg (exactly : Exactly x a) : Exactly (-x) (-a) := by
  rw [Exactly, unpack_neg]
  rcases exactly.parts.cases with ⟨sign, parts, rfl⟩ | ⟨sign, m, e, some, n, parts, rfl, -, value⟩
  · rw [parts]
    rfl
  · rw [parts, ← apply_neg]
    exact congrArg Option.some (apply_mul value)

/-- Zeros behind the mantissa make up for a lower exponent. -/
theorem lowered_value {low : Int} (lower : low ≤ e) (value : (m : ℚ) * 2 ^ e = n) :
    ((m * 2 ^ (e - low).toNat : ℕ) : ℚ) * 2 ^ low = n := by
  obtain ⟨places, rfl⟩ := Int.le.dest lower
  have amount : (low + places - low).toNat = places := by omega
  rw [amount, ← value, zpow_add₀ two_ne_zero, zpow_natCast]
  push_cast
  ring

theorem shifted_value {low : Int} (lower : low ≤ e) (value : (m : ℚ) * 2 ^ e = n) :
    ((m <<< (e - low).toNat : ℕ) : ℚ) * 2 ^ low = n := by
  rw [Nat.shiftLeft_eq]
  exact lowered_value lower value

theorem IsInteger.add (left : IsInteger u a) (right : IsInteger w b)
    (small : (a + b).natAbs ≤ 2 ^ 53) : IsInteger (.add .binary64 u w) (a + b) := by
  rcases left.cases with ⟨s, rfl, rfl⟩ | ⟨s, m, e, some, k, rfl, rfl, -, value⟩
  · rcases right.cases with ⟨t, rfl, rfl⟩ | ⟨t, n, f, some, l, rfl, rfl, -, -⟩
    · cases s <;> cases t <;> exact isInteger_zero _
    · rw [Int.zero_add]
      exact right
  · rcases right.cases with ⟨t, rfl, rfl⟩ | ⟨t, n, f, some', l, rfl, rfl, -, value'⟩
    · rw [Int.add_zero]
      exact left
    · refine isInteger_normalize small ?_ _
      rw [Int.cast_add, add_mul, apply_mul (shifted_value (min_le_left e f) value),
        apply_mul (shifted_value (min_le_right e f) value'), Int.cast_add]

theorem IsInteger.sub (left : IsInteger u a) (right : IsInteger w b)
    (small : (a - b).natAbs ≤ 2 ^ 53) : IsInteger (.sub .binary64 u w) (a - b) := by
  rcases left.cases with ⟨s, rfl, rfl⟩ | ⟨s, m, e, some, k, rfl, rfl, -, value⟩
  · rcases right.cases with ⟨t, rfl, rfl⟩ | ⟨t, n, f, some, l, rfl, rfl, -, value⟩
    · cases s <;> cases t <;> exact isInteger_zero _
    · rw [Int.zero_sub, ← apply_neg]
      exact ⟨right.packable, congrArg Option.some (apply_mul value)⟩
  · rcases right.cases with ⟨t, rfl, rfl⟩ | ⟨t, n, f, some', l, rfl, rfl, -, value'⟩
    · rw [Int.sub_zero]
      exact left
    · refine isInteger_normalize small ?_ _
      rw [Int.cast_sub, sub_mul, apply_mul (shifted_value (min_le_left e f) value),
        apply_mul (shifted_value (min_le_right e f) value'), Int.cast_sub]

theorem Exactly.add (left : Exactly x a) (right : Exactly y b) (small : (a + b).natAbs ≤ 2 ^ 53) :
    Exactly (x + y) (a + b) :=
  (left.parts.add right.parts small).exactly

theorem Exactly.sub (left : Exactly x a) (right : Exactly y b) (small : (a - b).natAbs ≤ 2 ^ 53) :
    Exactly (x - y) (a - b) :=
  (left.parts.sub right.parts small).exactly

/-! ### Products -/

/-- An integer has its leading bit in front. -/
theorem enough_bits (canonical : Binary.Canonical ⟨m, e⟩) (some : 0 < n)
    (value : (m : ℚ) * 2 ^ e = n) : 2 ^ 52 ≤ m := by
  rcases canonical.lowest with full | least
  · exact full
  · -- At the least exponent there are far more places behind the point than a significand has.
    obtain ⟨places, many, rfl⟩ : ∃ places : Nat, 52 ≤ places ∧ e = -places :=
      ⟨1074, by norm_num, least⟩
    have scaled : (m : ℚ) = n * 2 ^ places := by
      rw [← value, zpow_neg, zpow_natCast, inv_mul_cancel_right₀ (pow_ne_zero _ two_ne_zero)]
    calc 2 ^ 52 ≤ 2 ^ places := Nat.pow_le_pow_right two_pos many
      _ ≤ n * 2 ^ places := Nat.le_mul_of_pos_left _ some
      _ = m := by exact_mod_cast scaled.symm

theorem apply_mul_apply (s t : UnpackedFloat.Sign) (k l : Nat) :
    (s * t).apply (k * l : Nat) = s.apply k * t.apply l := by
  have factor : t.apply (k * l : Nat) = k * t.apply l := by
    cases t with
    | positive => exact Int.natCast_mul k l
    | negative => rw [UnpackedFloat.Sign.apply, UnpackedFloat.Sign.apply, Int.natCast_mul, mul_neg]
  cases s with
  | positive =>
    have same : .positive * t = t := by cases t <;> rfl
    rw [same, factor, UnpackedFloat.Sign.apply]
  | negative =>
    have opposite : .negative * t = -t := by cases t <;> rfl
    rw [opposite, apply_neg, factor, UnpackedFloat.Sign.apply, neg_mul]

theorem IsInteger.mul (left : IsInteger u a) (right : IsInteger w b)
    (small : (a * b).natAbs ≤ 2 ^ 53) : IsInteger (.mul .binary64 u w) (a * b) := by
  rcases left.cases with ⟨s, rfl, rfl⟩ | ⟨s, m, e, some, k, rfl, rfl, positive, value⟩
  · rw [Int.zero_mul]
    rcases right.cases with ⟨t, rfl, rfl⟩ | ⟨t, n, f, some, l, rfl, rfl, -, -⟩
    · exact isInteger_zero _
    · exact isInteger_zero _
  · rcases right.cases with ⟨t, rfl, rfl⟩ | ⟨t, n, f, some', l, rfl, rfl, positive', value'⟩
    · rw [Int.mul_zero]
      exact isInteger_zero _
    · rw [← apply_mul_apply] at small ⊢
      rw [natAbs_apply] at small
      -- A product is rounded as it is, so the bits of the two significands have to be enough.
      refine isInteger_roundWithAccuracy (Nat.mul_pos positive positive') small ?_ ?_ _
      · have long : 52 ≤ (m * n).log2 := by
          rw [Nat.le_log2 (Nat.mul_pos some some').ne']
          exact (enough_bits left.packable positive value).trans (Nat.le_mul_of_pos_right _ some')
        rw [targetExponent_eq, totalExponent]
        omega
      · rw [zpow_add₀ two_ne_zero, Nat.cast_mul, mul_mul_mul_comm, value, value', Nat.cast_mul]

/-! ### Remainders -/

/-- The remainder of multiples is the multiple of the remainder. -/
theorem mod_scaled {k l : Nat} {q : ℚ} (positive : 0 < q) (some : 0 < n) (left : m * q = k)
    (right : n * q = l) : ((m % n : ℕ) : ℚ) * q = (k % l : ℕ) := by
  have whole : (n : ℚ) * (m / n : ℕ) + (m % n : ℕ) = m := by exact_mod_cast Nat.div_add_mod m n
  have rest : ((m % n : ℕ) : ℚ) * q = k - l * (m / n : ℕ) := by
    rw [← left, ← right, ← whole]
    ring
  have less : ((m % n : ℕ) : ℚ) * q < l := by
    rw [← right]
    exact mul_lt_mul_of_pos_right (by exact_mod_cast Nat.mod_lt m some) positive
  have nonneg : (0 : ℚ) ≤ (m % n : ℕ) * q := by positivity
  -- What is left over is a natural number below the divisor.
  have fits : l * (m / n) ≤ k := by
    rw [rest] at nonneg
    exact_mod_cast sub_nonneg.mp nonneg
  obtain ⟨r, rfl⟩ := Nat.exists_eq_add_of_le fits
  have remainder : ((m % n : ℕ) : ℚ) * q = r := by
    rw [rest]
    push_cast
    ring
  have below : r < l := by
    rw [remainder] at less
    exact_mod_cast less
  rw [Nat.mul_add_mod, Nat.mod_eq_of_lt below, remainder]

theorem apply_tmod (s t : UnpackedFloat.Sign) (k l : Nat) :
    (s.apply k).tmod (t.apply l) = s.apply (k % l : Nat) := by
  cases s <;> cases t <;>
    simp only [UnpackedFloat.Sign.apply, Int.neg_tmod, Int.tmod_neg, Int.ofNat_tmod]

theorem IsInteger.remainder (left : IsInteger u a) (right : IsInteger w b) (divisor : b ≠ 0)
    (small : (a.tmod b).natAbs ≤ 2 ^ 53) : IsInteger (unpackedRemainder u w) (a.tmod b) := by
  rcases right.cases with ⟨t, rfl, rfl⟩ | ⟨t, n, f, some', l, rfl, rfl, -, value'⟩
  · exact absurd rfl divisor
  · rcases left.cases with ⟨s, rfl, rfl⟩ | ⟨s, m, e, some, k, rfl, rfl, -, value⟩
    · rw [Int.zero_tmod]
      exact isInteger_zero s
    · refine isInteger_normalize small ?_ _
      have dividend := lowered_value (min_le_left e f) value
      have scaled := lowered_value (min_le_right e f) value'
      have nonzero : 0 < n * 2 ^ (f - min e f).toNat := by positivity
      rw [apply_tmod]
      exact apply_mul (mod_scaled (zpow_pos two_pos _) nonzero dividend scaled)

theorem Exactly.mul (left : Exactly x a) (right : Exactly y b) (small : (a * b).natAbs ≤ 2 ^ 53) :
    Exactly (x * y) (a * b) :=
  (left.parts.mul right.parts small).exactly

theorem Exactly.remainder (left : Exactly x a) (right : Exactly y b) (divisor : b ≠ 0)
    (small : (a.tmod b).natAbs ≤ 2 ^ 53) : Exactly (Number.remainder x y) (a.tmod b) :=
  (left.parts.remainder right.parts divisor small).exactly

end DiceChat.Number
