import Mathlib
import DiceChat.Proofs.Number.Rounding

/-!
# Quotients and decimals

A quotient is truncated to more bits than a number has, and what is left over says where the
quotient lies. So it is rounded to the number in whose interval it lies, and a decimal is the
quotient of its digits by a power of ten.

## Main results

* `div_eq`: a quotient in the interval of a number is that number.
* `ofScientific_eq`: a decimal in the interval of a number is that number.
* `toFloat_eq`: integers of 53 bits are numbers, exactly.
-/

namespace DiceChat.Number

open Float.Model UnpackedFloat

/-! ### Quotients -/

theorem describes_add (mantissa : Nat) {fraction : ℚ} {roundBit stickyBit : Bool}
    (inside : 0 ≤ fraction ∧ fraction < 1) (round : roundBit = true ↔ 1 / 2 ≤ fraction)
    (sticky : stickyBit = true ↔ fraction ≠ 0 ∧ fraction ≠ 1 / 2) :
    Describes ⟨mantissa, roundBit, stickyBit⟩ (mantissa + fraction) := by
  constructor <;> dsimp only
  case floor => constructor <;> linarith
  case round => rw [round, add_le_add_iff_left]
  case sticky => rw [sticky, ne_eq, ne_eq, ne_eq, ne_eq, add_eq_left, add_right_inj]

/-- What is left over by a division says where the quotient lies. -/
theorem describes_fraction (quotient : Nat) {rest divisor : Nat} (small : rest < divisor) :
    Describes (.ofMantissaAndAccuracy quotient (accuracyOfFraction rest divisor))
      (quotient + rest / divisor) := by
  have positive : (0 : ℚ) < divisor := by exact_mod_cast Nat.zero_lt_of_lt small
  have inside : (0 : ℚ) ≤ rest / divisor ∧ (rest : ℚ) / divisor < 1 := by
    rw [div_lt_one positive]
    exact ⟨by positivity, by exact_mod_cast small⟩
  unfold accuracyOfFraction
  split
  next zero =>
    rw [zero, Nat.cast_zero, zero_div]
    exact describes_add quotient (by norm_num) (by norm_num) (by norm_num)
  next some =>
    have different : (rest : ℚ) / divisor ≠ 0 :=
      div_ne_zero (by exact_mod_cast some) positive.ne'
    -- Twice the rest against the divisor is the fraction against one half.
    cases order : compare (2 * rest) divisor with
    | lt =>
      have less : (2 * rest : ℚ) < divisor := by exact_mod_cast Nat.compare_eq_lt.mp order
      have half : (rest : ℚ) / divisor < 1 / 2 := by
        rw [div_lt_div_iff₀ positive two_pos]
        linarith
      exact describes_add quotient inside ⟨nofun, fun beyond => absurd beyond half.not_ge⟩
        ⟨fun _ => ⟨different, half.ne⟩, fun _ => rfl⟩
    | eq =>
      have same : (2 * rest : ℚ) = divisor := by exact_mod_cast Nat.compare_eq_eq.mp order
      have half : (rest : ℚ) / divisor = 1 / 2 := by
        rw [div_eq_div_iff positive.ne' two_ne_zero]
        linarith
      exact describes_add quotient inside (by simp [half]) (by simp [half])
    | gt =>
      have more : (divisor : ℚ) < 2 * rest := by exact_mod_cast Nat.compare_eq_gt.mp order
      have half : 1 / 2 < (rest : ℚ) / divisor := by
        rw [div_lt_div_iff₀ two_pos positive]
        linarith
      exact describes_add quotient inside ⟨fun _ => half.le, fun _ => rfl⟩
        ⟨fun _ => ⟨different, half.ne'⟩, fun _ => rfl⟩

variable {m n : Nat} {e f : Int}

/-- The bits of a quotient, as many as the divisor leaves of the shifted dividend. -/
theorem describes_quotient (divisor : 0 < n) {exponent : Int} {places : Nat}
    (shift : e - f = exponent + places) :
    Describes (.ofMantissaAndAccuracy (m <<< places / n) (accuracyOfFraction (m <<< places % n) n))
      (m * 2 ^ e / (n * 2 ^ f) / 2 ^ exponent) := by
  have nonzero : (n : ℚ) ≠ 0 := by exact_mod_cast divisor.ne'
  have whole : (m : ℚ) * 2 ^ places = n * (m <<< places / n : ℕ) + (m <<< places % n : ℕ) := by
    rw [← Nat.cast_mul, ← Nat.cast_add, Nat.div_add_mod, Nat.shiftLeft_eq]
    push_cast
    rfl
  -- The dividend is shifted by what is missing between the two exponents.
  have quotient : (m : ℚ) * 2 ^ e / (n * 2 ^ f) / 2 ^ exponent =
      (m <<< places / n : ℕ) + (m <<< places % n : ℕ) / n := by
    obtain rfl : e = f + exponent + places := by omega
    rw [zpow_add₀ two_ne_zero, zpow_add₀ two_ne_zero, zpow_natCast]
    field_simp
    linarith
  rw [quotient]
  exact describes_fraction _ (Nat.mod_lt _ divisor)

/-- A quotient is truncated to enough bits. -/
theorem divCore_spec (some : 0 < m) (divisor : 0 < n) :
    ∃ quotient exponent accuracy,
      divCore .binary64 m e n f = (quotient, exponent, accuracy) ∧
      exponent ≤ Format.binary64.targetExponent (totalExponent quotient exponent) ∧
      Describes (.ofMantissaAndAccuracy quotient accuracy)
        (m * 2 ^ e / (n * 2 ^ f) / 2 ^ exponent) := by
  generalize place : min (e - f) (Format.binary64.targetExponent
    (totalExponent m e - totalExponent n f)) = exponent
  obtain ⟨places, shift⟩ := Int.le.dest (place ▸ min_le_left _ _ : exponent ≤ e - f)
  have amount : (e - f - exponent).toNat = places := by omega
  have described := describes_quotient (m := m) divisor shift.symm
  refine ⟨_, exponent, _, ?_, ?_, described⟩
  · simp only [divCore, place, amount]
  · -- The quotient has at least as many bits as the difference of the totals.
    have bound : (0 : ℚ) < n * 2 ^ f := by positivity
    have short : (n : ℚ) * 2 ^ f ≤ 2 ^ totalExponent n f := by
      refine le_trans ?_ (succ_mul_le_total n f)
      gcongr
      exact le_add_of_nonneg_right zero_le_one
    have least : (2 : ℚ) ^ (totalExponent m e - 1 - totalExponent n f) ≤
        m * 2 ^ e / (n * 2 ^ f) := by
      rw [zpow_sub₀ two_ne_zero]
      exact div_le_div₀ (by positivity) (total_le_mul some e) bound short
    have total := lt_of_powers least described.lt_total
    rw [targetExponent_eq] at place ⊢
    omega

/-- A quotient in the interval of a number is that number. -/
theorem div_eq {x : Binary} (canonical : x.Canonical) (some : 0 < m) (divisor : 0 < n)
    (rounds : x.Rounds (m * 2 ^ e / (n * 2 ^ f))) :
    UnpackedFloat.div .binary64 (.finite .positive m e some) (.finite .positive n f divisor) =
      .finite .positive x.significand x.exponent canonical.positive := by
  obtain ⟨quotient, exponent, accuracy, cut, fine, described⟩ :=
    divCore_spec (m := m) (n := n) (e := e) (f := f) some divisor
  rw [UnpackedFloat.div, cut]
  exact roundWithAccuracy_eq canonical rounds fine described _

/-- A product in the interval of a number is that number, if it has enough bits. -/
theorem mul_eq {x : Binary} (canonical : x.Canonical) (some : 0 < m) (factor : 0 < n)
    (fine : e + f ≤ Format.binary64.targetExponent (totalExponent (m * n) (e + f)))
    (rounds : x.Rounds ((m * n : ℕ) * 2 ^ (e + f))) :
    UnpackedFloat.mul .binary64 (.finite .positive m e some) (.finite .positive n f factor) =
      .finite .positive x.significand x.exponent canonical.positive := by
  refine roundWithAccuracy_eq canonical rounds fine ?_ _
  rw [mul_div_cancel_right₀ _ (zpow_ne_zero _ two_ne_zero)]
  exact describes_exact _

/-! ### Integers -/

/-- A positive integer of at most 53 bits, its leading bit in first place. -/
def ofInteger (n : Nat) : Binary :=
  ⟨n * 2 ^ (52 - n.log2), -((52 - n.log2 : ℕ) : Int)⟩

section

variable {n : Nat}

theorem ofInteger_canonical (some : 0 < n) (small : n < 2 ^ 53) : (ofInteger n).Canonical := by
  have short : n.log2 < 53 := (Nat.log2_lt some.ne').mpr small
  have low : 2 ^ 52 ≤ n * 2 ^ (52 - n.log2) := by
    calc 2 ^ 52 = 2 ^ n.log2 * 2 ^ (52 - n.log2) := by rw [← pow_add]; congr 1; omega
      _ ≤ n * 2 ^ (52 - n.log2) := Nat.mul_le_mul_right _ (Nat.log2_self_le some.ne')
  have high : n * 2 ^ (52 - n.log2) < 2 ^ 53 := by
    calc n * 2 ^ (52 - n.log2) < 2 ^ (n.log2 + 1) * 2 ^ (52 - n.log2) :=
          Nat.mul_lt_mul_of_pos_right Nat.lt_log2_self (by positivity)
      _ = 2 ^ 53 := by rw [← pow_add]; congr 1; omega
  constructor <;> dsimp only [ofInteger]
  case positive => positivity
  case bits => exact high
  case least => omega
  case greatest => omega
  case lowest => exact .inl low

theorem value_ofInteger (n : Nat) : (ofInteger n).value = n := by
  simp only [Binary.value, ofInteger, zpow_neg, zpow_natCast]
  push_cast
  field_simp

theorem ofNat_eq (some : 0 < n) (small : n < 2 ^ 53) :
    UnpackedFloat.ofNat .binary64 n = .finite .positive (ofInteger n).significand
      (ofInteger n).exponent (ofInteger_canonical some small).positive := by
  have canonical := ofInteger_canonical some small
  have short : n.log2 < 53 := (Nat.log2_lt some.ne').mpr small
  have places : (0 - Format.binary64.targetExponent (totalExponent n 0)).toNat = 52 - n.log2 := by
    rw [targetExponent_eq, totalExponent]
    omega
  have decreased : decreaseExponent n 0 (Format.binary64.targetExponent (totalExponent n 0)) =
      ((ofInteger n).significand, (ofInteger n).exponent) := by
    rw [decreaseExponent, places, Nat.shiftLeft_eq, zero_sub]
    rfl
  have order : compare (n : Int) 0 = .gt := Int.compare_eq_gt.mpr (by exact_mod_cast some)
  rw [UnpackedFloat.ofNat, UnpackedFloat.ofInt, UnpackedFloat.normalize, order]
  dsimp only
  rw [UnpackedFloat.round, Int.toNat_natCast, decreased]
  exact roundWithAccuracy_canonical canonical _

/-- Integers of 53 bits are numbers, exactly. -/
theorem toFloat_eq (some : 0 < n) (small : n < 2 ^ 53) :
    n.toUInt64.toFloat.toModel.unpack = .finite .positive (ofInteger n).significand
      (ofInteger n).exponent (ofInteger_canonical some small).positive := by
  have same : n.toUInt64.toNat = n := UInt64.toNat_ofNat_of_lt' (by
    rw [UInt64.size]
    omega)
  change (Float.Model.pack (UnpackedFloat.ofNat .binary64 n.toUInt64.toNat)).unpack = _
  rw [same, ofNat_eq some small]
  exact unpack_pack (ofInteger_canonical some small)

end

/-! ### Decimals -/

/-- The positive finite number that parts stand for. -/
def positive? : UnpackedFloat → Option Binary
  | .finite .positive significand exponent _ => some ⟨significand, exponent⟩
  | _ => none

/-- The powers of ten in the table are exact. -/
theorem powers_exact : ∀ k : Fin 23,
    (positive? (Float.exactlyRepresentablePowersOfTen[k]).toModel.unpack).any (fun x =>
      x.significand * 2 ^ x.exponent.toNat == 10 ^ k.val * 2 ^ (-x.exponent).toNat) = true := by
  decide +kernel

theorem power_of_ten (k : Fin 23) : ∃ x : Binary, x.value = 10 ^ k.val ∧ ∃ some,
    (Float.exactlyRepresentablePowersOfTen[k]).toModel.unpack =
      .finite .positive x.significand x.exponent some := by
  have exact := powers_exact k
  cases parts : (Float.exactlyRepresentablePowersOfTen[k]).toModel.unpack with
  | notANumber | infinity | zero =>
    rw [parts] at exact
    cases exact
  | finite sign m e some =>
    rw [parts] at exact
    cases sign with
    | negative => cases exact
    | positive =>
      refine ⟨⟨m, e⟩, ?_, some, rfl⟩
      have same : m * 2 ^ e.toNat = 10 ^ k.val * 2 ^ (-e).toNat := beq_iff_eq.mp exact
      have cast : (m : ℚ) * 2 ^ e.toNat = 10 ^ k.val * 2 ^ (-e).toNat := by exact_mod_cast same
      have position : e = e.toNat - (-e).toNat := by omega
      rw [Binary.value]
      dsimp only
      rw [position, zpow_sub₀ two_ne_zero, zpow_natCast, zpow_natCast, mul_div_assoc', cast]
      field_simp

/-- A decimal with few digits and places is divided by a power of ten from the table. -/
theorem ofScientific_of_few {x : Binary} (canonical : x.Canonical) {digits places : Nat}
    (rounds : x.Rounds (digits / 10 ^ places)) (some : 0 < digits)
    (few : digits < 2 ^ 53 ∧ places ≤ 22) :
    Float.ofScientific digits true places =
      .ofModel (.pack (.finite .positive x.significand x.exponent canonical.positive)) := by
  let k : Fin 23 := ⟨places, Nat.lt_succ_of_le few.2⟩
  obtain ⟨power, value, positive, table⟩ := power_of_ten k
  have dividend := toFloat_eq some few.1
  rw [← value_ofInteger digits, ← value] at rounds
  rw [Float.ofScientific, dif_pos few]
  change Float.ofModel (.pack (UnpackedFloat.div .binary64 digits.toUInt64.toFloat.toModel.unpack
    (Float.exactlyRepresentablePowersOfTen[k]).toModel.unpack)) = _
  rw [dividend, table, div_eq canonical _ _ rounds]

/-- An integer in the interval of a number is that number. -/
theorem mul_one_eq {x : Binary} (canonical : x.Canonical) {n : Nat} (some : 0 < n)
    (rounds : x.Rounds n) {shifted one} :
    UnpackedFloat.mul .binary64 (.finite .positive (n <<< 53) (-53) shifted)
      (.finite .positive 1 0 one) =
        .finite .positive x.significand x.exponent canonical.positive := by
  have bits : 53 ≤ (n <<< 53 * 1).log2 := by
    rw [mul_one, Nat.shiftLeft_eq]
    exact (Nat.le_log2 (by omega)).mpr (by omega)
  have product : ((n <<< 53 * 1 : ℕ) : ℚ) * 2 ^ (-53 + 0 : Int) = n := by
    rw [mul_one, Nat.shiftLeft_eq, add_zero, zpow_neg, ← div_eq_mul_inv, div_eq_iff (by norm_num)]
    push_cast
    rfl
  refine mul_eq canonical _ _ ?_ (product.symm ▸ rounds)
  rw [targetExponent_eq, totalExponent]
  omega

/-- A decimal in the interval of a number is not so small that it is taken for zero. -/
theorem places_bound {x : Binary} (canonical : x.Canonical) {digits places : Nat}
    (rounds : x.Rounds (digits / 10 ^ places)) : places ≤ 2048 + digits.log2 := by
  have least : (2 : ℚ) ^ (-1075 : Int) ≤ digits / 10 ^ places := by
    calc (2 : ℚ) ^ (-1075 : Int) ≤ 2 ^ (x.exponent - 1) :=
          zpow_le_zpow_right₀ one_le_two (by linarith [canonical.least])
      _ = 1 / 2 * 2 ^ x.exponent := by rw [zpow_sub_one₀ two_ne_zero]; ring
      _ ≤ digits / 10 ^ places := (le_div_iff₀ (zpow_pos two_pos _)).mp (rounds.half_le canonical)
  have most : (digits : ℚ) / 10 ^ places < 2 ^ ((digits.log2 : Int) + 1 - 3 * places) := by
    have bits : (digits : ℚ) < 2 ^ (digits.log2 + 1) := by exact_mod_cast Nat.lt_log2_self
    -- Ten is more than eight, so that every place takes at least three bits.
    have tens : (2 : ℚ) ^ (3 * places) ≤ 10 ^ places := by
      rw [pow_mul]
      exact pow_le_pow_left₀ (by norm_num) (by norm_num) _
    rw [zpow_sub₀ two_ne_zero]
    exact_mod_cast div_lt_div₀ bits tens (by positivity) (by positivity)
  have bound := lt_of_powers least most
  omega

theorem ofScientific_of_many {x : Binary} (canonical : x.Canonical) {digits places : Nat}
    (rounds : x.Rounds (digits / 10 ^ places)) (some : 0 < digits) :
    UnpackedFloat.ofScientific .binary64 digits (Int.negOfNat places) =
      .finite .positive x.significand x.exponent canonical.positive := by
  have bound := places_bound canonical rounds
  have negative : Int.negOfNat places = -(places : Int) := Int.negOfNat_eq
  have notHuge : ¬-(places : Int) > 2 ^ Format.binary64.exponentBits := by
    change ¬_ > (2048 : Int)
    omega
  have notTiny : ¬-(places : Int) < -((2 ^ Format.binary64.exponentBits : Int) + digits.log2) := by
    change ¬_ < -((2048 : Int) + _)
    omega
  rw [negative, UnpackedFloat.ofScientific, dif_neg some.ne', if_neg notHuge, if_neg notTiny]
  -- Decimals without a fraction are products with a power of ten, the others quotients by one.
  by_cases integral : places = 0
  · subst integral
    rw [if_pos (by decide)]
    exact mul_one_eq canonical some (by simpa using rounds)
  · rw [if_neg (by omega)]
    refine div_eq canonical _ _ ?_
    rw [neg_neg, Int.toNat_natCast]
    push_cast
    simpa using rounds

/-- A decimal in the interval of a number is that number. -/
theorem ofScientific_eq {x : Binary} (canonical : x.Canonical) {digits places : Nat}
    (rounds : x.Rounds (digits / 10 ^ places)) :
    Float.ofScientific digits true places =
      .ofModel (.pack (.finite .positive x.significand x.exponent canonical.positive)) := by
  have some : 0 < digits := by
    by_contra none
    obtain rfl : digits = 0 := by omega
    simpa using rounds.pos canonical
  by_cases few : digits < 2 ^ 53 ∧ places ≤ 22
  · exact ofScientific_of_few canonical rounds some few
  · rw [Float.ofScientific, dif_neg few]
    exact congrArg (fun u => Float.ofModel (.pack u)) (ofScientific_of_many canonical rounds some)

/-- A decimal without a fraction, of at most 53 bits, is that integer exactly. -/
theorem ofScientific_integer {n : Nat} (small : n < 2 ^ 53) :
    Float.ofScientific n true 0 = n.toUInt64.toFloat := by
  rcases Nat.eq_zero_or_pos n with rfl | some
  · decide +kernel
  · have rounds := (ofInteger n).rounds_value
    rw [value_ofInteger] at rounds
    have whole : Float.ofModel (.pack n.toUInt64.toFloat.toModel.unpack) = n.toUInt64.toFloat := by
      rw [pack_unpack]
    rw [ofScientific_eq (ofInteger_canonical some small) (by simpa using rounds), ← whole,
      toFloat_eq some small]

end DiceChat.Number
