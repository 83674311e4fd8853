import DiceChat.Text.Unsigned

/-!
# Runs of digits

A run of digits is read to its value, if that has 32 bits. Reading stops at the first digit that
takes the number beyond them; the digits after it only make the number larger, so leading zeros and
the place of the overflow do not matter. A plus in front is passed over. The digits that a number is
written with have its value.
-/

namespace DiceChat

theorem isDigit_iff_toNat {c : Char} : c.isDigit = true ↔ 48 ≤ c.toNat ∧ c.toNat ≤ 57 := by
  simp only [Char.isDigit, Bool.and_eq_true, decide_eq_true_eq, ge_iff_le, UInt32.le_iff_toNat_le]
  exact Iff.rfl

theorem digitValue_lt {c : Char} (digit : c.isDigit = true) : digitValue c < 10 := by
  have range := isDigit_iff_toNat.mp digit
  change c.toNat - 48 < 10
  omega

/-- The value of `digits` behind digits of the value `value`. -/
def digitsFrom (value : Nat) (digits : List Char) : Nat :=
  digits.foldl (fun value c => value * 10 + digitValue c) value

theorem le_digitsFrom (value : Nat) (digits : List Char) : value ≤ digitsFrom value digits := by
  induction digits generalizing value with
  | nil => exact Nat.le_refl _
  | cons c digits ih =>
    have grown : value * 10 + digitValue c ≤ digitsFrom value (c :: digits) :=
      ih (value * 10 + digitValue c)
    omega

/-- Digits are read on to what stands behind them, unless they make the number too large. -/
theorem readDigits_append {value : Nat} {digits : List Char} (rest : List Char)
    (all : ∀ c ∈ digits, c.isDigit = true) (small : value < UInt32.size) :
    readDigits value (digits ++ rest) =
      if digitsFrom value digits < UInt32.size then readDigits (digitsFrom value digits) rest
      else .error .tooLarge := by
  induction digits generalizing value with
  | nil => exact (if_pos small).symm
  | cons c digits ih =>
    obtain ⟨digit, others⟩ := List.forall_mem_cons.mp all
    have step : digitsFrom value (c :: digits) = digitsFrom (value * 10 + digitValue c) digits :=
      rfl
    rw [List.cons_append, readDigits, if_pos digit, step]
    by_cases fits : value * 10 + digitValue c < UInt32.size
    · exact (if_pos fits).trans (ih others fits)
    · -- The number is too large already, and no digit makes it smaller.
      have larger := le_digitsFrom (value * 10 + digitValue c) digits
      have tooLarge : ¬digitsFrom (value * 10 + digitValue c) digits < UInt32.size := by omega
      rw [if_neg tooLarge]
      exact if_neg fits

theorem readDigits_eq {value : Nat} {digits : List Char}
    (all : ∀ c ∈ digits, c.isDigit = true) (small : value < UInt32.size) :
    readDigits value digits =
      if digitsFrom value digits < UInt32.size then .ok (digitsFrom value digits)
      else .error .tooLarge := by
  have read := readDigits_append [] all small
  rwa [List.append_nil] at read

/-- What is left of a number without its plus. -/
def withoutPlus : List Char → List Char
  | '+' :: digits => digits
  | text => text

theorem withoutPlus_of_ne {c : Char} (other : c ≠ '+') (rest : List Char) :
    withoutPlus (c :: rest) = c :: rest := by
  unfold withoutPlus
  split
  next same =>
    cases same
    exact absurd rfl other
  next => rfl

theorem readUnsigned_withoutPlus (text : List Char) :
    readUnsigned text =
      if text = [] then .error .empty
      else if withoutPlus text = [] then .error .invalidDigit
      else (readDigits 0 (withoutPlus text)).map UInt32.ofNat := by
  cases text with
  | nil => rfl
  | cons c rest =>
    by_cases plus : c = '+'
    · subst plus
      cases rest <;> rfl
    · have some : c :: rest ≠ [] := List.cons_ne_nil c rest
      rw [withoutPlus_of_ne plus, if_neg some, if_neg some]
      unfold readUnsigned
      split
      next none => cases none
      next sign => cases sign; exact absurd rfl plus
      next sign => cases sign; exact absurd rfl plus
      next => rfl

theorem readUnsigned_eq {digits : List Char} (filled : digits ≠ [])
    (all : ∀ c ∈ digits, c.isDigit = true) :
    readUnsigned digits =
      if digitsValue digits < UInt32.size then .ok (UInt32.ofNat (digitsValue digits))
      else .error .tooLarge := by
  obtain ⟨c, rest, rfl⟩ := List.exists_cons_of_ne_nil filled
  -- A digit is no sign, so the whole run is read as digits.
  have other : c ≠ '+' := by
    rintro rfl
    cases all '+' List.mem_cons_self
  rw [readUnsigned_withoutPlus, withoutPlus_of_ne other, if_neg filled, if_neg filled,
    readDigits_eq all (by decide)]
  change Except.map _ (if digitsValue (c :: rest) < UInt32.size then _ else _) = _
  split <;> rfl

/-! ### Writing -/

theorem digitsFrom_eq_ofDigitChars (value : Nat) (digits : List Char) :
    digitsFrom value digits = Nat.ofDigitChars 10 digits value := by
  simp only [digitsFrom, Nat.ofDigitChars_eq_foldl, digitValue, Nat.mul_comm]

theorem digitsValue_toDigits (n : Nat) : digitsValue (Nat.toDigits 10 n) = n := by
  have same : digitsValue (Nat.toDigits 10 n) = digitsFrom 0 (Nat.toDigits 10 n) := rfl
  rw [same, digitsFrom_eq_ofDigitChars, Nat.ofDigitChars_ten_toDigits]

theorem toDigits_inj {m n : Nat} (same : Nat.toDigits 10 m = Nat.toDigits 10 n) : m = n := by
  rw [← digitsValue_toDigits m, same, digitsValue_toDigits]

theorem isDigit_of_mem_toDigits {n : Nat} : ∀ c ∈ Nat.toDigits 10 n, c.isDigit = true := by
  intro c member
  exact Nat.isDigit_of_mem_toDigits (by decide) (by decide) member

theorem toList_toString_uint32 (n : UInt32) : (toString n).toList = Nat.toDigits 10 n.toNat :=
  Nat.toList_repr

theorem toList_toString_uint64 (n : UInt64) : (toString n).toList = Nat.toDigits 10 n.toNat :=
  Nat.toList_repr

end DiceChat
