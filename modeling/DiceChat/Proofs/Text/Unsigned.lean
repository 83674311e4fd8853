import Mathlib
import DiceChat.Proofs.Text.Digits
import DiceChat.Proofs.Text.Span

/-!
# Numbers in text

Which texts are read as unsigned numbers of 32 bits: an optional plus and a run of digits, with any
number of zeros in front. Any other text has the first fault from the left.

## Main results

* `readUnsigned_eq_iff`: the number or the fault of every text.
-/

namespace DiceChat

/-- A text is the number `n` in decimal digits, with an optional plus in front. -/
def IsUnsigned (text : List Char) (n : Nat) : Prop :=
  ∃ digits, (text = digits ∨ text = '+' :: digits) ∧ digits ≠ [] ∧
    (∀ c ∈ digits, c.isDigit = true) ∧ digitsValue digits = n

/-- Why a text is no number of 32 bits: reading stops at the first digit that makes it too large, or
at the first character that is no digit. -/
inductive UnsignedFault.Of (text : List Char) : UnsignedFault → Prop where
  | empty : text = [] → Of text .empty
  | tooLarge {digits rest} : withoutPlus text = digits ++ rest →
      (∀ c ∈ digits, c.isDigit = true) → 2 ^ 32 ≤ digitsValue digits → Of text .tooLarge
  | invalidDigit {digits rest} : text ≠ [] → withoutPlus text = digits ++ rest →
      (∀ c ∈ digits, c.isDigit = true) → digitsValue digits < 2 ^ 32 → Stops Char.isDigit rest →
      digits = [] ∨ rest ≠ [] → Of text .invalidDigit

/-- The answer to a text. -/
inductive ReadsUnsigned (text : List Char) : Except UnsignedFault UInt32 → Prop where
  | number {n : UInt32} : IsUnsigned text n.toNat → ReadsUnsigned text (.ok n)
  | fault {fault} : UnsignedFault.Of text fault → ReadsUnsigned text (.error fault)

theorem isUnsigned_iff {text : List Char} {n : Nat} : IsUnsigned text n ↔
    withoutPlus text ≠ [] ∧ (∀ c ∈ withoutPlus text, c.isDigit = true) ∧
      digitsValue (withoutPlus text) = n := by
  constructor
  · rintro ⟨digits, rfl | rfl, filled, all, value⟩
    · obtain ⟨c, rest, rfl⟩ := List.exists_cons_of_ne_nil filled
      have other : c ≠ '+' := by
        rintro rfl
        cases all '+' List.mem_cons_self
      rw [withoutPlus_of_ne other]
      exact ⟨filled, all, value⟩
    · exact ⟨filled, all, value⟩
  · rintro ⟨filled, all, value⟩
    refine ⟨withoutPlus text, ?_, filled, all, value⟩
    unfold withoutPlus
    split
    next => exact .inr rfl
    next => exact .inl rfl

theorem readDigits_stop {value : Nat} {rest : List Char} (stops : Stops Char.isDigit rest)
    (more : rest ≠ []) : readDigits value rest = .error .invalidDigit := by
  obtain ⟨c, rest, rfl⟩ := List.exists_cons_of_ne_nil more
  rw [readDigits, if_neg (by simp [stops_cons.mp stops])]

/-- Reading gives the answer that the text has. -/
theorem readUnsigned_of_reading {text : List Char} {answer : Except UnsignedFault UInt32}
    (reading : ReadsUnsigned text answer) : readUnsigned text = answer := by
  have zero : 0 < UInt32.size := by decide
  cases reading with
  | @number n number =>
    obtain ⟨filled, all, value⟩ := isUnsigned_iff.mp number
    have some : text ≠ [] := by
      rintro rfl
      exact filled rfl
    have small : digitsFrom 0 (withoutPlus text) < UInt32.size := by
      change digitsValue (withoutPlus text) < _
      rw [value]
      exact n.toNat_lt
    rw [readUnsigned_withoutPlus, if_neg some, if_neg filled, readDigits_eq all zero, if_pos small]
    change Except.ok (UInt32.ofNat (digitsValue (withoutPlus text))) = _
    rw [value, UInt32.ofNat_toNat]
  | fault fault =>
    cases fault with
    | empty none => rw [readUnsigned_withoutPlus, if_pos none]
    | @tooLarge digits rest parts all large =>
      -- What stands behind the digits is not looked at any more.
      have filled : digits ≠ [] := by
        rintro rfl
        exact absurd large (by decide)
      have some : text ≠ [] := by
        rintro rfl
        exact filled (List.append_eq_nil_iff.mp parts.symm).1
      have tooLarge : ¬digitsFrom 0 digits < UInt32.size := Nat.not_lt.mpr large
      rw [readUnsigned_withoutPlus, if_neg some, if_neg (by simp [parts, filled]), parts,
        readDigits_append rest all zero, if_neg tooLarge]
      rfl
    | @invalidDigit digits rest some parts all small stops faulty =>
      rw [readUnsigned_withoutPlus, if_neg some, parts]
      by_cases nothing : digits ++ rest = []
      · rw [if_pos nothing]
      · -- The digits fit, so reading comes to the character that is none.
        have more : rest ≠ [] := by
          rcases faulty with rfl | more
          · exact nothing
          · exact more
        have fits : digitsFrom 0 digits < UInt32.size := small
        rw [if_neg nothing, readDigits_append rest all zero, if_pos fits,
          readDigits_stop stops more]
        rfl

theorem exists_reading (text : List Char) : ∃ answer, ReadsUnsigned text answer := by
  by_cases none : text = []
  · exact ⟨_, .fault (.empty none)⟩
  -- All the digits in front decide, since more of them only make the number larger.
  obtain ⟨digits, rest, parts, all, stops, -, -⟩ := exists_span Char.isDigit (withoutPlus text)
  by_cases small : digitsValue digits < 2 ^ 32
  · by_cases faulty : digits = [] ∨ rest ≠ []
    · exact ⟨_, .fault (.invalidDigit none parts all small stops faulty)⟩
    · rw [not_or, not_not] at faulty
      obtain ⟨filled, rfl⟩ := faulty
      rw [List.append_nil] at parts
      have value : (UInt32.ofNat (digitsValue digits)).toNat = digitsValue digits :=
        UInt32.toNat_ofNat_of_lt' small
      refine ⟨.ok (UInt32.ofNat (digitsValue digits)), .number (isUnsigned_iff.mpr ?_)⟩
      rw [parts]
      exact ⟨filled, all, value.symm⟩
  · exact ⟨_, .fault (.tooLarge parts all (Nat.not_lt.mp small))⟩

/-- The number or the fault of every text. -/
theorem readUnsigned_eq_iff {text : List Char} {answer : Except UnsignedFault UInt32} :
    readUnsigned text = answer ↔ ReadsUnsigned text answer := by
  constructor
  · rintro rfl
    obtain ⟨answer, reading⟩ := exists_reading text
    rw [readUnsigned_of_reading reading]
    exact reading
  · exact readUnsigned_of_reading

end DiceChat
