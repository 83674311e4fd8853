import Mathlib
import DiceChat.Expr.Basic
import DiceChat.Proofs.Expr.Spelling
import DiceChat.Proofs.Number.Quotient
import DiceChat.Proofs.Number.Shortest

/-!
# Written numbers are read back

A finite number without a sign is written as a literal, and the literal has the number as its value:
its digits round to the number, wherever the point stands among them. A number with the sign bit is
written as a minus and its opposite.

## Main results

* `literalValue_writeChars`: the literal that a number is written as has the number as its value.
* `writeChars_of_negative`: how numbers with the sign bit are written.
* `valueText_inj`: no two finite numbers are written alike.
-/

namespace DiceChat

/-! ### Zeros in front and behind -/

theorem digitsValue_append (front back : List Char) :
    digitsValue (front ++ back) = digitsFrom (digitsValue front) back :=
  List.foldl_append

theorem digitsFrom_replicate_zero (value count : Nat) :
    digitsFrom value (List.replicate count '0') = value * 10 ^ count := by
  induction count generalizing value with
  | zero => exact (Nat.mul_one value).symm
  | succ count ih =>
    have step : digitsFrom value ('0' :: List.replicate count '0') =
        digitsFrom (value * 10) (List.replicate count '0') := rfl
    rw [List.replicate_succ, step, ih, pow_succ]
    ring

namespace Number

/-! ### Digits with a point -/

/-- Digits, possibly with a point, are a literal for a fraction of a power of ten. -/
structure Reads (run : List Char) (v : ℚ) : Prop where
  literal : IsLiteral run
  value : ∃ digits places : Nat, literalValue run = .ofScientific digits true places ∧
    v = digits / 10 ^ places

theorem reads_digits {digits : List Char} (filled : digits ≠ [])
    (all : ∀ c ∈ digits, c.isDigit = true) : Reads digits (digitsValue digits) := by
  constructor
  case literal => exact (isLiteral_digits_iff all).mpr filled
  case value =>
    refine ⟨digitsValue digits, 0, ?_, by simp⟩
    rw [literalValue_digits all, ofParts, List.append_nil]
    rfl

theorem reads_point {whole fraction : List Char} (filled : whole ≠ [])
    (all : ∀ c ∈ whole, c.isDigit = true) (fractionAll : ∀ c ∈ fraction, c.isDigit = true) :
    Reads (whole ++ '.' :: fraction) (digitsValue (whole ++ fraction) / 10 ^ fraction.length) := by
  constructor
  case literal =>
    rw [isLiteral_point_iff all fun c member => .inl (fractionAll c member)]
    exact ⟨fractionAll, fun empty => filled empty.1⟩
  case value => exact ⟨_, _, literalValue_point all fractionAll, rfl⟩

theorem isDigit_of_mem_zeros (count : Nat) : ∀ c ∈ List.replicate count '0', c.isDigit = true := by
  intro c member
  rw [List.eq_of_mem_replicate member]
  rfl

section

variable {digits : List Char} (all : ∀ c ∈ digits, c.isDigit = true)
include all

/-- Zeros behind the digits fill the places up to the point. -/
theorem reads_zeros (filled : digits ≠ []) (zeros : Nat) :
    Reads (digits ++ List.replicate zeros '0') (digitsValue digits * 10 ^ zeros) := by
  have value : digitsValue (digits ++ List.replicate zeros '0') =
      digitsValue digits * 10 ^ zeros := by
    rw [digitsValue_append, digitsFrom_replicate_zero]
  have reads := reads_digits (List.append_ne_nil_of_left_ne_nil filled (List.replicate zeros '0'))
    fun c member => (List.mem_append.mp member).elim (all c) (isDigit_of_mem_zeros zeros c)
  rw [value] at reads
  exact_mod_cast reads

/-- The point stands among the digits. -/
theorem reads_split {places : Nat} (inside : places < digits.length) :
    Reads (digits.take (digits.length - places) ++ '.' :: digits.drop (digits.length - places))
      (digitsValue digits / 10 ^ places) := by
  have filled : digits.take (digits.length - places) ≠ [] := by
    rw [← List.length_pos_iff, List.length_take]
    omega
  have behind : (digits.drop (digits.length - places)).length = places := by
    rw [List.length_drop]
    omega
  have fractionAll : ∀ c ∈ digits.drop (digits.length - places), c.isDigit = true :=
    fun c member => all c (List.mem_of_mem_drop member)
  have reads := reads_point filled (fun c member => all c (List.mem_of_mem_take member)) fractionAll
  rwa [List.take_append_drop, behind] at reads

/-- Zeros fill the places between the point and the digits. -/
theorem reads_padded (zeros : Nat) :
    Reads (['0', '.'] ++ List.replicate zeros '0' ++ digits)
      (digitsValue digits / 10 ^ (zeros + digits.length)) := by
  have value : digitsValue (['0'] ++ (List.replicate zeros '0' ++ digits)) =
      digitsValue digits := by
    have nothing : digitsValue (['0'] ++ List.replicate zeros '0') = 0 := by
      rw [digitsValue_append, digitsFrom_replicate_zero]
      exact Nat.zero_mul _
    rw [← List.append_assoc, digitsValue_append, nothing]
    rfl
  have places : (List.replicate zeros '0' ++ digits).length = zeros + digits.length := by
    rw [List.length_append, List.length_replicate]
  have reads := reads_point (List.cons_ne_nil '0' []) (isDigit_of_mem_zeros 1)
    fun c member => (List.mem_append.mp member).elim (isDigit_of_mem_zeros zeros c) (all c)
  rwa [value, places] at reads

end

/-- A decimal is written as a literal for it. -/
theorem reads_positional (d : Decimal) : Reads (d.positional false) (d.digits * 10 ^ d.place) := by
  have digits : digitsValue (digitChars d.digits) = d.digits := digitsValue_toDigits d.digits
  have all : ∀ c ∈ digitChars d.digits, c.isDigit = true := isDigit_of_mem_toDigits
  unfold Decimal.positional
  dsimp only
  split
  next integral =>
    have reads := reads_zeros all Nat.toDigits_ne_nil d.place.toNat
    rw [digits, ← zpow_natCast, Int.toNat_of_nonneg integral] at reads
    rwa [if_neg nofun, List.append_nil]
  next fractional =>
    have scaled : (d.digits * 10 ^ d.place : ℚ) = d.digits / 10 ^ (-d.place).toNat := by
      have place : d.place = -((-d.place).toNat : Int) := by omega
      conv_lhs => rw [place]
      rw [zpow_neg, zpow_natCast, div_eq_mul_inv]
    rw [scaled]
    split
    next inside =>
      have reads := reads_split all inside
      rwa [digits] at reads
    next outside =>
      have reads := reads_padded all ((-d.place).toNat - (digitChars d.digits).length)
      rwa [Nat.sub_add_cancel (Nat.le_of_not_lt outside), digits] at reads

/-! ### Numbers -/

/-- Whether a number has the sign bit. -/
def isNegative (x : Float) : Bool :=
  match x.toModel.unpack with
  | .infinity .negative | .zero .negative | .finite .negative .. => true
  | _ => false

variable {x : Float}

/-- A finite number without the sign bit is written as a literal, and has its value. -/
theorem literalValue_writeChars (finite : x.isFinite = true) (positive : isNegative x = false) :
    IsLiteral (valueStyle.writeChars x) ∧ literalValue (valueStyle.writeChars x) = x := by
  have whole : Float.ofModel (.pack x.toModel.unpack) = x := by rw [pack_unpack]
  have packable := packable_unpack x.toModel
  change x.toModel.unpack.isFinite = true at finite
  unfold isNegative at positive
  unfold Style.writeChars
  cases parts : x.toModel.unpack with
  | notANumber | infinity =>
    rw [parts] at finite
    cases finite
  | zero sign =>
    rw [parts] at whole positive
    cases sign with
    | negative => cases positive
    | positive =>
      have literal : IsLiteral ['0'] :=
        (isLiteral_digits_iff (isDigit_of_mem_zeros 1)).mpr (List.cons_ne_nil _ _)
      refine ⟨literal, ?_⟩
      -- The two zeros are told apart by their bits.
      rw [← whole]
      decide +kernel
  | finite sign m e some =>
    rw [parts] at whole positive packable
    cases sign with
    | negative => cases positive
    | positive =>
      obtain ⟨literal, digits, places, value, same⟩ :=
        reads_positional (Binary.shortest ⟨m, e⟩)
      refine ⟨literal, ?_⟩
      -- The digits round to the number, and they are read as a decimal of the same value.
      have rounds := Binary.shortest_rounds (x := ⟨m, e⟩) packable
      rw [same] at rounds
      change literalValue ((Binary.shortest ⟨m, e⟩).positional false) = x
      rw [value, ofScientific_eq packable rounds, whole]

/-- A number with the sign bit is written as a minus and its opposite, which has no sign bit. -/
theorem writeChars_of_negative (finite : x.isFinite = true) (negative : isNegative x = true) :
    valueStyle.writeChars x = '-' :: valueStyle.writeChars (-x) ∧ (-x).isFinite = true ∧
      isNegative (-x) = false := by
  have opposite := unpack_neg x
  change x.toModel.unpack.isFinite = true at finite
  change _ ∧ (-x).toModel.unpack.isFinite = true ∧ _
  unfold isNegative at negative ⊢
  unfold Style.writeChars
  rw [opposite]
  cases parts : x.toModel.unpack with
  | notANumber | infinity =>
    rw [parts] at finite
    cases finite
  | zero sign | finite sign m e some =>
    rw [parts] at negative
    cases sign with
    | positive => cases negative
    | negative => exact ⟨rfl, rfl, rfl⟩

/-! ### Texts of values -/

variable {y : Float}

/-- The characters of a finite value: digits, a point and a minus. -/
theorem mem_valueText (finite : x.isFinite = true) {c : Char} (member : c ∈ (valueText x).toList) :
    c.isDigit = true ∨ c = '.' ∨ c = '-' := by
  have text : (valueText x).toList = valueStyle.writeChars x := String.toList_ofList
  rw [text] at member
  by_cases negative : isNegative x = true
  · obtain ⟨written, opposite, positive⟩ := writeChars_of_negative finite negative
    rw [written, List.mem_cons] at member
    rcases member with rfl | member
    · exact .inr (.inr rfl)
    · have chars := (literalValue_writeChars opposite positive).1.chars c member
      exact chars.imp_right .inl
  · rw [Bool.not_eq_true] at negative
    have chars := (literalValue_writeChars finite negative).1.chars c member
    exact chars.imp_right .inl

theorem minus_not_mem (finite : x.isFinite = true) (positive : isNegative x = false) :
    '-' ∉ valueStyle.writeChars x := by
  intro member
  rcases (literalValue_writeChars finite positive).1.chars _ member with digit | point
  · cases digit
  · cases point

theorem writeChars_inj_of_positive (finite : x.isFinite = true) (finite' : y.isFinite = true)
    (positive : isNegative x = false) (positive' : isNegative y = false)
    (same : valueStyle.writeChars x = valueStyle.writeChars y) : x = y := by
  rw [← (literalValue_writeChars finite positive).2, same,
    (literalValue_writeChars finite' positive').2]

/-- No two finite values have one text. -/
theorem valueText_inj (finite : x.isFinite = true) (finite' : y.isFinite = true)
    (same : valueText x = valueText y) : x = y := by
  have chars : valueStyle.writeChars x = valueStyle.writeChars y := String.ofList_injective same
  cases negative : isNegative x with
  | false =>
    cases negative' : isNegative y with
    | false => exact writeChars_inj_of_positive finite finite' negative negative' chars
    | true =>
      -- Only one of the texts has a minus.
      rw [(writeChars_of_negative finite' negative').1] at chars
      exact absurd (chars ▸ List.mem_cons_self) (minus_not_mem finite negative)
  | true =>
    obtain ⟨written, opposite, positive⟩ := writeChars_of_negative finite negative
    cases negative' : isNegative y with
    | false =>
      rw [written] at chars
      exact absurd (chars ▸ List.mem_cons_self) (minus_not_mem finite' negative')
    | true =>
      obtain ⟨written', opposite', positive'⟩ := writeChars_of_negative finite' negative'
      rw [written, written', List.cons.injEq] at chars
      have opposites := writeChars_inj_of_positive opposite opposite' positive positive' chars.2
      rw [← neg_neg_float x, opposites, neg_neg_float]

end Number
end DiceChat
