import Mathlib
import DiceChat.Proofs.Directive.Format

/-!
# Directives in normal form

What the directives that messages can have look like, and the text that writes such a directive
again: its dice, its modifier and its label with one blank between them.

## Main results

* `Directive.normal_of_find`: what is found in a message is in normal form.
* `Directive.find_rewritten`: a directive that was found is found again where its normal form
  stands, whatever stands around it.

## Proof strategy

The properties that make a directive normal are those that the format gives its parts, less the
blanks that were trimmed. They are also all that the format needs to cut the parts out again.
-/

namespace DiceChat
namespace Directive

/-- The dice, the modifier and the label with a blank between them. -/
def normalText (directive : Directive) : String :=
  directive.dice.text ++ " " ++ directive.modifier ++ " " ++ directive.label

/-- What the parts of a directive in a message have in common. -/
structure Normal (directive : Directive) : Prop where
  valid : directive.dice.Valid
  /-- The number of dice is a single digit. -/
  count : directive.dice.count.toNat ≤ 9
  modifier : ∀ c ∈ directive.modifier.toList, isLetter c = false ∧ c ≠ ']'
  modifierStarts : Stops isBlank directive.modifier.toList
  modifierEnds : Stops isBlank directive.modifier.toList.reverse
  label : ∃ c rest, directive.label.toList = c :: rest ∧ isLetter c = true
  labelCloses : ']' ∉ directive.label.toList
  labelEnds : Stops isBlank directive.label.toList.reverse

variable {directive : Directive}

/-! ### Directives that are found -/

theorem normal_of_decides {body : List Char} (closes : ']' ∉ body)
    (decides : Decides body (.ok (some directive))) : Normal directive := by
  cases decides with
  | @directive parts count sides modifier label written filled labelFilled countValue sidesValue
      countFilled sidesFilled small trims trimsEnd =>
    obtain ⟨front, rfl, -⟩ := written.spec
    have digit := digitValue_lt written.count
    obtain ⟨before, after, trimmed, -, -⟩ := trims.blanks
    obtain ⟨behind, trimmedEnd, -⟩ := trimsEnd.blanks
    -- The modifier and the label are pieces of the body, in which nothing closes.
    have modifierCloses : ']' ∉ modifier := by
      intro member
      exact closes (by simp [trimmed, member])
    have labelCloses : ']' ∉ label := by
      intro member
      exact closes (by simp [trimmedEnd, member])
    have others := modifier_of_trims trims written.modifier
    constructor
    case valid => exact ⟨Nat.pos_of_ne_zero countFilled, Nat.pos_of_ne_zero sidesFilled, small⟩
    case count =>
      change count.toNat ≤ 9
      omega
    case modifier =>
      simp only [String.toList_ofList]
      intro c member
      refine ⟨others c member, ?_⟩
      rintro rfl
      exact modifierCloses member
    case modifierStarts => simpa only [String.toList_ofList] using trims.starts
    case modifierEnds => simpa only [String.toList_ofList] using trims.ends
    case label =>
      simpa only [String.toList_ofList] using
        label_of_trimsEnd trimsEnd labelFilled written.modifierEnd
    case labelCloses => simpa only [String.toList_ofList] using labelCloses
    case labelEnds => simpa only [String.toList_ofList] using trimsEnd.ends

/-- The directive of a message is in normal form. -/
theorem normal_of_find {text : String} (found : find text = .ok (some directive)) :
    Normal directive := by
  cases find_eq_iff_format.mp found with
  | body bracketed decides =>
    obtain ⟨-, -, -, -, closes⟩ := bracketed
    exact normal_of_decides closes decides

/-! ### Normal forms that are read -/

/-- The parts of a directive where its normal form is written. -/
def normalParts (directive : Directive) : Parts where
  count := directive.dice.count.toNat.digitChar
  sides := Nat.toDigits 10 directive.dice.sides.toNat
  modifier := ' ' :: (directive.modifier.toList ++ [' '])
  label := directive.label.toList

theorem toList_normalText (small : directive.dice.count.toNat ≤ 9) :
    directive.normalText.toList = directive.normalParts.count :: 'd' ::
      (directive.normalParts.sides ++
        (directive.normalParts.modifier ++ directive.normalParts.label)) := by
  have written : directive.normalText.toList =
      (toString directive.dice.count).toList ++ ['d'] ++ (toString directive.dice.sides).toList ++
        [' '] ++ directive.modifier.toList ++ [' '] ++ directive.label.toList := by
    simp only [normalText, Dice.text, String.toList_append]
    rfl
  rw [written, toList_toString_uint32, toList_toString_uint32,
    Nat.toDigits_of_lt_base (Nat.lt_succ_of_le small)]
  simp only [normalParts, List.append_assoc, List.cons_append, List.nil_append]

theorem isDigit_digitChar {n : Nat} (small : n ≤ 9) : n.digitChar.isDigit = true := by
  apply isDigit_of_mem_toDigits (n := n)
  rw [Nat.toDigits_of_lt_base (Nat.lt_succ_of_le small)]
  exact List.mem_singleton_self _

theorem digitValue_digitChar {n : Nat} (small : n ≤ 9) : digitValue n.digitChar = n :=
  Nat.toNat_digitChar_sub_48_of_lt_ten (Nat.lt_succ_of_le small)

/-- A single character holds no spec, so the one at the start of a normal form is the first. -/
theorem not_hasSpec_singleton (c : Char) : ¬HasSpec [c] := by
  rw [hasSpec_cons, not_or]
  refine ⟨?_, not_hasSpec_nil⟩
  rintro ⟨-, ⟨⟩⟩

theorem Normal.written (normal : Normal directive) :
    Written directive.normalText.toList directive.normalParts := by
  obtain ⟨first, rest, label, letter⟩ := normal.label
  constructor
  case spec =>
    refine ⟨[], toList_normalText normal.count, ?_⟩
    exact not_hasSpec_singleton _
  case count => exact isDigit_digitChar normal.count
  case sides => exact isDigit_of_mem_toDigits
  case sidesEnd =>
    -- The blank behind the sides ends them.
    exact stops_cons.mpr rfl
  case modifier =>
    have blank : isLetter ' ' = false := by decide +kernel
    intro c member
    simp only [normalParts, List.mem_cons, List.mem_append, List.not_mem_nil, or_false] at member
    rcases member with rfl | inside | rfl
    · exact blank
    · exact (normal.modifier c inside).1
    · exact blank
  case modifierEnd =>
    intro c member
    rw [normalParts, label, List.head?_cons, Option.mem_some] at member
    rw [← member]
    exact letter

theorem Normal.closes (normal : Normal directive) : ']' ∉ directive.normalText.toList := by
  rw [toList_normalText normal.count]
  intro member
  -- A bracket is no digit, no `d` and no blank, and it is in neither of the two texts.
  simp only [normalParts, List.mem_cons, List.mem_append, List.not_mem_nil, or_false] at member
  rcases member with digit | mark | digit | (blank | inside | blank) | inside
  · have none := isDigit_digitChar normal.count
    rw [← digit] at none
    cases none
  · cases mark
  · cases isDigit_of_mem_toDigits _ digit
  · cases blank
  · exact (normal.modifier _ inside).2 rfl
  · cases blank
  · exact normal.labelCloses inside

theorem Normal.decides (normal : Normal directive) :
    Decides directive.normalText.toList (.ok (some directive)) := by
  obtain ⟨first, rest, label, -⟩ := normal.label
  obtain ⟨count, sides, small⟩ := normal.valid
  have modifier : Trims directive.normalParts.modifier directive.modifier.toList := by
    have blank : ∀ c ∈ [' '], isBlank c = true := by
      intro c member
      rw [List.mem_singleton] at member
      rw [member]
      rfl
    exact ⟨normal.modifierStarts, normal.modifierEnds, [' '], [' '], rfl, blank, blank⟩
  have labelEnd : TrimsEnd directive.normalParts.label directive.label.toList :=
    ⟨normal.labelEnds, [], (List.append_nil _).symm, nofun⟩
  have countValue : directive.dice.count.toNat = digitValue directive.normalParts.count :=
    (digitValue_digitChar normal.count).symm
  have sidesValue : directive.dice.sides.toNat = digitsValue directive.normalParts.sides :=
    (digitsValue_toDigits _).symm
  have decides := Decides.directive normal.written Nat.toDigits_ne_nil
    (by simp [normalParts, label]) countValue sidesValue (by omega) (by omega) small modifier
    labelEnd
  simpa only [String.ofList_toList] using decides

/-- A directive in normal form is found between the brackets that its text stands in. -/
theorem find_of_normal (normal : Normal directive) {front : String}
    (unopened : '[' ∉ front.toList) (behind : String) :
    find (front ++ "[" ++ directive.normalText ++ "]" ++ behind) = .ok (some directive) := by
  apply find_of_format
  refine .body ⟨front.toList, behind.toList, ?_, unopened, normal.closes⟩ normal.decides
  simp only [String.toList_append, List.append_assoc]
  rfl

/-- A directive that was found in a message is found again in every message that holds its normal
form, if no bracket opens before it. -/
theorem find_rewritten {text : String} (found : find text = .ok (some directive))
    {front : String} (unopened : '[' ∉ front.toList) (behind : String) :
    find (front ++ "[" ++ (directive.dice.text ++ " " ++ directive.modifier ++ " " ++
      directive.label) ++ "]" ++ behind) = .ok (some directive) :=
  find_of_normal (normal_of_find found) unopened behind

/-- The count loses a digit, the sides a zero and the modifier its blank; the bracket and the dice
in the label stay, and so do the brackets around it. -/
theorem find_rewritten_blast :
    find "[12d06\u00a0* (2) d20 blast [3d4]" =
      .ok (some ⟨⟨6, 2⟩, "* (2)", "d20 blast [3d4"⟩) ∧ '[' ∉ "so] ".toList ∧
    find ("so] " ++ "[" ++ ((Dice.mk 6 2).text ++ " " ++ "* (2)" ++ " " ++ "d20 blast [3d4") ++
      "]" ++ " [1d2 x]") = .ok (some ⟨⟨6, 2⟩, "* (2)", "d20 blast [3d4"⟩) := by
  have found : find "[12d06\u00a0* (2) d20 blast [3d4]" =
      .ok (some ⟨⟨6, 2⟩, "* (2)", "d20 blast [3d4"⟩) := by
    decide +kernel
  have unopened : '[' ∉ "so] ".toList := by decide +kernel
  exact ⟨found, unopened, find_rewritten found unopened " [1d2 x]"⟩

end Directive
end DiceChat
