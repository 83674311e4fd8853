import Mathlib
import DiceChat.Directive
import DiceChat.Proofs.Text.Digits
import DiceChat.Proofs.Text.Trim

/-!
# The format of directives

What a message answers, by where its brackets, its digits, its `d` and its letters stand. The
scans, the reading of numbers and the checks on the dice are not mentioned.

## Main results

* `Directive.find_decides_format`: the directive of a message, or its fault, is the one that the
  format gives.
-/

namespace DiceChat
namespace Directive

/-! ### The format -/

/-- `body` stands between the first `[` of a text and the first `]` after it. -/
def Bracketed (text body : List Char) : Prop :=
  ∃ front behind, text = front ++ '[' :: (body ++ ']' :: behind) ∧ '[' ∉ front ∧ ']' ∉ body

/-- Some `d` stands directly behind a digit. -/
def HasSpec (text : List Char) : Prop :=
  ∃ c, c.isDigit = true ∧ [c, 'd'] <:+: text

/-- The first `d` behind a digit, all digits after it, everything up to the first letter, and the
rest. -/
structure Written (body : List Char) (parts : Parts) : Prop where
  spec : ∃ front, body = front ++ parts.count :: 'd' ::
    (parts.sides ++ (parts.modifier ++ parts.label)) ∧ ¬HasSpec (front ++ [parts.count])
  count : parts.count.isDigit = true
  sides : ∀ c ∈ parts.sides, c.isDigit = true
  sidesEnd : Stops Char.isDigit (parts.modifier ++ parts.label)
  modifier : ∀ c ∈ parts.modifier, isLetter c = false
  modifierEnd : ∀ c ∈ parts.label.head?, isLetter c = true

/-- The answer to what stands between the brackets, in the order in which faults are reported. -/
inductive Decides (body : List Char) : Except RollError (Option Directive) → Prop where
  | missingDiceSpec : ¬HasSpec body →
      Decides body (.error (.malformedDirective .missingDiceSpec))
  | missingSides {parts} : Written body parts → parts.sides = [] →
      Decides body (.error (.malformedDirective .missingSides))
  | missingLabel {parts} : Written body parts → parts.sides ≠ [] → parts.label = [] →
      Decides body (.error (.malformedDirective .missingLabel))
  | sidesOverflow {parts} : Written body parts → parts.sides ≠ [] → parts.label ≠ [] →
      2 ^ 32 ≤ digitsValue parts.sides →
      Decides body (.error (.numericOverflow (.sides (String.ofList parts.sides))))
  | zeroValue {parts} : Written body parts → parts.sides ≠ [] → parts.label ≠ [] →
      digitsValue parts.sides < 2 ^ 32 →
      digitValue parts.count = 0 ∨ digitsValue parts.sides = 0 →
      Decides body (.error (.malformedDirective .zeroValue))
  | sumOverflow {parts} {count sides : UInt32} : Written body parts → parts.sides ≠ [] →
      parts.label ≠ [] →
      count.toNat = digitValue parts.count → sides.toNat = digitsValue parts.sides →
      count.toNat ≠ 0 → sides.toNat ≠ 0 → 2 ^ 32 ≤ count.toNat * sides.toNat →
      Decides body (.error (.numericOverflow (.sum count sides)))
  | directive {parts} {count sides : UInt32} {modifier label : List Char} :
      Written body parts → parts.sides ≠ [] → parts.label ≠ [] →
      count.toNat = digitValue parts.count → sides.toNat = digitsValue parts.sides →
      count.toNat ≠ 0 → sides.toNat ≠ 0 → count.toNat * sides.toNat < 2 ^ 32 →
      Trims parts.modifier modifier → TrimsEnd parts.label label →
      Decides body (.ok (some ⟨⟨sides, count⟩, String.ofList modifier, String.ofList label⟩))

/-- The answer to a message. -/
inductive Format (text : List Char) : Except RollError (Option Directive) → Prop where
  | unopened : '[' ∉ text → Format text (.ok none)
  | unclosed {front behind} : text = front ++ '[' :: behind → '[' ∉ front → ']' ∉ behind →
      Format text (.ok none)
  | body {body answer} : Bracketed text body → Decides body answer → Format text answer

/-! ### Brackets -/

private theorem ne_of_not_mem {mark : Char} {front : List Char} (absent : mark ∉ front) :
    ∀ c ∈ front, (c != mark) = true := by
  intro c member
  rw [bne_iff_ne]
  rintro rfl
  exact absent member

private theorem not_mem_of_ne {mark : Char} {front : List Char}
    (others : ∀ c ∈ front, (c != mark) = true) : mark ∉ front := by
  intro member
  exact bne_iff_ne.mp (others mark member) rfl

/-- A text has no `mark`, or it is split at the first one. -/
theorem not_mem_or_split (mark : Char) (text : List Char) :
    mark ∉ text ∨ ∃ front behind, text = front ++ mark :: behind ∧ mark ∉ front := by
  obtain ⟨front, rest, rfl, others, stops, -, -⟩ := exists_span (· != mark) text
  have absent := not_mem_of_ne others
  cases rest with
  | nil =>
    left
    rwa [List.append_nil]
  | cons c rest =>
    right
    have found : c = mark := by simpa using stops_cons.mp stops
    subst found
    exact ⟨front, rest, rfl, absent⟩

private theorem stops_mark (mark : Char) (behind : List Char) :
    Stops (· != mark) (mark :: behind) := by
  simp

theorem bracketed?_unopened {text : List Char} (unopened : '[' ∉ text) :
    bracketed? text = none := by
  have nothing : (text ++ []).dropWhile (· != '[') = [] :=
    dropWhile_append_stops (ne_of_not_mem unopened) stops_nil
  rw [List.append_nil] at nothing
  rw [bracketed?, nothing]
  rfl

theorem bracketed?_unclosed {front behind : List Char} (first : '[' ∉ front)
    (unclosed : ']' ∉ behind) : bracketed? (front ++ '[' :: behind) = none := by
  rw [bracketed?, dropWhile_append_stops (ne_of_not_mem first) (stops_mark '[' behind),
    List.tail_cons]
  exact if_neg (by simpa using unclosed)

theorem bracketed?_of_bracketed {text body : List Char} (bracketed : Bracketed text body) :
    bracketed? text = some body := by
  obtain ⟨front, behind, rfl, first, closes⟩ := bracketed
  rw [bracketed?, dropWhile_append_stops (ne_of_not_mem first) (stops_mark '[' _),
    List.tail_cons, takeWhile_append_stops (ne_of_not_mem closes) (stops_mark ']' behind)]
  exact if_pos (by simp)

/-! ### Dice specs -/

theorem not_hasSpec_nil : ¬HasSpec [] := by
  rintro ⟨c, -, within⟩
  cases List.infix_nil.mp within

theorem hasSpec_cons {c : Char} {rest : List Char} :
    HasSpec (c :: rest) ↔ (c.isDigit = true ∧ rest.head? = some 'd') ∨ HasSpec rest := by
  constructor
  · rintro ⟨digit, isDigit, within⟩
    rcases List.infix_cons_iff.mp within with front | later
    · obtain ⟨rfl, behind⟩ := List.cons_prefix_cons.mp front
      left
      obtain ⟨tail, rfl⟩ := behind
      exact ⟨isDigit, rfl⟩
    · exact .inr ⟨digit, isDigit, later⟩
  · rintro (⟨digit, mark⟩ | ⟨digit, isDigit, within⟩)
    · obtain ⟨tail, rfl⟩ := List.head?_eq_some_iff.mp mark
      exact ⟨c, digit, [], tail, rfl⟩
    · exact ⟨digit, isDigit, List.infix_cons within⟩

theorem diceMark?_none {body : List Char} (absent : ¬HasSpec body) : diceMark? body = none := by
  induction body with
  | nil => rfl
  | cons c rest ih =>
    rw [hasSpec_cons, not_or] at absent
    have here : ¬((c.isDigit && rest.head? == some 'd') = true) := by simpa using absent.1
    rw [diceMark?, if_neg here]
    exact ih absent.2

/-- The mark is found where no pair up to the digit is one. -/
theorem diceMark?_first {front behind : List Char} {c : Char} (digit : c.isDigit = true)
    (first : ¬HasSpec (front ++ [c])) :
    diceMark? (front ++ c :: 'd' :: behind) = some (c, behind) := by
  induction front with
  | nil => exact if_pos (by simp [digit])
  | cons b front ih =>
    rw [List.cons_append, hasSpec_cons, not_or] at first
    have sameHead : (front ++ c :: 'd' :: behind).head? = (front ++ [c]).head? := by
      cases front <;> rfl
    have here : ¬((b.isDigit && (front ++ c :: 'd' :: behind).head? == some 'd') = true) := by
      rw [sameHead]
      simpa using first.1
    -- The digit of the mark is the last of what has no spec, so nothing before it is one.
    rw [List.cons_append, diceMark?, if_neg here]
    exact ih first.2

theorem exists_first_spec {body : List Char} (spec : HasSpec body) :
    ∃ front c behind, body = front ++ c :: 'd' :: behind ∧ c.isDigit = true ∧
      ¬HasSpec (front ++ [c]) := by
  induction body with
  | nil => exact absurd spec not_hasSpec_nil
  | cons b rest ih =>
    by_cases here : b.isDigit = true ∧ rest.head? = some 'd'
    · -- The pair at the start comes first.
      obtain ⟨digit, mark⟩ := here
      obtain ⟨behind, rfl⟩ := List.head?_eq_some_iff.mp mark
      refine ⟨[], b, behind, rfl, digit, ?_⟩
      simp [hasSpec_cons, not_hasSpec_nil]
    · have later : HasSpec rest := (hasSpec_cons.mp spec).resolve_left here
      obtain ⟨front, c, behind, rfl, digit, first⟩ := ih later
      refine ⟨b :: front, c, behind, rfl, digit, ?_⟩
      have sameHead : (front ++ c :: 'd' :: behind).head? = (front ++ [c]).head? := by
        cases front <;> rfl
      rw [List.cons_append, hasSpec_cons, not_or, ← sameHead]
      exact ⟨here, first⟩

/-! ### Parts -/

theorem exists_written {body : List Char} (spec : HasSpec body) : ∃ parts, Written body parts := by
  obtain ⟨front, count, behind, rfl, digit, first⟩ := exists_first_spec spec
  obtain ⟨sides, tail, rfl, digits, sidesEnd, -, -⟩ := exists_span Char.isDigit behind
  obtain ⟨modifier, label, rfl, others, labelStart, -, -⟩ :=
    exists_span (fun c => !isLetter c) tail
  refine ⟨⟨count, sides, modifier, label⟩, ⟨front, rfl, first⟩, digit, digits, sidesEnd, ?_, ?_⟩
  · intro c member
    simpa using others c member
  · intro c member
    simpa using labelStart c member

/-- The scans cut a body into the parts that are written there. -/
theorem split_written {body : List Char} {parts : Parts} (written : Written body parts) :
    split body =
      if parts.sides.isEmpty then .error .missingSides
      else if parts.label.isEmpty then .error .missingLabel
      else .ok parts := by
  obtain ⟨count, sides, modifier, label⟩ := parts
  obtain ⟨⟨front, rfl, first⟩, digit, digits, sidesEnd, others, labelStart⟩ := written
  have others' : ∀ c ∈ modifier, (!isLetter c) = true := by
    intro c member
    simpa using others c member
  have labelStart' : Stops (fun c => !isLetter c) label := by
    intro c member
    simpa using labelStart c member
  -- Each scan stops where the next part starts.
  rw [split, diceMark?_first digit first]
  simp only [takeWhile_append_stops digits sidesEnd, dropWhile_append_stops digits sidesEnd,
    takeWhile_append_stops others' labelStart', dropWhile_append_stops others' labelStart']

theorem readCount_eq {digits : List Char} (filled : digits ≠ [])
    (all : ∀ c ∈ digits, c.isDigit = true) :
    readCount digits =
      if digitsValue digits < 2 ^ 32 then .ok (UInt32.ofNat (digitsValue digits))
      else .error (.numericOverflow (.sides (String.ofList digits))) := by
  have size : UInt32.size = 2 ^ 32 := rfl
  rw [readCount, readUnsigned_eq filled all, size]
  by_cases fits : digitsValue digits < 2 ^ 32
  · simp only [if_pos fits]
  · simp only [if_neg fits]

theorem readCount_digit {c : Char} (digit : c.isDigit = true) :
    readCount [c] = .ok (UInt32.ofNat (digitValue c)) := by
  have value : digitsValue [c] = digitValue c := Nat.zero_add _
  have small := digitValue_lt digit
  rw [readCount_eq (List.cons_ne_nil c []) (by simpa using digit), value, if_pos (by omega)]

/-- Sides that do not fit are reported before anything is said of the dice. -/
theorem ofParts_overflow {body : List Char} {parts : Parts} (written : Written body parts)
    (filled : parts.sides ≠ []) (large : 2 ^ 32 ≤ digitsValue parts.sides) :
    ofParts parts = .error (.numericOverflow (.sides (String.ofList parts.sides))) := by
  rw [ofParts, readCount_eq filled written.sides, if_neg (by omega)]
  rfl

theorem ofParts_eq {body : List Char} {parts : Parts} {count sides : UInt32}
    (written : Written body parts) (filled : parts.sides ≠ [])
    (countValue : count.toNat = digitValue parts.count)
    (sidesValue : sides.toNat = digitsValue parts.sides) :
    ofParts parts = (DiceDraft.mk sides count).build.map fun dice =>
      ⟨dice, String.ofList (trim parts.modifier), String.ofList (trimEnd parts.label)⟩ := by
  have small : digitsValue parts.sides < 2 ^ 32 := by
    rw [← sidesValue]
    exact sides.toNat_lt
  rw [ofParts, readCount_eq filled written.sides, if_pos small, readCount_digit written.count,
    ← countValue, ← sidesValue, UInt32.ofNat_toNat, UInt32.ofNat_toNat]
  change ((DiceDraft.mk sides count).build >>= fun dice => pure _) = _
  cases (DiceDraft.mk sides count).build <;> rfl

theorem build_eq (sides count : UInt32) :
    (DiceDraft.mk sides count).build =
      if sides.toNat = 0 ∨ count.toNat = 0 then .error (.malformedDirective .zeroValue)
      else if count.toNat * sides.toNat < 2 ^ 32 then .ok ⟨sides, count⟩
      else .error (.numericOverflow (.sum count sides)) := by
  have zero (n : UInt32) : n = 0 ↔ n.toNat = 0 := UInt32.toNat_inj.symm
  have size : UInt32.size = 2 ^ 32 := rfl
  simp only [DiceDraft.build, zero, size]

theorem exists_toNat_eq {n : Nat} (small : n < 2 ^ 32) : ∃ m : UInt32, m.toNat = n :=
  ⟨UInt32.ofNat n, UInt32.toNat_ofNat_of_lt' small⟩

theorem exists_toNat_digit {c : Char} (digit : c.isDigit = true) :
    ∃ m : UInt32, m.toNat = digitValue c := by
  have small := digitValue_lt digit
  exact exists_toNat_eq (by omega)

/-! ### Decision -/

theorem find_of_fault {text : String} {body : List Char} {fault : DirectiveFault}
    (bracketed : Bracketed text.toList body) (faulty : split body = .error fault) :
    find text = .error (.malformedDirective fault) := by
  simp only [find, bracketed?_of_bracketed bracketed, faulty]

/-- Parts that are complete are cut out and read. -/
theorem find_of_written {text : String} {body : List Char} {parts : Parts}
    (bracketed : Bracketed text.toList body) (written : Written body parts)
    (sides : parts.sides ≠ []) (label : parts.label ≠ []) :
    find text = (ofParts parts).map some := by
  have complete : split body = .ok parts := by
    simp only [split_written written, List.isEmpty_iff, if_neg sides, if_neg label]
  simp only [find, bracketed?_of_bracketed bracketed, complete]

theorem find_of_decides {text : String} {body : List Char}
    {answer : Except RollError (Option Directive)} (bracketed : Bracketed text.toList body)
    (decides : Decides body answer) : find text = answer := by
  cases decides with
  | missingDiceSpec absent =>
    apply find_of_fault bracketed
    simp only [split, diceMark?_none absent]
  | missingSides written none =>
    apply find_of_fault bracketed
    rw [split_written written]
    exact if_pos (List.isEmpty_iff.mpr none)
  | missingLabel written filled none =>
    apply find_of_fault bracketed
    simp only [split_written written, List.isEmpty_iff, if_neg filled, if_pos none]
  | sidesOverflow written filled label large =>
    rw [find_of_written bracketed written filled label, ofParts_overflow written filled large]
    rfl
  | @zeroValue parts written filled label small zero =>
    obtain ⟨count, countValue⟩ := exists_toNat_digit written.count
    obtain ⟨sides, sidesValue⟩ := exists_toNat_eq small
    rw [← countValue, ← sidesValue, or_comm] at zero
    rw [find_of_written bracketed written filled label,
      ofParts_eq written filled countValue sidesValue, build_eq, if_pos zero]
    rfl
  | sumOverflow written filled label countValue sidesValue count sides large =>
    rw [find_of_written bracketed written filled label,
      ofParts_eq written filled countValue sidesValue, build_eq, if_neg (by omega),
      if_neg (by omega)]
    rfl
  | directive written filled label countValue sidesValue count sides small modifier trimmed =>
    rw [find_of_written bracketed written filled label,
      ofParts_eq written filled countValue sidesValue, build_eq, if_neg (by omega), if_pos small,
      modifier.eq_trim, trimmed.eq_trimEnd]
    rfl

theorem find_of_format {text : String} {answer : Except RollError (Option Directive)}
    (format : Format text.toList answer) : find text = answer := by
  cases format with
  | unopened absent => rw [find, bracketed?_unopened absent]
  | unclosed same first absent => rw [find, same, bracketed?_unclosed first absent]
  | body bracketed decides => exact find_of_decides bracketed decides

/-- Every body has an answer: the conditions of the format leave no gap. -/
theorem exists_decides (body : List Char) : ∃ answer, Decides body answer := by
  by_cases spec : HasSpec body
  · -- The conditions are tried in the order in which their faults are reported.
    obtain ⟨parts, written⟩ := exists_written spec
    by_cases filled : parts.sides = []
    · exact ⟨_, .missingSides written filled⟩
    by_cases label : parts.label = []
    · exact ⟨_, .missingLabel written filled label⟩
    by_cases small : digitsValue parts.sides < 2 ^ 32
    · by_cases zero : digitValue parts.count = 0 ∨ digitsValue parts.sides = 0
      · exact ⟨_, .zeroValue written filled label small zero⟩
      rw [not_or] at zero
      obtain ⟨count, countValue⟩ := exists_toNat_digit written.count
      obtain ⟨sides, sidesValue⟩ := exists_toNat_eq small
      rw [← countValue, ← sidesValue] at zero
      by_cases fits : count.toNat * sides.toNat < 2 ^ 32
      · exact ⟨_, .directive written filled label countValue sidesValue zero.1 zero.2 fits
          (trim_trims _) (trimEnd_trims _)⟩
      · exact ⟨_, .sumOverflow written filled label countValue sidesValue zero.1 zero.2
          (Nat.not_lt.mp fits)⟩
    · exact ⟨_, .sidesOverflow written filled label (by omega)⟩
  · exact ⟨_, .missingDiceSpec spec⟩

theorem exists_format (text : List Char) : ∃ answer, Format text answer := by
  rcases not_mem_or_split '[' text with absent | ⟨front, behind, rfl, first⟩
  · exact ⟨_, .unopened absent⟩
  · rcases not_mem_or_split ']' behind with absent | ⟨body, rest, rfl, closes⟩
    · exact ⟨_, .unclosed rfl first absent⟩
    · obtain ⟨answer, decides⟩ := exists_decides body
      exact ⟨answer, .body ⟨front, rest, rfl, first, closes⟩ decides⟩

theorem find_eq_iff_format {text : String} {answer : Except RollError (Option Directive)} :
    find text = answer ↔ Format text.toList answer := by
  constructor
  · rintro rfl
    obtain ⟨answer, format⟩ := exists_format text.toList
    rw [find_of_format format]
    exact format
  · exact find_of_format

/-- A label that starts with a letter keeps it, since a letter is no blank. -/
theorem label_of_trimsEnd {text label : List Char} (trims : TrimsEnd text label) (filled : text ≠ [])
    (starts : ∀ c ∈ text.head?, isLetter c = true) :
    ∃ c rest, label = c :: rest ∧ isLetter c = true := by
  obtain ⟨c, text, rfl⟩ := List.exists_cons_of_ne_nil filled
  have letter : isLetter c = true := starts c rfl
  obtain ⟨-, behind, same, blanks⟩ := trims
  cases label with
  | nil =>
    -- Then all of the text is blank, and so is the letter that it starts with.
    have blank := blanks c (by rw [← List.nil_append behind, ← same]; simp)
    rw [isBlank_of_isLetter letter] at blank
    cases blank
  | cons b label =>
    rw [List.cons_append, List.cons.injEq] at same
    obtain ⟨rfl, -⟩ := same
    exact ⟨c, label, rfl, letter⟩

theorem modifier_of_trims {text modifier : List Char} (trims : Trims text modifier)
    (others : ∀ c ∈ text, isLetter c = false) : ∀ c ∈ modifier, isLetter c = false := by
  obtain ⟨-, -, front, behind, rfl, -, -⟩ := trims
  intro c member
  exact others c (by simp [member])

theorem texts_of_format {text : List Char} {directive : Directive}
    (format : Format text (.ok (some directive))) :
    (∃ c rest, directive.label.toList = c :: rest ∧ isLetter c = true) ∧
      ∀ c ∈ directive.modifier.toList, isLetter c = false := by
  cases format with
  | body _ decides =>
    cases decides with
    | directive written _ label _ _ _ _ _ trims trimsEnd =>
      simp only [String.toList_ofList]
      exact ⟨label_of_trimsEnd trimsEnd label written.modifierEnd,
        modifier_of_trims trims written.modifier⟩

/-- Dice that get through the checks of the format can be thrown. -/
theorem valid_of_find {text : String} {directive : Directive}
    (found : find text = .ok (some directive)) : directive.dice.Valid := by
  have format := find_eq_iff_format.mp found
  cases format with
  | body _ decides =>
    cases decides with
    | directive _ _ _ _ _ count sides small _ _ =>
      exact ⟨Nat.pos_of_ne_zero count, Nat.pos_of_ne_zero sides, small⟩

/-- The directive of a message, or its fault, is the one that the format gives, for every text. The
label of a directive starts with a letter, and its modifier has none. -/
theorem find_decides_format (text : String) :
    (∀ answer, find text = answer ↔ Format text.toList answer) ∧
    ∀ directive, find text = .ok (some directive) →
      (∃ c rest, directive.label.toList = c :: rest ∧ isLetter c = true) ∧
        ∀ c ∈ directive.modifier.toList, isLetter c = false := by
  constructor
  · intro answer
    exact find_eq_iff_format
  · intro directive found
    exact texts_of_format (find_eq_iff_format.mp found)

theorem find_decides_format_fire_damage :
    ∃ answer, find "Swing! [2d6+3 fire damage]" = .ok (some answer) ∧
      answer = ⟨⟨6, 2⟩, "+3", "fire damage"⟩ ∧
      (∃ c rest, answer.label.toList = c :: rest ∧ isLetter c = true) ∧
      ∀ c ∈ answer.modifier.toList, isLetter c = false := by
  have read : (find "Swing! [2d6+3 fire damage]").toOption =
      some (some ⟨⟨6, 2⟩, "+3", "fire damage"⟩) := by
    decide +kernel
  cases found : find "Swing! [2d6+3 fire damage]" with
  | error fault =>
    rw [found] at read
    cases read
  | ok answer =>
    rw [found] at read
    cases read
    exact ⟨_, rfl, rfl, (find_decides_format _).2 _ found⟩

end Directive
end DiceChat
