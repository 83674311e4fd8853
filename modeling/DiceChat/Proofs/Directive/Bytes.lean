import Mathlib
import DiceChat.Proofs.Directive.Format
import DiceChat.Proofs.Text.Utf8

/-!
# Directives in bytes

The directive of a message, looked for among its bytes: the dice spec byte by byte, the rest by the
offsets of characters, and every part cut out at two offsets. All of them are boundaries of
characters, whatever stands in the message, and the parts are the same.

## Main results

* `Directive.find_bytes`: the scan of the bytes never cuts a character and finds what the scan of
  the characters finds.
-/

namespace DiceChat
namespace Directive

/-- The parts of a directive in bytes. -/
structure ByteParts where
  count : List UInt8
  sides : List UInt8
  modifier : List UInt8
  label : List UInt8
deriving DecidableEq, Repr

def Parts.utf8 (parts : Parts) : ByteParts :=
  ⟨DiceChat.utf8 [parts.count], DiceChat.utf8 parts.sides, DiceChat.utf8 parts.modifier,
    DiceChat.utf8 parts.label⟩

namespace Bytes

/-! ### Scanning -/

def isDigit (b : UInt8) : Bool :=
  decide ('0'.toNat ≤ b.toNat) && decide (b.toNat ≤ '9'.toNat)

/-- The offset of the first `d` with a digit before it. -/
def mark? (body : List UInt8) : Option Nat :=
  (List.range' 1 (body.length - 1)).find? fun i =>
    body[i]? == some 'd'.toUInt8 && body[i - 1]?.any isDigit

/-- The offset at which the digits from `start` on end. -/
def digitsEnd (body : List UInt8) (start : Nat) : Nat :=
  match (body.drop start).findIdx? fun b => !isDigit b with
  | some count => start + count
  | none => body.length

/-- The number of bytes in front of the first letter. -/
def modifierLength (rest : List UInt8) : Nat :=
  (findChar? isLetter rest).getD rest.length

/-- The text between the first `[` and the first `]` after it; no answer if that would cut a
character. -/
def bracketed? (text : List UInt8) : Option (Option (List UInt8)) :=
  match findChar? (· == '[') text with
  | none => some none
  | some opening => do
    let behind ← slice? text (opening + 1) text.length
    match findChar? (· == ']') behind with
    | none => return none
    | some closing => return some (← slice? behind 0 closing)

/-- Splits what stands between the brackets; no answer if a character would be cut. -/
def split? (body : List UInt8) : Option (Except DirectiveFault ByteParts) :=
  match mark? body with
  | none => some (.error .missingDiceSpec)
  | some d =>
    let stop := digitsEnd body (d + 1)
    if stop = d + 1 then some (.error .missingSides)
    else do
      let count ← slice? body (d - 1) d
      let sides ← slice? body (d + 1) stop
      let rest ← slice? body stop body.length
      let modifier ← slice? rest 0 (modifierLength rest)
      let label ← slice? body (stop + modifierLength rest) body.length
      return if label.isEmpty then .error .missingLabel else .ok ⟨count, sides, modifier, label⟩

/-- The directive with these parts. -/
def ofParts (parts : ByteParts) : Except RollError Directive := do
  let sides ← readCount (decode parts.sides)
  let count ← readCount (decode parts.count)
  let dice ← (DiceDraft.mk sides count).build
  return ⟨dice, String.ofList (trim (decode parts.modifier)),
    String.ofList (trimEnd (decode parts.label))⟩

/-- The directive of a message, if it has one; no answer if a character would be cut. -/
def find? (text : List UInt8) : Option (Except RollError (Option Directive)) := do
  match ← bracketed? text with
  | none => return .ok none
  | some body =>
    match ← split? body with
    | .error fault => return .error (.malformedDirective fault)
    | .ok parts => return (ofParts parts).map some

/-- All offsets at which a body with a `d` at `d` is cut are boundaries. -/
structure Bounded (body : List UInt8) (d : Nat) : Prop where
  positive : 1 ≤ d
  count : isBoundary body (d - 1) = true
  mark : isBoundary body d = true
  sides : isBoundary body (d + 1) = true
  sidesEnd : isBoundary body (digitsEnd body (d + 1)) = true
  modifierEnd : isBoundary body (digitsEnd body (d + 1) +
    modifierLength (body.drop (digitsEnd body (d + 1)))) = true

/-! ### ASCII -/

theorem length_utf8_snoc {c : Char} (ascii : c.toNat < 128) (front : List Char) :
    (utf8 (front ++ [c])).length = (utf8 front).length + 1 := by
  rw [utf8_append, List.length_append, utf8_cons, utf8_of_ascii ascii]
  rfl

theorem ascii_of_isDigit {c : Char} (digit : c.isDigit = true) : c.toNat < 128 := by
  have range := isDigit_iff_toNat.mp digit
  omega

theorem isDigit_iff {b : UInt8} : isDigit b = true ↔ 48 ≤ b.toNat ∧ b.toNat ≤ 57 := by
  simp only [isDigit, Bool.and_eq_true, decide_eq_true_eq]
  exact Iff.rfl

theorem isDigit_ofNat {c : Char} (ascii : c.toNat < 128) :
    isDigit (UInt8.ofNat c.toNat) = c.isDigit := by
  rw [Bool.eq_iff_iff, isDigit_iff, isDigit_iff_toNat,
    UInt8.toNat_ofNat_of_lt' (by omega : c.toNat < 256)]

/-- The bytes of digits are digits. -/
theorem isDigit_of_mem_utf8 {digits : List Char} (all : ∀ c ∈ digits, c.isDigit = true) :
    ∀ b ∈ utf8 digits, isDigit b = true := by
  intro b member
  obtain ⟨c, inside, byte⟩ := List.mem_flatMap.mp member
  have ascii := ascii_of_isDigit (all c inside)
  rw [utf8_of_ascii ascii, List.mem_singleton] at byte
  rw [byte, isDigit_ofNat ascii, all c inside]

/-- The bytes of a text that does not start with a digit do not either. -/
theorem stops_utf8 {text : List Char} (stops : Stops Char.isDigit text) :
    Stops isDigit (utf8 text) := by
  intro b starts
  obtain ⟨rest, bytes⟩ := List.head?_eq_some_iff.mp starts
  rw [Bool.eq_false_iff]
  intro digit
  -- A digit among the bytes is a character of its own.
  have range := isDigit_iff.mp digit
  obtain ⟨c, behind, rfl, same, -⟩ := head_of_utf8 (by omega) bytes
  have none := stops_cons.mp stops
  rw [Bool.eq_false_iff, ne_eq, isDigit_iff_toNat] at none
  omega

/-! ### Brackets -/

theorem slice?_utf8_end (front behind : List Char) :
    slice? (utf8 (front ++ behind)) (utf8 front).length (utf8 (front ++ behind)).length =
      some (utf8 behind) := by
  have cut := slice?_utf8 front behind []
  rwa [List.append_nil] at cut

theorem bracketed?_utf8 (text : List Char) :
    bracketed? (utf8 text) = some ((Directive.bracketed? text).map utf8) := by
  have here (mark : Char) : (mark == mark) = true := beq_self_eq_true mark
  have others {mark : Char} {front : List Char} (absent : mark ∉ front) :
      ∀ c ∈ front, (c == mark) = false := by
    intro c member
    rw [beq_eq_false_iff_ne]
    rintro rfl
    exact absent member
  rcases not_mem_or_split '[' text with absent | ⟨front, behind, rfl, first⟩
  · rw [bracketed?, findChar?_utf8_none (others absent), bracketed?_unopened absent]
    rfl
  · -- What stands behind the bracket starts one byte after it.
    have cut := slice?_utf8_end (front ++ ['[']) behind
    rw [length_utf8_snoc (by decide), List.append_assoc, List.singleton_append] at cut
    simp only [bracketed?, findChar?_utf8 (others first) (here '['), cut, Option.bind_eq_bind,
      Option.bind_some]
    rcases not_mem_or_split ']' behind with absent | ⟨body, rest, rfl, closes⟩
    · rw [findChar?_utf8_none (others absent), bracketed?_unclosed first absent]
      rfl
    · have within := slice?_utf8 [] body (']' :: rest)
      have found := bracketed?_of_bracketed ⟨front, rest, rfl, first, closes⟩
      simp only [List.nil_append, utf8_nil, List.length_nil] at within
      simp only [findChar?_utf8 (others closes) (here ']'), within, found]
      rfl

/-! ### Parts -/

theorem digitsEnd_utf8 (front : List Char) {digits rest : List Char}
    (all : ∀ c ∈ digits, c.isDigit = true)
    (stops : Stops Char.isDigit rest) :
    digitsEnd (utf8 (front ++ (digits ++ rest))) (utf8 front).length =
      (utf8 (front ++ digits)).length := by
  have within : ∀ b ∈ utf8 digits, (!isDigit b) = false := by
    intro b member
    rw [isDigit_of_mem_utf8 all b member]
    rfl
  have passed := List.findIdx?_eq_none_iff.mpr within
  have stop := stops_utf8 stops
  unfold digitsEnd
  rw [drop_utf8, utf8_append, List.findIdx?_append, passed, Option.none_or]
  cases bytes : utf8 rest with
  | nil => simp [utf8_append, bytes]
  | cons b behind =>
    rw [bytes] at stop
    have here := stops_cons.mp stop
    simp [List.findIdx?_cons, here, utf8_append]

theorem modifierLength_utf8 {modifier label : List Char}
    (others : ∀ c ∈ modifier, isLetter c = false) (starts : ∀ c ∈ label.head?, isLetter c = true) :
    modifierLength (utf8 (modifier ++ label)) = (utf8 modifier).length := by
  unfold modifierLength
  cases label with
  | nil => rw [List.append_nil, findChar?_utf8_none others, Option.getD_none]
  | cons c label => rw [findChar?_utf8 others (starts c rfl), Option.getD_some]

/-- Where the byte of a `d` follows that of a digit, the `d` follows the digit. -/
theorem hasSpec_of_bytes {text : List Char} {i : Nat}
    (here : (utf8 text)[i + 1]? = some 'd'.toUInt8)
    (before : (utf8 text)[i]?.any isDigit = true) : HasSpec text := by
  obtain ⟨b, found, digit⟩ := (Option.any_eq_true _ _).mp before
  have range := isDigit_iff.mp digit
  have inside : i + 1 < (utf8 text).length := (List.getElem?_eq_some_iff.mp here).1
  have pair : [b, 'd'.toUInt8] <:+: utf8 text := by
    refine List.infix_iff_getElem?.mpr ⟨i, ?_, ?_⟩
    · rw [List.length_cons, List.length_singleton]
      omega
    · intro k bound
      match k with
      | 0 => rw [Nat.zero_add]; exact found
      | 1 => rw [Nat.add_comm]; exact here
  obtain ⟨c, d, within, same, mark⟩ := infix_utf8 (by omega) (by decide) pair
  obtain rfl : d = 'd' := Char.toNat_inj.mp mark
  exact ⟨c, isDigit_iff_toNat.mpr (by omega), within⟩

theorem mark?_utf8_none {text : List Char} (absent : ¬HasSpec text) : mark? (utf8 text) = none := by
  rw [mark?, List.find?_range'_eq_none]
  intro i positive _
  obtain ⟨i, rfl⟩ := Nat.exists_eq_add_of_le' positive
  rw [Bool.not_eq_true', Bool.eq_false_iff]
  intro both
  rw [Bool.and_eq_true, beq_iff_eq] at both
  exact absent (hasSpec_of_bytes both.1 both.2)

/-- The bytes have their mark where the text has it. -/
theorem mark?_utf8 {front behind : List Char} {c : Char} (digit : c.isDigit = true)
    (first : ¬HasSpec (front ++ [c])) :
    mark? (utf8 (front ++ c :: 'd' :: behind)) = some (utf8 (front ++ [c])).length := by
  have ascii := ascii_of_isDigit digit
  have length := length_utf8_snoc ascii front
  have parted : utf8 (front ++ c :: 'd' :: behind) =
      utf8 (front ++ [c]) ++ 'd'.toUInt8 :: utf8 behind := by
    rw [List.append_cons, utf8_append]
    rfl
  have digitByte : (utf8 (front ++ [c]))[(utf8 front).length]? = some (UInt8.ofNat c.toNat) := by
    rw [utf8_append, utf8_cons, utf8_of_ascii ascii]
    simp
  rw [mark?, List.find?_range'_eq_some, parted]
  refine ⟨?_, ?_, ?_⟩
  · rw [Bool.and_eq_true, beq_iff_eq, List.getElem?_append_right (Nat.le_refl _), Nat.sub_self,
      length, Nat.add_sub_cancel, List.getElem?_append_left (by omega), digitByte]
    exact ⟨rfl, (isDigit_ofNat ascii).trans digit⟩
  · rw [List.mem_range'_1, List.length_append, List.length_cons]
    omega
  · -- An earlier pair of bytes would be a spec in front of the `d`.
    intro j positive before
    obtain ⟨j, rfl⟩ := Nat.exists_eq_add_of_le' positive
    rw [Bool.not_eq_true', Bool.eq_false_iff]
    intro both
    rw [Bool.and_eq_true, beq_iff_eq, Nat.add_sub_cancel, List.getElem?_append_left before,
      List.getElem?_append_left (by omega)] at both
    exact first (hasSpec_of_bytes both.1 both.2)

/-- The offsets at which a body with a dice spec is cut, by the characters in front of them. -/
structure Placed (body front : List Char) (parts : Parts) (d : Nat) : Prop where
  whole : body = front ++ ([parts.count] ++ (['d'] ++
    (parts.sides ++ (parts.modifier ++ parts.label))))
  found : mark? (utf8 body) = some d
  count : d = (utf8 front).length + 1
  mark : d = (utf8 (front ++ [parts.count])).length
  sides : d + 1 = (utf8 (front ++ ([parts.count] ++ ['d']))).length
  sidesEnd : digitsEnd (utf8 body) (d + 1) =
    (utf8 (front ++ ([parts.count] ++ (['d'] ++ parts.sides)))).length
  modifier : modifierLength (utf8 (parts.modifier ++ parts.label)) = (utf8 parts.modifier).length

theorem exists_placed {body : List Char} {parts : Parts} (written : Written body parts) :
    ∃ front d, Placed body front parts d := by
  obtain ⟨⟨front, whole, first⟩, digit, digits, sidesEnd, others, labelStart⟩ := written
  have count := length_utf8_snoc (ascii_of_isDigit digit) front
  have mark := length_utf8_snoc (by decide : 'd'.toNat < 128) (front ++ [parts.count])
  have stop := digitsEnd_utf8 (front ++ ([parts.count] ++ ['d'])) digits sidesEnd
  rw [List.append_assoc] at mark
  simp only [List.append_assoc] at stop
  refine ⟨front, (utf8 (front ++ [parts.count])).length, whole, ?_, ?_, rfl, mark.symm, ?_,
    modifierLength_utf8 others labelStart⟩
  · rw [whole, mark?_utf8 digit first]
  · rw [count]
  · rw [← mark, whole]
    exact stop

theorem Placed.modifierEnd {body front : List Char} {parts : Parts} {d : Nat}
    (placed : Placed body front parts d) :
    digitsEnd (utf8 body) (d + 1) + modifierLength (utf8 (parts.modifier ++ parts.label)) =
      (utf8 (front ++ ([parts.count] ++ (['d'] ++ (parts.sides ++ parts.modifier))))).length := by
  rw [placed.sidesEnd, placed.modifier]
  simp only [utf8_append, List.length_append, Nat.add_assoc]

theorem Placed.rest {body front : List Char} {parts : Parts} {d : Nat}
    (placed : Placed body front parts d) :
    (utf8 body).drop (digitsEnd (utf8 body) (d + 1)) = utf8 (parts.modifier ++ parts.label) := by
  have behind := drop_utf8 (front ++ ([parts.count] ++ (['d'] ++ parts.sides)))
    (parts.modifier ++ parts.label)
  simp only [List.append_assoc] at behind
  rw [placed.sidesEnd, placed.whole, behind]

/-- Cut at these offsets, a body gives its parts. -/
theorem split?_of_placed {body front : List Char} {parts : Parts} {d : Nat}
    (placed : Placed body front parts d) :
    split? (utf8 body) =
      if parts.sides.isEmpty then some (.error .missingSides)
      else if parts.label.isEmpty then some (.error .missingLabel)
      else some (.ok parts.utf8) := by
  have labelStart := placed.modifierEnd
  obtain ⟨count, sides, modifier, label⟩ := parts
  obtain ⟨rfl, found, before, mark, behind, sidesEnd, modifierEnd⟩ := placed
  have before' : d - 1 = (utf8 front).length := by omega
  dsimp only at *
  -- One cut for each part, from where the parts before it end.
  have cutCount := slice?_utf8 front [count] (['d'] ++ (sides ++ (modifier ++ label)))
  have cutSides := slice?_utf8 (front ++ ([count] ++ ['d'])) sides (modifier ++ label)
  have cutRest := slice?_utf8_end (front ++ ([count] ++ (['d'] ++ sides))) (modifier ++ label)
  have cutModifier := slice?_utf8 [] modifier label
  have cutLabel := slice?_utf8_end (front ++ ([count] ++ (['d'] ++ (sides ++ modifier)))) label
  simp only [List.append_assoc] at cutSides cutRest cutLabel
  rw [← before', ← mark] at cutCount
  rw [← behind, ← sidesEnd] at cutSides
  rw [← sidesEnd] at cutRest
  rw [List.nil_append, List.nil_append, utf8_nil, List.length_nil, ← modifierEnd] at cutModifier
  rw [← labelStart] at cutLabel
  have none : (utf8 (front ++ ([count] ++ (['d'] ++ sides)))).length =
      (utf8 (front ++ ([count] ++ ['d']))).length ↔ sides = [] := by
    simp only [utf8_append, List.length_append, Nat.add_eq_left, ← Nat.add_assoc,
      List.length_eq_zero_iff, utf8_eq_nil_iff]
  rw [← behind, ← sidesEnd] at none
  simp only [split?, found, none, List.isEmpty_iff]
  split
  · rfl
  · simp only [cutCount, cutSides, cutRest, cutModifier, cutLabel,
      Option.bind_eq_bind, Option.bind_some, utf8_eq_nil_iff]
    split <;> rfl

theorem split?_utf8 (body : List Char) :
    split? (utf8 body) = some ((split body).map Parts.utf8) := by
  by_cases spec : HasSpec body
  · obtain ⟨parts, written⟩ := exists_written spec
    obtain ⟨front, d, placed⟩ := exists_placed written
    rw [split?_of_placed placed, split_written written]
    split
    · rfl
    · split <;> rfl
  · simp only [split?, mark?_utf8_none spec, split, diceMark?_none spec]
    rfl

/-- Wherever the mark of a body stands, the body has a dice spec there. -/
theorem placed_of_mark {body : List Char} {d : Nat} (found : mark? (utf8 body) = some d) :
    ∃ parts front, Placed body front parts d := by
  by_cases spec : HasSpec body
  · obtain ⟨parts, written⟩ := exists_written spec
    obtain ⟨front, other, placed⟩ := exists_placed written
    rw [placed.found, Option.some.injEq] at found
    exact ⟨parts, front, found ▸ placed⟩
  · rw [mark?_utf8_none spec] at found
    cases found

theorem bounded_utf8 {body : List Char} {d : Nat} (found : mark? (utf8 body) = some d) :
    Bounded (utf8 body) d := by
  obtain ⟨⟨count, sides, modifier, label⟩, front, placed⟩ := placed_of_mark found
  have rest := placed.rest
  have labelStart := placed.modifierEnd
  obtain ⟨rfl, -, before, mark, behind, sidesEnd, -⟩ := placed
  dsimp only at *
  constructor
  case positive => omega
  case count =>
    rw [before, Nat.add_sub_cancel]
    exact isBoundary_utf8 front _
  case mark =>
    have whole := isBoundary_utf8 (front ++ [count]) (['d'] ++ (sides ++ (modifier ++ label)))
    rwa [List.append_assoc, ← mark] at whole
  case sides =>
    have whole := isBoundary_utf8 (front ++ ([count] ++ ['d'])) (sides ++ (modifier ++ label))
    simp only [List.append_assoc] at whole
    rwa [behind]
  case sidesEnd =>
    have whole := isBoundary_utf8 (front ++ ([count] ++ (['d'] ++ sides))) (modifier ++ label)
    simp only [List.append_assoc] at whole
    rwa [sidesEnd]
  case modifierEnd =>
    have whole := isBoundary_utf8 (front ++ ([count] ++ (['d'] ++ (sides ++ modifier)))) label
    simp only [List.append_assoc] at whole
    rwa [rest, labelStart]

/-! ### Directives -/

theorem ofParts_utf8 (parts : Parts) : ofParts parts.utf8 = Directive.ofParts parts := by
  simp only [ofParts, Parts.utf8, decode_utf8]
  rfl

theorem find?_utf8 (text : String) : find? (utf8 text.toList) = some (find text) := by
  rw [find?, bracketed?_utf8, find]
  cases Directive.bracketed? text.toList with
  | none => rfl
  | some body =>
    simp only [Option.map_some, Option.bind_eq_bind, Option.bind_some, split?_utf8]
    cases split body with
    | error fault => rfl
    | ok parts =>
      simp only [Except.map, ofParts_utf8]
      rfl

end Bytes

/-- No scan of the bytes of a message cuts a character: every offset at which a part is cut out is a
boundary, the parts are those of the scan of the characters, and the directive is the same. -/
theorem find_bytes (text : String) :
    let bytes := text.toUTF8.data.toList
    Bytes.find? bytes = some (find text) ∧
    Bytes.bracketed? bytes = some ((bracketed? text.toList).map utf8) ∧
    (∀ opening, findChar? (· == '[') bytes = some opening →
      isBoundary bytes (opening + 1) = true ∧
      ∀ closing, findChar? (· == ']') (bytes.drop (opening + 1)) = some closing →
        isBoundary (bytes.drop (opening + 1)) closing = true) ∧
    ∀ body, bracketed? text.toList = some body →
      Bytes.split? (utf8 body) = some ((split body).map Parts.utf8) ∧
      ∀ d, Bytes.mark? (utf8 body) = some d → Bytes.Bounded (utf8 body) d := by
  intro bytes
  have same : bytes = utf8 text.toList := toList_toUTF8 text
  rw [same]
  refine ⟨Bytes.find?_utf8 text, Bytes.bracketed?_utf8 text.toList, ?_, ?_⟩
  · intro opening found
    obtain ⟨front, c, behind, whole, here, rfl⟩ := exists_of_findChar? found
    obtain rfl := beq_iff_eq.mp here
    have next := Bytes.length_utf8_snoc (by decide : '['.toNat < 128) front
    rw [List.append_cons] at whole
    rw [whole, ← next, drop_utf8]
    refine ⟨isBoundary_utf8 _ _, ?_⟩
    intro closing closes
    obtain ⟨body, c, rest, rfl, -, rfl⟩ := exists_of_findChar? closes
    exact isBoundary_utf8 _ _
  · intro body _
    exact ⟨Bytes.split?_utf8 body, fun d found => Bytes.bounded_utf8 found⟩

/-- A digit of another script stands before the first `d`, and a letter of two bytes before the
digit of the second one. -/
theorem find_bytes_umlaut :
    let text := "Zück [٣d4 é1d6² Ärger] ☠"
    let bytes := text.toUTF8.data.toList
    let body := "٣d4 é1d6² Ärger".toList
    findChar? (· == '[') bytes = some 6 ∧ bracketed? text.toList = some body ∧
      Bytes.mark? (utf8 body) = some 8 ∧
      Bytes.find? bytes = some (.ok (some ⟨⟨6, 1⟩, "²", "Ärger"⟩)) ∧
      isBoundary bytes 7 = true ∧ Bytes.Bounded (utf8 body) 8 := by
  intro text bytes body
  have opening : findChar? (· == '[') bytes = some 6 := by decide +kernel
  have between : bracketed? text.toList = some body := by decide +kernel
  have mark : Bytes.mark? (utf8 body) = some 8 := by decide +kernel
  have found : find text = .ok (some ⟨⟨6, 1⟩, "²", "Ärger"⟩) := by decide +kernel
  obtain ⟨same, -, brackets, parts⟩ := find_bytes text
  rw [found] at same
  exact ⟨opening, between, mark, same, (brackets 6 opening).1, (parts body between).2 8 mark⟩

end Directive
end DiceChat
