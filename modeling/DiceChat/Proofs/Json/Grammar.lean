import DiceChat.Json.Reader
import DiceChat.Proofs.Text.Span

/-!
# How values are written in JSON

A text writes a value when it can be cut, from left to right, into the marks of the grammar with
blanks between them. This is said without the reader, and the reader takes every such text for the
value that it writes, however deep it nests.

## Main results

* `Json.readString_of_writes`, `Json.readNumber_of_writes`: strings and numbers.
* `Json.reads`: values, items and members in front of whatever may stand behind them.
* `Json.read?_of_written`: whole texts.
-/

namespace DiceChat.Json

/-! ### The grammar -/

def Blanks (text : List Char) : Prop :=
  ∀ c ∈ text, isJsonBlank c = true

def Digits (text : List Char) : Prop :=
  text ≠ [] ∧ ∀ c ∈ text, c.isDigit = true

/-- What stands between the quotes of a string. -/
inductive WritesMarks : List Char → Marks → Prop where
  | done : WritesMarks [] []
  | plain {c text marks} : c ≠ '"' → c ≠ '\\' → ' ' ≤ c → WritesMarks text marks →
      WritesMarks (c :: text) (.char c :: marks)
  | escaped {c d text marks} : escaped? c = some d → WritesMarks text marks →
      WritesMarks ('\\' :: c :: text) (.char d :: marks)
  | unit {c₁ c₂ c₃ c₄ unit text marks} : unit? c₁ c₂ c₃ c₄ = some unit → WritesMarks text marks →
      WritesMarks ('\\' :: 'u' :: c₁ :: c₂ :: c₃ :: c₄ :: text) (ofUnit unit :: marks)

inductive WritesFraction : List Char → List Char → Prop where
  | none : WritesFraction [] []
  | some {digits} : Digits digits → WritesFraction ('.' :: digits) digits

/-- The sign of an exponent, which may be left out. -/
inductive WritesSign : List Char → Bool → Prop where
  | none : WritesSign [] false
  | plus : WritesSign ['+'] false
  | minus : WritesSign ['-'] true

inductive WritesExponent : List Char → Option Int → Prop where
  | none : WritesExponent [] none
  | some {e sign negative digits} : e = 'e' ∨ e = 'E' → WritesSign sign negative → Digits digits →
      WritesExponent (e :: (sign ++ digits))
        (some (if negative then -(digitsValue digits : Int) else digitsValue digits))

/-- The digits in front of the point have no needless zero. -/
inductive WritesNumber : List Char → Number → Prop where
  | number {negative whole fraction digits exponent size} : Digits whole →
      (whole.head? = some '0' → whole.length = 1) → WritesFraction fraction digits →
      WritesExponent exponent size →
      WritesNumber ((if negative then ['-'] else []) ++ (whole ++ (fraction ++ exponent)))
        ⟨negative, whole, digits, size⟩

/-- The name of a member, up to its value. -/
inductive WritesName : List Char → Marks → Prop where
  | name {front text behind between marks} : Blanks front → WritesMarks text marks →
      Blanks behind → Blanks between →
      WritesName (front ++ '"' :: (text ++ '"' :: (behind ++ ':' :: between))) marks

mutual

inductive Writes : List Char → Json → Prop where
  | null : Writes ['n', 'u', 'l', 'l'] .null
  | yes : Writes ['t', 'r', 'u', 'e'] (.bool true)
  | no : Writes ['f', 'a', 'l', 's', 'e'] (.bool false)
  | number {text n} : WritesNumber text n → Writes text (.number n)
  | string {text marks} : WritesMarks text marks → Writes ('"' :: (text ++ ['"'])) (.string marks)
  | noItems {blanks} : Blanks blanks → Writes ('[' :: (blanks ++ [']'])) (.array [])
  | array {text items} : WritesItems text items → Writes ('[' :: (text ++ [']'])) (.array items)
  | noMembers {blanks} : Blanks blanks → Writes ('\x7b' :: (blanks ++ ['\x7d'])) (.object [])
  | object {text members} : WritesMembers text members →
      Writes ('\x7b' :: (text ++ ['\x7d'])) (.object members)

/-- Values with commas between them, and blanks around each. -/
inductive WritesItems : List Char → List Json → Prop where
  | one {front text behind item} : Blanks front → Writes text item → Blanks behind →
      WritesItems (front ++ (text ++ behind)) [item]
  | more {front text behind others item items} : Blanks front → Writes text item →
      Blanks behind → WritesItems others items →
      WritesItems (front ++ (text ++ (behind ++ ',' :: others))) (item :: items)

/-- Names and values with commas between them, and blanks around each. -/
inductive WritesMembers : List Char → List (Marks × Json) → Prop where
  | one {label text behind name value} : WritesName label name → Writes text value →
      Blanks behind → WritesMembers (label ++ (text ++ behind)) [(name, value)]
  | more {label text behind others name value members} : WritesName label name →
      Writes text value → Blanks behind → WritesMembers others members →
      WritesMembers (label ++ (text ++ (behind ++ ',' :: others))) ((name, value) :: members)

end

/-- A text that holds one value, with blanks around it. -/
def Written (text : String) (json : Json) : Prop :=
  ∃ front core behind, text.toList = front ++ (core ++ behind) ∧ Blanks front ∧
    Writes core json ∧ Blanks behind

/-! ### Strings -/

variable {text rest blanks : List Char} {marks : Marks}

/-- A character that stands for itself in a string. -/
def isPlain (c : Char) : Bool :=
  c != '"' && c != '\\' && decide (' ' ≤ c)

theorem writesMarks_chars (plain : text.all isPlain = true) :
    WritesMarks text (text.map .char) := by
  induction text with
  | nil => exact .done
  | cons c text ih =>
    obtain ⟨first, others⟩ := Bool.and_eq_true_iff.mp plain
    simp only [isPlain, Bool.and_eq_true, bne_iff_ne, decide_eq_true_eq] at first
    exact .plain first.1.1 first.1.2 first.2 (ih others)

theorem blanks_nil : Blanks [] :=
  List.forall_mem_nil _

/-- A name without escapes and blanks. -/
theorem writesName_chars (plain : text.all isPlain = true) :
    WritesName ('"' :: (text ++ ['"', ':'])) (text.map .char) :=
  .name blanks_nil (writesMarks_chars plain) blanks_nil blanks_nil

theorem readString_plain {c : Char} (quote : c ≠ '"') (escape : c ≠ '\\') (printable : ' ' ≤ c)
    (read : readString text = some (marks, rest)) :
    readString (c :: text) = some (.char c :: marks, rest) := by
  have stays : ¬(c == '\\' || decide (c < ' ')) = true := by
    simp [escape, Char.not_lt.mpr printable]
  rw [readString.eq_5 c text (absurd · quote) (fun _ _ _ _ _ same => absurd same escape)
    (fun _ _ same => absurd same escape), if_neg stays, read]
  rfl

theorem readString_escaped {c d : Char} (escape : escaped? c = some d)
    (read : readString text = some (marks, rest)) :
    readString ('\\' :: c :: text) = some (.char d :: marks, rest) := by
  have other : c ≠ 'u' := by
    rintro rfl
    cases escape
  rw [readString.eq_4 c text (fun _ _ _ _ _ same => absurd same other), escape, read]
  rfl

theorem readString_unit {c₁ c₂ c₃ c₄ : Char} {unit : Nat} (named : unit? c₁ c₂ c₃ c₄ = some unit)
    (read : readString text = some (marks, rest)) :
    readString ('\\' :: 'u' :: c₁ :: c₂ :: c₃ :: c₄ :: text) = some (ofUnit unit :: marks, rest) := by
  rw [readString, named, read]
  rfl

/-- A string is read up to its closing quote. -/
theorem readString_of_writes (writes : WritesMarks text marks) (rest : List Char) :
    readString (text ++ '"' :: rest) = some (marks, rest) := by
  induction writes with
  | done => rfl
  | plain quote escape printable _ ih => exact readString_plain quote escape printable ih
  | escaped escape _ ih => exact readString_escaped escape ih
  | unit named _ ih => exact readString_unit named ih

/-! ### Numbers -/

/-- A character that goes on with a number. -/
def goesOn (c : Char) : Bool :=
  c.isDigit || c == '.' || c == 'e' || c == 'E'

theorem goesOn_of_isJsonBlank {c : Char} (blank : isJsonBlank c = true) : goesOn c = false := by
  simp only [isJsonBlank, Bool.or_eq_true, beq_iff_eq] at blank
  rcases blank with ((rfl | rfl) | rfl) | rfl <;> rfl

theorem stops_isDigit (stops : Stops goesOn rest) : Stops Char.isDigit rest := by
  intro c head
  have stop := stops c head
  simp only [goesOn, Bool.or_eq_false_iff] at stop
  exact stop.1.1.1

/-- A run of digits in front of something else is read whole. -/
theorem readDigits_of_digits {digits : List Char} (run : Digits digits)
    (stops : Stops Char.isDigit rest) : readDigits (digits ++ rest) = some (digits, rest) := by
  have filled : digits.isEmpty = false := List.isEmpty_eq_false_iff.mpr run.1
  simp [readDigits, takeWhile_append_stops run.2 stops, dropWhile_append_stops run.2 stops, filled]

theorem readFraction_of_writes {fraction digits : List Char} (writes : WritesFraction fraction digits)
    (stops : Stops Char.isDigit rest) (apart : rest.head? ≠ some '.') :
    readFraction (fraction ++ rest) = some (digits, rest) := by
  cases writes with
  | some run => exact readDigits_of_digits run stops
  | none =>
    cases rest with
    | nil => rfl
    | cons c rest =>
      have other : c ≠ '.' := by simpa using apart
      rw [List.nil_append, readFraction]
      exact fun rest same => other (List.cons.inj same).1

theorem readSign_of_writes {sign digits : List Char} {negative : Bool}
    (writes : WritesSign sign negative) (run : Digits digits) (rest : List Char) :
    readSign (sign ++ (digits ++ rest)) = (negative, digits ++ rest) := by
  cases writes with
  | plus | minus => rfl
  | none =>
    -- A digit is no sign.
    obtain ⟨filled, all⟩ := run
    obtain ⟨c, digits, rfl⟩ := List.exists_cons_of_ne_nil filled
    have digit := all c List.mem_cons_self
    rw [List.nil_append, List.cons_append, readSign]
    · rintro rest ⟨rfl, -⟩
      cases digit
    · rintro rest ⟨rfl, -⟩
      cases digit

theorem readExponent_of_writes {exponent : List Char} {size : Option Int}
    (writes : WritesExponent exponent size) (stops : Stops goesOn rest) :
    readExponent (exponent ++ rest) = some (size, rest) := by
  cases writes with
  | none =>
    cases rest with
    | nil => rfl
    | cons c rest =>
      have stop := stops_cons.mp stops
      simp only [goesOn, Bool.or_eq_false_iff] at stop
      simp [readExponent, stop]
  | @some e _ _ _ mark sign run =>
    have marked : (e == 'e' || e == 'E') = true := by simpa using mark
    simp [readExponent, marked, readSign_of_writes sign run,
      readDigits_of_digits run (stops_isDigit stops)]

/-- Neither an exponent nor what stands behind a number goes on with its digits. -/
theorem stops_exponent {exponent : List Char} {size : Option Int}
    (writes : WritesExponent exponent size) (stops : Stops goesOn rest) :
    Stops Char.isDigit (exponent ++ rest) ∧ (exponent ++ rest).head? ≠ some '.' := by
  cases writes with
  | some mark => rcases mark with rfl | rfl <;> exact ⟨stops_cons.mpr rfl, by simp⟩
  | none =>
    refine ⟨stops_isDigit stops, fun point => ?_⟩
    cases stops '.' point

/-- The digits in front of the point are read whole, since none of them is needless. -/
theorem readWhole_of_digits {whole : List Char} (run : Digits whole)
    (zero : whole.head? = some '0' → whole.length = 1) (stops : Stops Char.isDigit rest) :
    readWhole (whole ++ rest) = some (whole, rest) := by
  have needed : ¬(whole.head? == some '0' && whole.length != 1) = true := by simpa using zero
  rw [readWhole, readDigits_of_digits run stops]
  exact if_neg needed

/-- What a number comes to behind its sign. -/
theorem readNumber_behind (negative : Bool) {whole digits tail₁ tail₂ : List Char}
    {size : Option Int} (minus : text.head? ≠ some '-')
    (first : readWhole text = some (whole, tail₁)) (second : readFraction tail₁ = some (digits, tail₂))
    (third : readExponent tail₂ = some (size, rest)) :
    readNumber ((if negative then ['-'] else []) ++ text) =
      some (⟨negative, whole, digits, size⟩, rest) := by
  cases negative with
  | true => simp [readNumber, first, second, third]
  | false =>
    cases text with
    | nil => cases first
    | cons c text =>
      have other : c ≠ '-' := by simpa using minus
      simp [readNumber, other, first, second, third]

theorem readNumber_of_writes {n : Number} (writes : WritesNumber text n)
    (stops : Stops goesOn rest) : readNumber (text ++ rest) = some (n, rest) := by
  cases writes with
  | @number negative whole fraction digits exponent size run zero fracture power =>
    obtain ⟨behind, apart⟩ := stops_exponent power stops
    have stopsHere : Stops Char.isDigit (fraction ++ (exponent ++ rest)) := by
      cases fracture with
      | none => exact behind
      | some => exact stops_cons.mpr rfl
    have minus : (whole ++ (fraction ++ (exponent ++ rest))).head? ≠ some '-' := by
      obtain ⟨filled, all⟩ := run
      obtain ⟨c, whole, rfl⟩ := List.exists_cons_of_ne_nil filled
      rintro ⟨⟩
      cases all '-' List.mem_cons_self
    simp only [List.append_assoc]
    exact readNumber_behind negative minus (readWhole_of_digits run zero stopsHere)
      (readFraction_of_writes fracture behind apart) (readExponent_of_writes power stops)

/-! ### Blanks and marks -/

theorem skipBlanks_append {front : List Char} (blanks : Blanks front) (text : List Char) :
    skipBlanks (front ++ text) = skipBlanks text :=
  List.dropWhile_append_of_pos blanks

theorem skipBlanks_cons {c : Char} (visible : isJsonBlank c = false) (text : List Char) :
    skipBlanks (c :: text) = c :: text :=
  List.dropWhile_cons_of_neg (by simp [visible])

/-- A mark is found behind any blanks. -/
theorem skipBlanks_mark {behind : List Char} (blanks : Blanks behind) {c : Char}
    (visible : isJsonBlank c = false) (text : List Char) :
    skipBlanks (behind ++ c :: text) = c :: text := by
  rw [skipBlanks_append blanks, skipBlanks_cons visible]

/-- Neither blanks nor a mark behind them go on with a number. -/
theorem stops_mark {behind : List Char} (blanks : Blanks behind) {c : Char}
    (mark : goesOn c = false) (text : List Char) : Stops goesOn (behind ++ c :: text) := by
  cases behind with
  | nil => exact stops_cons.mpr mark
  | cons b behind =>
    exact stops_cons.mpr (goesOn_of_isJsonBlank (blanks b List.mem_cons_self))

theorem stops_blanks {behind : List Char} (blanks : Blanks behind) : Stops goesOn behind := by
  cases behind with
  | nil => exact stops_nil
  | cons b behind =>
    exact stops_cons.mpr (goesOn_of_isJsonBlank (blanks b List.mem_cons_self))

/-! ### Values, step by step -/

variable {fuel : Nat} {item value : Json} {items : List Json} {members : List (Marks × Json)}
  {name : Marks} {behind others label : List Char}

theorem readValue_append {front : List Char} (blanks : Blanks front) (text : List Char) :
    readValue fuel (front ++ text) = readValue fuel text := by
  cases fuel with
  | zero => rw [readValue, readValue]
  | succ fuel => rw [readValue, readValue, skipBlanks_append blanks]

theorem readItems_append {front : List Char} (blanks : Blanks front) (text : List Char) :
    readItems fuel (front ++ text) = readItems fuel text := by
  cases fuel with
  | zero => rw [readItems, readItems]
  | succ fuel => rw [readItems, readItems, readValue_append blanks]

theorem readMembers_append {front : List Char} (blanks : Blanks front) (text : List Char) :
    readMembers fuel (front ++ text) = readMembers fuel text := by
  cases fuel with
  | zero => rw [readMembers, readMembers]
  | succ fuel => rw [readMembers, readMembers, skipBlanks_append blanks]

theorem visible_of_number {c : Char} (first : c = '-' ∨ c.isDigit = true) :
    isJsonBlank c = false := by
  rw [Bool.eq_false_iff]
  intro blank
  simp only [isJsonBlank, Bool.or_eq_true, beq_iff_eq] at blank
  rcases blank with ((rfl | rfl) | rfl) | rfl <;> simp at first

theorem WritesNumber.head {n : Number} (writes : WritesNumber text n) :
    ∃ c tail, text = c :: tail ∧ (c = '-' ∨ c.isDigit = true) := by
  cases writes with
  | @number negative whole _ _ _ _ run =>
    obtain ⟨filled, all⟩ := run
    obtain ⟨c, whole, rfl⟩ := List.exists_cons_of_ne_nil filled
    cases negative with
    | true => exact ⟨'-', _, rfl, .inl rfl⟩
    | false => exact ⟨c, _, rfl, .inr (all c List.mem_cons_self)⟩

theorem readValue_number {c : Char} (first : c = '-' ∨ c.isDigit = true) {n : Number}
    (read : readNumber (c :: text) = some (n, rest)) :
    readValue (fuel + 1) (c :: text) = some (.number n, rest) := by
  have visible := visible_of_number first
  rw [readValue, skipBlanks_cons visible]
  -- No other value starts with a digit or a minus.
  split <;> simp_all

theorem readValue_string (read : readString text = some (marks, rest)) :
    readValue (fuel + 1) ('"' :: text) = some (.string marks, rest) := by
  rw [readValue, skipBlanks_cons rfl]
  simp [read]

theorem readValue_noItems (blanks : Blanks behind) (rest : List Char) :
    readValue (fuel + 1) ('[' :: (behind ++ ']' :: rest)) = some (.array [], rest) := by
  have closed := skipBlanks_mark blanks (c := ']') rfl rest
  rw [readValue, skipBlanks_cons rfl]
  simp [closed]

theorem readValue_array {front : List Char} {c : Char} (blanks : Blanks front)
    (visible : isJsonBlank c = false) (more : c ≠ ']')
    (read : readItems fuel (front ++ c :: text) = some (items, rest)) :
    readValue (fuel + 1) ('[' :: (front ++ c :: text)) = some (.array items, rest) := by
  have opened := skipBlanks_mark blanks visible text
  rw [readItems_append blanks] at read
  rw [readValue, skipBlanks_cons rfl]
  simp [opened, more, read]

theorem readItems_one (blanks : Blanks behind)
    (read : readValue fuel text = some (item, behind ++ ']' :: rest)) :
    readItems (fuel + 1) text = some ([item], rest) := by
  have closed := skipBlanks_mark blanks (c := ']') rfl rest
  rw [readItems, read]
  simp [closed]

theorem readItems_more (blanks : Blanks behind)
    (read : readValue fuel text = some (item, behind ++ ',' :: others))
    (later : readItems fuel others = some (items, rest)) :
    readItems (fuel + 1) text = some (item :: items, rest) := by
  have comma := skipBlanks_mark blanks (c := ',') rfl others
  rw [readItems, read]
  simp [comma, later]

theorem readValue_noMembers (blanks : Blanks behind) (rest : List Char) :
    readValue (fuel + 1) ('\x7b' :: (behind ++ '\x7d' :: rest)) = some (.object [], rest) := by
  have closed := skipBlanks_mark blanks (c := '\x7d') rfl rest
  rw [readValue, skipBlanks_cons rfl]
  simp [closed]

theorem readValue_object {front : List Char} (blanks : Blanks front)
    (read : readMembers fuel (front ++ '"' :: text) = some (members, rest)) :
    readValue (fuel + 1) ('\x7b' :: (front ++ '"' :: text)) = some (.object members, rest) := by
  have opened := skipBlanks_mark blanks (c := '"') rfl text
  rw [readMembers_append blanks] at read
  rw [readValue, skipBlanks_cons rfl]
  simp [opened, read]

/-- A name is read with its quotes and its colon, and the value behind it. -/
theorem exists_name (writes : WritesName label name) (text : List Char) :
    ∃ quoted behind padded, skipBlanks (label ++ text) = '"' :: quoted ∧
      readString quoted = some (name, behind) ∧ skipBlanks behind = ':' :: padded ∧
      ∀ fuel, readValue fuel padded = readValue fuel text := by
  cases writes with
  | @name front marks behind between _ before writes after blanks =>
    refine ⟨marks ++ '"' :: (behind ++ ':' :: (between ++ text)), behind ++ ':' :: (between ++ text),
      between ++ text, ?_, readString_of_writes writes _, skipBlanks_mark after rfl _,
      fun fuel => readValue_append blanks text⟩
    simpa only [List.append_assoc, List.cons_append] using skipBlanks_mark before rfl _

theorem readMembers_one (writes : WritesName label name) (blanks : Blanks behind)
    (read : readValue fuel text = some (value, behind ++ '\x7d' :: rest)) :
    readMembers (fuel + 1) (label ++ text) = some ([(name, value)], rest) := by
  obtain ⟨quoted, between, padded, opened, named, colon, same⟩ := exists_name writes text
  have closed := skipBlanks_mark blanks (c := '\x7d') rfl rest
  rw [readMembers, opened]
  simp [named, colon, same, read, closed]

theorem readMembers_more (writes : WritesName label name) (blanks : Blanks behind)
    (read : readValue fuel text = some (value, behind ++ ',' :: others))
    (later : readMembers fuel others = some (members, rest)) :
    readMembers (fuel + 1) (label ++ text) = some ((name, value) :: members, rest) := by
  obtain ⟨quoted, between, padded, opened, named, colon, same⟩ := exists_name writes text
  have comma := skipBlanks_mark blanks (c := ',') rfl others
  rw [readMembers, opened]
  simp [named, colon, same, read, comma, later]

/-! ### Values -/

theorem Writes.head (writes : Writes text value) :
    ∃ c tail, text = c :: tail ∧ isJsonBlank c = false ∧ c ≠ ']' := by
  cases writes with
  | number writes =>
    obtain ⟨c, tail, same, first⟩ := writes.head
    refine ⟨c, tail, same, visible_of_number first, ?_⟩
    rintro rfl
    simp at first
  | _ => exact ⟨_, _, rfl, rfl, by decide⟩

theorem WritesItems.head (writes : WritesItems text items) :
    ∃ front c tail, text = front ++ c :: tail ∧ Blanks front ∧ isJsonBlank c = false ∧ c ≠ ']' := by
  cases writes with
  | one blanks writes | more blanks writes =>
    obtain ⟨c, tail, rfl, visible, more⟩ := writes.head
    exact ⟨_, c, _, rfl, blanks, visible, more⟩

theorem WritesMembers.head (writes : WritesMembers text members) :
    ∃ front tail, text = front ++ '"' :: tail ∧ Blanks front := by
  cases writes with
  | one label | more label =>
    cases label with
    | name blanks => exact ⟨_, _, List.append_assoc _ _ _, blanks⟩

/-- With this fuel, values that are short enough are read in front of whatever does not go on with
a number. -/
def ReadsValues (fuel : Nat) : Prop :=
  ∀ text value rest, Writes text value → 2 * text.length < fuel → Stops goesOn rest →
    readValue fuel (text ++ rest) = some (value, rest)

def ReadsItems (fuel : Nat) : Prop :=
  ∀ text items rest, WritesItems text items → 2 * text.length + 1 < fuel →
    readItems fuel (text ++ ']' :: rest) = some (items, rest)

def ReadsMembers (fuel : Nat) : Prop :=
  ∀ text members rest, WritesMembers text members → 2 * text.length + 1 < fuel →
    readMembers fuel (text ++ '\x7d' :: rest) = some (members, rest)

theorem readsValues_step (readsItems : ReadsItems fuel) (readsMembers : ReadsMembers fuel) :
    ReadsValues (fuel + 1) := by
  intro text value rest writes enough stops
  cases writes with
  | null | yes | no =>
    rw [readValue]
    rfl
  | number writes =>
    have read := readNumber_of_writes writes stops
    obtain ⟨c, tail, rfl, first⟩ := writes.head
    exact readValue_number first read
  | string writes => simpa using readValue_string (readString_of_writes writes rest)
  | noItems blanks => simpa using readValue_noItems blanks rest
  | noMembers blanks => simpa using readValue_noMembers blanks rest
  | @array text items writes =>
    -- The two brackets are gone, which pays for this step and the next.
    simp only [List.length_cons, List.length_append] at enough
    have read := readsItems text items rest writes (by omega)
    obtain ⟨front, c, tail, rfl, blanks, visible, more⟩ := writes.head
    simp only [List.append_assoc, List.cons_append] at read
    simpa using readValue_array blanks visible more read
  | @object text members writes =>
    simp only [List.length_cons, List.length_append] at enough
    have read := readsMembers text members rest writes (by omega)
    obtain ⟨front, tail, rfl, blanks⟩ := writes.head
    simp only [List.append_assoc, List.cons_append] at read
    simpa using readValue_object blanks read

theorem readsItems_step (readsValues : ReadsValues fuel) (readsItems : ReadsItems fuel) :
    ReadsItems (fuel + 1) := by
  intro text items rest writes enough
  cases writes with
  | @one front text behind item before writes after =>
    simp only [List.length_append] at enough
    have read := readsValues text item (behind ++ ']' :: rest) writes (by omega)
      (stops_mark after rfl rest)
    simp only [List.append_assoc]
    rw [readItems_append before]
    exact readItems_one after read
  | @more front text behind others item items before writes after later =>
    simp only [List.length_append, List.length_cons] at enough
    have read := readsValues text item (behind ++ ',' :: (others ++ ']' :: rest)) writes (by omega)
      (stops_mark after rfl _)
    have following := readsItems others items rest later (by omega)
    simp only [List.append_assoc, List.cons_append]
    rw [readItems_append before]
    exact readItems_more after read following

theorem readsMembers_step (readsValues : ReadsValues fuel) (readsMembers : ReadsMembers fuel) :
    ReadsMembers (fuel + 1) := by
  intro text members rest writes enough
  cases writes with
  | @one label text behind name value named writes after =>
    simp only [List.length_append] at enough
    have read := readsValues text value (behind ++ '\x7d' :: rest) writes (by omega)
      (stops_mark after rfl rest)
    simp only [List.append_assoc]
    exact readMembers_one named after read
  | @more label text behind others name value members named writes after later =>
    simp only [List.length_append, List.length_cons] at enough
    have read := readsValues text value (behind ++ ',' :: (others ++ '\x7d' :: rest)) writes
      (by omega) (stops_mark after rfl _)
    have following := readsMembers others members rest later (by omega)
    simp only [List.append_assoc, List.cons_append]
    exact readMembers_more named after read following

/-- Each level of nesting takes two steps of the reader, and its two brackets are as many. -/
theorem reads (fuel : Nat) : ReadsValues fuel ∧ ReadsItems fuel ∧ ReadsMembers fuel := by
  induction fuel with
  | zero => exact ⟨fun _ _ _ _ enough => by omega, fun _ _ _ _ enough => by omega,
      fun _ _ _ _ enough => by omega⟩
  | succ fuel ih =>
    obtain ⟨values, items, members⟩ := ih
    exact ⟨readsValues_step items members, readsItems_step values items,
      readsMembers_step values members⟩

/-- The reader takes a text for the value that it writes. -/
theorem read?_of_written {text : String} {json : Json} (written : Written text json) :
    read? text = some json := by
  obtain ⟨front, core, behind, same, before, writes, after⟩ := written
  have size := congrArg List.length same
  simp only [List.length_append] at size
  have read := (reads (2 * text.toList.length + 1)).1 core json behind writes (by omega)
    (stops_blanks after)
  have ended : skipBlanks behind = [] := by
    have skipped := skipBlanks_append after []
    rwa [List.append_nil] at skipped
  rw [read?, same, readValue_append before, ← same, read]
  simp [ended]

end DiceChat.Json
