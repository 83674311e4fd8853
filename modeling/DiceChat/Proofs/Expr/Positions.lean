import DiceChat.Proofs.Expr.Calls

/-!
# Where faults are located

A fault is located where the cursor has come to when the whole parse is over, and the cursor is one
token ahead of the parser. What it has passed by then is a piece of the text that lexes, with the
token ahead at its end or, if no token could be read, with the text that was refused behind it.

## Main results

* `Spells.lexed_append`: texts can be joined where no number goes on.
* `Cursor.Read.token`: what a cursor has passed stays a text that spells what was read.
* `Parser.Fails.marks`: what every located fault says of its position.
* `faults_faithful`: every fault of a text.
-/

namespace DiceChat

/-! ### Joining texts -/

/-- No number goes on from one text to the other. -/
def Cut (front rest : List Char) : Prop :=
  ∀ c ∈ front.getLast?, Number.isLiteralChar c = true → Stops Number.isLiteralChar rest

variable {front rest : List Char}

theorem Cut.behind (one : List Char) (cut : Cut (one ++ front) rest) : Cut front rest := by
  intro c last literal
  refine cut c ?_ literal
  rw [Option.mem_def] at last ⊢
  rw [List.getLast?_append, last, Option.some_or]

theorem Cut.before {one : List Char} (cut : Cut front (one ++ rest)) : Cut front one :=
  fun c last literal => stops_of_append (cut c last literal)

theorem Spells.blanks {blanks text : List Char} {tokens : List Token}
    (all : ∀ b ∈ blanks, isBlank b = true) (spells : Spells text tokens) :
    Spells (blanks ++ text) tokens := by
  induction blanks with
  | nil => exact spells
  | cons b blanks ih =>
    rw [List.forall_mem_cons] at all
    exact .blank all.1 (ih all.2)

/-- Behind a number, neither its own text nor the text that it is joined to goes on with it. -/
theorem Cut.stops {run text : List Char} (cut : Cut (run ++ text) rest)
    (literal : Number.IsLiteral run) (stops : Stops Number.isLiteralChar text) :
    Stops Number.isLiteralChar (text ++ rest) := by
  cases text with
  | cons c text => exact stops_cons.mpr (stops_cons.mp stops)
  | nil =>
    -- The number ends the first text, so the second one does not go on with it.
    rw [List.append_nil] at cut
    obtain ⟨c, member, -⟩ := literal.digits
    have last := List.getLast?_eq_some_getLast (List.ne_nil_of_mem member)
    exact cut _ last (isLiteralChar_iff.mpr (literal.chars _ (List.getLast_mem _)))

/-- In front of a text, what spells tokens is read as these tokens, and then the text is read as it
would be read on its own. -/
theorem Spells.lexed_append {tokens : List Token} (spells : Spells front tokens)
    (cut : Cut front rest) (n : Nat) :
    Cursor.lexed ⟨front ++ rest, n⟩ =
      (tokens ++ (Cursor.lexed ⟨rest, 0⟩).1, (Cursor.lexed ⟨rest, 0⟩).2) := by
  induction spells generalizing n with
  | done => rw [List.nil_append, List.nil_append, Cursor.lexed_position]
  | @blank c text tokens blank _ ih =>
    rw [List.cons_append, Cursor.lexed_blank blank, ih (Cut.behind [c] cut)]
  | @symbol c token text tokens written _ ih =>
    have symbol := Token.symbol?_eq_some_iff.mp written
    have visible : isBlank c = false := by
      rw [Bool.eq_false_iff]
      intro blank
      rw [ofSymbol?_of_isBlank blank] at symbol
      cases symbol
    have more : token ≠ .endOfInput := by
      rintro rfl
      cases written
    have read := (Cursor.next_cons visible (text ++ rest) n).trans (Cursor.tokenAt_symbol symbol _ n)
    rw [List.cons_append, Cursor.lexed_of_token read more, ih (Cut.behind [c] cut)]
    rfl
  | @number run text tokens literal stops _ ih =>
    rw [List.append_assoc, Cursor.lexed_number literal (cut.stops literal stops),
      ih (Cut.behind run cut)]
    rfl

theorem Spells.append {one two : List Char} {tokens others : List Token}
    (spells : Spells one tokens) (later : Spells two others) (cut : Cut one two) :
    Spells (one ++ two) (tokens ++ others) := by
  have rest : Cursor.lexed ⟨two, 0⟩ = (others, none) := Cursor.spells_iff_lexed.mp later
  have read := spells.lexed_append cut 0
  rw [rest] at read
  exact (@Cursor.spells_iff_lexed ⟨one ++ two, 0⟩ _).mpr read

namespace Piece

variable {piece : List Char} {token : Token}

theorem spells (taken : Piece piece rest (.ok token)) (more : token ≠ .endOfInput) :
    Spells piece [token] := by
  cases taken with
  | ended => exact absurd rfl more
  | symbol written => exact .symbol written .done
  | number literal =>
    have alone := Spells.number literal stops_nil .done
    rwa [List.append_nil] at alone

theorem cut (taken : Piece piece rest (.ok token)) (more : token ≠ .endOfInput)
    (front : List Char) : Cut (front ++ piece) rest := by
  cases taken with
  | ended => exact absurd rfl more
  | @symbol _ c _ written =>
    intro d last literal
    rw [List.getLast?_concat, Option.mem_some_iff] at last
    subst last
    have symbol := Token.symbol?_eq_some_iff.mp written
    rw [ofSymbol?_of_isLiteralChar literal] at symbol
    cases symbol
  | number _ stops => exact fun _ _ _ => stops

end Piece

/-! ### What a cursor has passed -/

namespace Cursor

variable {text : List Char} {seen : List Token} {c after : Cursor}

/-- The cursor has passed a piece of the text that spells `seen`. -/
structure Read (text : List Char) (seen : List Token) (c : Cursor) : Prop where
  stands : c.StandsIn text
  spells : Spells (text.take c.position) seen
  cut : Cut (text.take c.position) c.rest

theorem read_ofText (text : String) : (ofText text).Read text.toList [] :=
  ⟨standsIn_ofText text, .done, nofun⟩

/-- A token is passed with the blanks in front of it. -/
theorem Read.token {t : Token} (read : c.Read text seen) (next : c.next = .ok t after)
    (more : t ≠ .endOfInput) :
    after.Read text (seen ++ [t]) ∧
      ∃ front piece, text.take after.position = front ++ piece ∧
        Piece piece (text.drop after.position) (.ok t) := by
  obtain ⟨blanks, piece, result, after', next', all, taken, same, stands, passed, -⟩ :=
    read.stands.piece
  rw [next'] at next
  cases result with
  | error fault => cases next
  | ok found =>
    cases next
    have before := read.cut
    rw [same] at before
    -- What was passed before, the blanks and the token make up what is passed now.
    have spells := read.spells.append ((taken.spells more).blanks all) before.before
    rw [← passed] at spells
    rw [← List.append_assoc] at passed
    refine ⟨⟨stands, spells, ?_⟩, _, piece, passed, stands.rest ▸ taken⟩
    rw [passed]
    exact taken.cut more _

/-- At the end, the whole text has been passed. -/
theorem Read.ended (read : c.Read text seen) (next : c.next = .ok .endOfInput after) :
    after.position = text.length ∧ after.Read text seen := by
  have there := (read.stands.token next).1
  have all := there.position_of_end (rest_of_next_end next)
  have spells := read.spells.append (spells_nil_iff.mpr ⟨after, next⟩) read.cut
  rw [read.stands.rest, List.take_append_drop, List.append_nil] at spells
  refine ⟨all, there, ?_, ?_⟩
  · rwa [all, List.take_length]
  · rw [rest_of_next_end next]
    exact fun _ _ _ => stops_nil

theorem Read.lexed (read : c.Read text seen) :
    lexed ⟨text.take c.position, 0⟩ = (seen, none) :=
  spells_iff_lexed.mp read.spells

/-- What stands behind the blanks after a cut does not go on with a number. -/
theorem Read.apart (read : c.Read text seen) {blanks run rest : List Char}
    (all : ∀ b ∈ blanks, isBlank b = true) (same : c.rest = blanks ++ run ++ rest)
    (filled : run ≠ []) (chars : ∀ d ∈ run, Number.isLiteralChar d = true) :
    ∀ d ∈ (text.take c.position ++ blanks).getLast?, Number.isLiteralChar d = false := by
  intro d last
  rw [Option.mem_def, List.getLast?_append, Option.or_eq_some_iff] at last
  rcases last with blank | ⟨none, before⟩
  · exact isLiteralChar_of_isBlank (all d (List.mem_of_getLast? blank))
  · -- Without blanks, a number in front would go on with the run.
    rw [List.getLast?_eq_none_iff] at none
    subst none
    rw [Bool.eq_false_iff]
    intro literal
    have stops := read.cut d before literal
    obtain ⟨first, run, rfl⟩ := List.exists_cons_of_ne_nil filled
    rw [same] at stops
    have refused := stops_cons.mp stops
    rw [chars first List.mem_cons_self] at refused
    cases refused

end Cursor

/-! ### What a position says -/

/-- The text up to `n` lexes, and `ahead` is its last token and ends at `n`. The end of the input
stands at the end of the text. -/
inductive EndsAt (text : List Char) : Nat → Token → Prop where
  | ended {tokens} : Cursor.lexed ⟨text, 0⟩ = (tokens, none) →
      EndsAt text text.length .endOfInput
  | token {n ahead tokens front piece} : ahead ≠ .endOfInput →
      Cursor.lexed ⟨text.take n, 0⟩ = (tokens ++ [ahead], none) →
      text.take n = front ++ piece → Piece piece (text.drop n) (.ok ahead) → EndsAt text n ahead

/-- A word ends at `n`. -/
structure EndsWord (text : List Char) (n : Nat) (word : List Char) : Prop where
  before : word <:+ text.take n
  letter : ∃ c ∈ word.head?, isLetter c = true
  stops : Stops isWordChar (text.drop n)

/-- A run of digits and points that is no number ends at `n`. It is maximal on both sides. -/
structure EndsMalformed (text : List Char) (n : Nat) (front run : List Char) : Prop where
  before : text.take n = front ++ run
  filled : run ≠ []
  chars : ∀ c ∈ run, Number.isLiteralChar c = true
  malformed : ¬Number.IsLiteral run
  apart : ∀ c ∈ front.getLast?, Number.isLiteralChar c = false
  stops : Stops Number.isLiteralChar (text.drop n)

/-- What a fault at `n` says of the text, with `ahead` as the token ahead. -/
def Marks (text : List Char) (n : Nat) (ahead : Token) : ParseError → Prop
  | .token c => text[n]? = some c
  | .identifier word => EndsWord text n word.toList
  | .number _ => ∃ front run, EndsMalformed text n front run
  | .unclosedParenthesis | .operandExpected _ | .tooDeep _ => EndsAt text n ahead
  | .trailingInput name => EndsAt text n ahead ∧ ahead ≠ .endOfInput ∧ name = ahead.name
  | .located _ _ | .empty | .operatorExpected _ => False

/-- Where a cursor is refused, the fault tells what stands there. -/
theorem Cursor.Read.marks {text : List Char} {seen : List Token} {c after : Cursor}
    {fault : ParseError} (read : c.Read text seen) (next : c.next = .error fault after)
    (ahead : Token) : Marks text after.position ahead fault := by
  obtain ⟨blanks, piece, result, ⟨rest, n⟩, next', all, taken, same, stands, passed, -⟩ :=
    read.stands.piece
  have behind : rest = text.drop n := stands.rest
  rw [next'] at next
  rw [← List.append_assoc] at passed
  cases taken with
  | malformed filled chars malformed stops =>
    cases next
    rw [behind] at stops
    exact ⟨_, piece, passed, filled, chars, malformed, read.apart all same filled chars, stops⟩
  | @word d run _ letter _ stops =>
    cases next
    rw [behind] at stops
    refine ⟨?_, ?_, stops⟩
    · rw [String.toList_ofList]
      exact ⟨_, passed.symm⟩
    · rw [String.toList_ofList]
      exact ⟨d, rfl, letter⟩
  | @stray d rest =>
    -- The character has not been passed, so the position is its index.
    cases next
    have here : text[n]? = (text.drop n)[0]? := by rw [List.getElem?_drop, Nat.add_zero]
    rw [Marks, here, ← behind]
    rfl
  | ended | symbol | number => cases next

namespace Parser

variable {text : List Char} {p q : Parser} {fault : ParseError}

/-- The token ahead was read behind a piece of the text that lexes. -/
def Looks (text : List Char) (p : Parser) : Prop :=
  ∃ (c : Cursor) (seen : List Token), c.Read text seen ∧ c.next = .ok p.peek p.cursor

theorem looks_ofText {text : String} (started : ofText text = .ok p) : p.Looks text.toList := by
  obtain ⟨between, read, more, ahead⟩ := ofText_eq_ok_iff.mp started
  exact ⟨between, _, ((Cursor.read_ofText text).token read more).1, ahead⟩

/-- The cursor of the parser has passed the token ahead as well. -/
theorem Looks.cursor (looks : p.Looks text) : ∃ seen, p.cursor.Read text seen := by
  obtain ⟨c, seen, read, next⟩ := looks
  by_cases ended : p.peek = .endOfInput
  · rw [ended] at next
    exact ⟨_, (read.ended next).2⟩
  · exact ⟨_, (read.token next ended).1⟩

theorem Looks.advance (looks : p.Looks text) (moved : advance p = .ok () q) : q.Looks text := by
  obtain ⟨token, after, read, rfl⟩ := advance_eq_ok_iff.mp moved
  obtain ⟨seen, passed⟩ := looks.cursor
  exact ⟨p.cursor, seen, passed, read⟩

theorem Looks.reaches (looks : p.Looks text) (reaches : Reaches p q) : q.Looks text :=
  reaches.keeps looks fun _ _ there moved => there.advance moved

theorem Looks.endsAt (looks : p.Looks text) : EndsAt text p.cursor.position p.peek := by
  obtain ⟨c, seen, read, next⟩ := looks
  by_cases ended : p.peek = .endOfInput
  · rw [ended] at next ⊢
    obtain ⟨all, there⟩ := read.ended next
    have lexed := there.lexed
    rw [all, List.take_length] at lexed
    rw [all]
    exact .ended lexed
  · obtain ⟨there, front, piece, passed, taken⟩ := read.token next ended
    exact .token ended there.lexed passed taken

/-- Every fault of a parser says of the text what is there. -/
theorem Fails.marks (looks : p.Looks text) (fails : Fails p fault q) :
    Marks text q.cursor.position q.peek fault := by
  cases fails with
  | unread reaches read =>
    obtain ⟨seen, passed⟩ := (looks.reaches reaches).cursor
    exact passed.marks read _
  | tooDeep reaches => exact (looks.reaches reaches).endsAt
  | operandExpected reaches => exact (looks.reaches reaches).endsAt
  | unclosed reaches _ => exact (looks.reaches reaches).endsAt
  | trailing reaches more => exact ⟨(looks.reaches reaches).endsAt, more, rfl⟩

end Parser

/-! ### Texts -/

theorem Cursor.lexed_eq_fault_iff {c : Cursor} {fault : ParseError} :
    c.lexed = ([], some fault) ↔ ∃ after, c.next = .error fault after := by
  constructor
  · intro all
    cases next : c.next with
    | error found after =>
      rw [lexed_of_error next] at all
      cases all
      exact ⟨after, rfl⟩
    | ok token after =>
      by_cases ended : token = .endOfInput
      · rw [ended] at next
        rw [lexed_of_end next] at all
        cases all
      · rw [lexed_of_token next ended] at all
        cases all
  · rintro ⟨after, next⟩
    exact lexed_of_error next

theorem spells_nil_iff_blank {text : List Char} :
    Spells text [] ↔ ∀ c ∈ text, isBlank c = true := by
  constructor
  · intro spells
    generalize none : ([] : List Token) = tokens at spells
    induction spells with
    | done => nofun
    | blank blank _ ih => exact List.forall_mem_cons.mpr ⟨blank, ih none⟩
    | symbol | number => cases none
  · intro all
    have spells := Spells.blanks all .done
    rwa [List.append_nil] at spells

namespace Parser

variable {text : String} {fault : ParseError}

theorem ofText_eq_empty_iff :
    ofText text = .error .empty ↔ ∀ c ∈ text.toList, isBlank c = true := by
  change _ ↔ ∀ c ∈ (Cursor.ofText text).rest, isBlank c = true
  rw [← spells_nil_iff_blank, Cursor.spells_nil_iff]
  constructor
  · intro failed
    rcases ofText_fails failed with ⟨after, refused⟩ | ⟨-, ended⟩ | ⟨_, _, after, -, refused⟩
    · cases lexical_of_next refused
    · exact ended
    · cases lexical_of_next refused
  · rintro ⟨after, ended⟩
    simp [ofText, ended]

/-- A fault of the first two tokens is the answer, and no other fault of the cursor is. -/
theorem ofText_eq_lexical_iff :
    ofText text = .error fault ∧ fault.Lexical ↔
      ∃ tokens, tokens.length < 2 ∧ (Cursor.ofText text).lexed = (tokens, some fault) := by
  constructor
  · rintro ⟨failed, lexical⟩
    rcases ofText_fails failed with
      ⟨after, refused⟩ | ⟨rfl, -⟩ | ⟨current, between, after, read, refused⟩
    · exact ⟨[], Nat.zero_lt_two, Cursor.lexed_of_error refused⟩
    · cases lexical
    · have more : current ≠ .endOfInput := by
        -- Behind the end, nothing can be refused.
        rintro rfl
        rw [Cursor.next_of_rest_nil (Cursor.rest_of_next_end read)] at refused
        cases refused
      refine ⟨[current], Nat.one_lt_two, ?_⟩
      rw [Cursor.lexed_of_token read more, Cursor.lexed_of_error refused]
  · rintro ⟨tokens, few, lexed⟩
    cases read : (Cursor.ofText text).next with
    | error found after =>
      rw [Cursor.lexed_of_error read] at lexed
      cases lexed
      exact ⟨by simp [ofText, read], lexical_of_next read⟩
    | ok current between =>
      by_cases ended : current = .endOfInput
      · rw [ended] at read
        rw [Cursor.lexed_of_end read] at lexed
        cases lexed
      · rw [Cursor.lexed_of_token read ended] at lexed
        obtain ⟨rfl, faulty⟩ := Prod.mk.inj lexed
        have alone : between.lexed.1 = [] := by
          rw [← List.length_eq_zero_iff]
          rw [List.length_cons] at few
          omega
        obtain ⟨after, refused⟩ := Cursor.lexed_eq_fault_iff.mp (Prod.ext alone faulty)
        exact ⟨by simp [ofText, read, refused], lexical_of_next refused⟩

end Parser

/-- What a fault says of its text. -/
structure Faithful (text : String) (fault : ParseError) : Prop where
  empty : fault = .empty ↔ ∀ c ∈ text.toList, isBlank c = true
  /-- The faults without a position are those of the first two tokens. -/
  bare : ∀ found, fault = found ∧ found.Lexical ↔
    ∃ tokens, tokens.length < 2 ∧ (Cursor.ofText text).lexed = (tokens, some found)
  located : fault ≠ .empty → ¬fault.Lexical → ∃ n kind p q, fault = .located n kind ∧
    n ≤ text.toList.length ∧ Parser.ofText text = .ok p ∧ p.parse = .error fault q ∧
    Marks text.toList n q.peek kind

/-- Every fault of a text stands where it says. -/
theorem faults_faithful {text : String} {fault : ParseError}
    (failed : Expr.parse text = .error fault) : Faithful text fault := by
  rcases Expr.parse_eq_error_iff.mp failed with unstarted | ⟨p, q, started, failing⟩
  · -- No parser could be put on the text, so the fault has no position.
    constructor
    case empty =>
      rw [← Parser.ofText_eq_empty_iff, unstarted, Except.error.injEq]
    case bare =>
      intro found
      rw [← Parser.ofText_eq_lexical_iff, unstarted, Except.error.injEq]
    case located =>
      intro filled located
      -- There is no third kind of fault here.
      exfalso
      rcases Parser.ofText_fails unstarted with
        ⟨after, refused⟩ | ⟨empty, -⟩ | ⟨_, _, after, -, refused⟩
      · exact located (lexical_of_next refused)
      · exact filled empty
      · exact located (lexical_of_next refused)
  · -- The parser has located the fault where its cursor has come to.
    obtain ⟨kind, fails, rfl⟩ := Parser.parse_eq_error failing
    have marks := fails.marks (Parser.looks_ofText started)
    have within := (Parser.stands_ofText started).called.1.cursor.within
    rw [Parser.called_of_error failing] at within
    constructor
    case empty =>
      rw [← Parser.ofText_eq_empty_iff, started]
      exact ⟨nofun, nofun⟩
    case bare =>
      intro found
      rw [← Parser.ofText_eq_lexical_iff, started]
      constructor
      · rintro ⟨rfl, lexical⟩
        cases lexical
      · rintro ⟨same, -⟩
        cases same
    case located => exact fun _ _ => ⟨_, kind, p, q, rfl, within, started, failing, marks⟩

/-- Characters count, not bytes: the word ends behind six of them. -/
theorem faults_faithful_word :
    Expr.parse "1\u3000+ é2 3" = .error (.located 6 (.identifier "é2")) ∧
      Faithful "1\u3000+ é2 3" (.located 6 (.identifier "é2")) := by
  have failed : Expr.parse "1\u3000+ é2 3" = .error (.located 6 (.identifier "é2")) := by
    decide +kernel
  exact ⟨failed, faults_faithful failed⟩

end DiceChat
