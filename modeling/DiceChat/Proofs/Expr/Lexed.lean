import DiceChat.Proofs.Expr.Spelling

/-!
# Reading a text to its end

A reading skips the blanks before it and takes one piece of the text, which stands for a token or
for a fault. Repeated to the end, readings give the tokens of a text and the fault that stops them,
if one does. Where in a text the cursor stands does not matter to what it reads.

## Main results

* `Cursor.next_piece`: what a single reading does.
* `Cursor.lexed_shift`: the tokens and the fault do not depend on the position.
* `Cursor.spells_iff_lexed`: a text spells the tokens that are read from it without a fault.
* `Cursor.lexed_number`: a number in front of a text that does not go on with it is a token of its
  own.
-/

namespace DiceChat

/-- A piece of text with what is left behind it, and the token or the fault that it stands for. -/
inductive Piece : List Char → List Char → Except ParseError Token → Prop where
  | ended : Piece [] [] (.ok .endOfInput)
  | symbol {token c rest} : token.symbol? = some c → Piece [c] rest (.ok token)
  | number {run rest} : Number.IsLiteral run → Stops Number.isLiteralChar rest →
      Piece run rest (.ok (.number (Number.literalValue run)))
  | malformed {run rest} : run ≠ [] → (∀ c ∈ run, Number.isLiteralChar c = true) →
      ¬Number.IsLiteral run → Stops Number.isLiteralChar rest →
      Piece run rest (.error (.number .invalid))
  | word {c run rest} : isLetter c = true → (∀ d ∈ c :: run, isWordChar d = true) →
      Stops isWordChar rest →
      Piece (c :: run) rest (.error (.identifier (String.ofList (c :: run))))
  /-- A character that begins no token is not taken. -/
  | stray {c rest} : isBlank c = false → Token.ofSymbol? c = none →
      Number.isLiteralChar c = false → isLetter c = false → Piece [] (c :: rest) (.error (.token c))

theorem Number.readLiteral_eq_error {run : List Char} {fault : LiteralFault} (filled : run ≠ [])
    (refused : readLiteral run = .error fault) : fault = .invalid := by
  unfold readLiteral at refused
  cases rest : run.dropWhile Char.isDigit with
  | nil =>
    -- Then all of the run is digits, and there are some.
    have whole := List.takeWhile_append_dropWhile (p := Char.isDigit) (l := run)
    rw [rest, List.append_nil] at whole
    simp only [rest, whole, if_neg (show ¬run.isEmpty = true by simpa using filled)] at refused
    cases refused
  | cons point fraction =>
    simp only [rest] at refused
    split at refused <;> cases refused
    rfl

theorem isWordChar_of_isLetter {c : Char} (letter : isLetter c = true) : isWordChar c = true := by
  rw [isWordChar, letter, Bool.true_or]

namespace Cursor

/-- The same text, read from a later position. -/
def shift (c : Cursor) (k : Nat) : Cursor :=
  ⟨c.rest, c.position + k⟩

/-- A reading that ends at a cursor. -/
def reading (after : Cursor) : Except ParseError Token → EStateM.Result ParseError Cursor Token
  | .ok token => .ok token after
  | .error fault => .error fault after

/-! ### A single reading -/

theorem tokenAt_letter {c : Char} {run text : List Char} (letter : isLetter c = true)
    (chars : ∀ d ∈ c :: run, isWordChar d = true) (stops : Stops isWordChar text)
    (symbol : Token.ofSymbol? c = none) (literal : Number.isLiteralChar c = false) (n : Nat) :
    tokenAt ⟨c :: run ++ text, n⟩ c =
      .error (.identifier (String.ofList (c :: run))) ⟨text, n + (c :: run).length⟩ := by
  simp only [tokenAt, symbol, literal, letter, Bool.false_eq_true, if_false, if_true, skipWhile,
    takeWhile_append_stops chars stops, dropWhile_append_stops chars stops]

theorem tokenAt_stray {c : Char} (symbol : Token.ofSymbol? c = none)
    (literal : Number.isLiteralChar c = false) (letter : isLetter c = false) (text : List Char)
    (n : Nat) : tokenAt ⟨c :: text, n⟩ c = .error (.token c) ⟨c :: text, n⟩ := by
  simp only [tokenAt, symbol, literal, letter, Bool.false_eq_true, if_false]

/-- The piece that starts at a visible character. -/
theorem tokenAt_piece {c : Char} (visible : isBlank c = false) (text : List Char) (n : Nat) :
    ∃ piece rest result, c :: text = piece ++ rest ∧ Piece piece rest result ∧
      tokenAt ⟨c :: text, n⟩ c = reading ⟨rest, n + piece.length⟩ result := by
  cases symbol : Token.ofSymbol? c with
  | some token =>
    have written := Token.symbol?_eq_some_iff.mpr symbol
    exact ⟨[c], text, _, rfl, .symbol written, tokenAt_symbol symbol text n⟩
  | none =>
    cases literal : Number.isLiteralChar c with
    | true =>
      -- The whole span of digits and points is taken, whether or not it is a number.
      obtain ⟨run, rest, rfl, chars, stops, -⟩ := exists_span Number.isLiteralChar text
      have all : ∀ d ∈ c :: run, Number.isLiteralChar d = true :=
        List.forall_mem_cons.mpr ⟨literal, chars⟩
      have digits : ∀ d ∈ c :: run, d.isDigit = true ∨ d = '.' :=
        fun d member => isLiteralChar_iff.mp (all d member)
      have taken := tokenAt_run all stops n
      cases read : Number.readLiteral (c :: run) with
      | ok value =>
        obtain ⟨isLiteral, rfl⟩ := (Number.readLiteral_eq_ok_iff digits).mp read
        rw [read] at taken
        exact ⟨c :: run, rest, _, rfl, .number isLiteral stops, taken⟩
      | error fault =>
        obtain rfl := Number.readLiteral_eq_error (List.cons_ne_nil c run) read
        have refused : ¬Number.IsLiteral (c :: run) := by
          intro isLiteral
          rw [(Number.readLiteral_eq_ok_iff digits).mpr ⟨isLiteral, rfl⟩] at read
          cases read
        rw [read] at taken
        exact ⟨c :: run, rest, _, rfl, .malformed (List.cons_ne_nil c run) all refused stops, taken⟩
    | false =>
      cases letter : isLetter c with
      | true =>
        obtain ⟨run, rest, rfl, chars, stops, -⟩ := exists_span isWordChar text
        have all : ∀ d ∈ c :: run, isWordChar d = true :=
          List.forall_mem_cons.mpr ⟨isWordChar_of_isLetter letter, chars⟩
        exact ⟨c :: run, rest, _, rfl, .word letter all stops,
          tokenAt_letter letter all stops symbol literal n⟩
      | false =>
        exact ⟨[], c :: text, _, rfl, .stray visible symbol literal letter,
          tokenAt_stray symbol literal letter text n⟩

/-- A reading skips the blanks, takes one piece and stops behind it. -/
theorem next_piece (c : Cursor) :
    ∃ blanks piece rest result, c.rest = blanks ++ (piece ++ rest) ∧
      (∀ b ∈ blanks, isBlank b = true) ∧ Stops isBlank (piece ++ rest) ∧ Piece piece rest result ∧
      c.next = reading ⟨rest, c.position + (blanks.length + piece.length)⟩ result := by
  obtain ⟨text, n⟩ := c
  obtain ⟨blanks, text, rfl, all, stops, taken, dropped⟩ := exists_span isBlank text
  have skipped : skipWhile isBlank ⟨blanks ++ text, n⟩ = ⟨text, n + blanks.length⟩ := by
    rw [skipWhile, taken, dropped]
  cases text with
  | nil =>
    refine ⟨blanks, [], [], _, rfl, all, stops, .ended, ?_⟩
    simp only [next, skipped]
    rfl
  | cons c text =>
    obtain ⟨piece, rest, result, same, taken, read⟩ :=
      tokenAt_piece (stops_cons.mp stops) text (n + blanks.length)
    refine ⟨blanks, piece, rest, result, congrArg _ same, all, ?_, taken, ?_⟩
    · rw [← same]
      exact stops
    · simp only [next, skipped]
      rw [read, Nat.add_assoc]

/-- What a reading leaves is an end of what there was. -/
theorem rest_suffix_of_next {c after : Cursor} {result : Except ParseError Token}
    (read : c.next = reading after result) : after.rest <:+ c.rest := by
  obtain ⟨blanks, piece, rest, result', same, -, -, -, read'⟩ := c.next_piece
  have stands : after.rest = rest := by
    rw [read'] at read
    cases result <;> cases result' <;> cases read <;> rfl
  exact ⟨blanks ++ piece, by rw [stands, same, List.append_assoc]⟩

theorem rest_suffix_of_token {c after : Cursor} {token : Token} (read : c.next = .ok token after) :
    after.rest <:+ c.rest :=
  @rest_suffix_of_next c after (.ok token) read

/-- A token takes up some of the text. -/
theorem length_rest_of_next {c after : Cursor} {token : Token} (read : c.next = .ok token after)
    (more : token ≠ .endOfInput) : after.rest.length < c.rest.length := by
  obtain ⟨blanks, piece, rest, result, same, -, -, taken, read'⟩ := c.next_piece
  rw [read'] at read
  cases result with
  | error fault => cases read
  | ok found =>
    cases read
    have filled : piece ≠ [] := by
      cases taken with
      | ended => exact absurd rfl more
      | symbol => exact List.cons_ne_nil _ _
      | number isLiteral =>
        obtain ⟨c, member, -⟩ := isLiteral.digits
        exact List.ne_nil_of_mem member
    have positive := List.length_pos_iff.mpr filled
    simp only [same, List.length_append]
    omega

/-! ### Readings to the end -/

/-- The tokens that are read one after the other, and the fault that ends them, if one does. -/
def lexed (c : Cursor) : List Token × Option ParseError :=
  match _ : c.next with
  | .error fault _ => ([], some fault)
  | .ok token after =>
    if _ : token = .endOfInput then ([], none)
    else
      let later := lexed after
      (token :: later.1, later.2)
termination_by c.rest.length
decreasing_by exact length_rest_of_next ‹_› ‹_›

variable {c after : Cursor}

theorem lexed_of_error {fault : ParseError} (read : c.next = .error fault after) :
    c.lexed = ([], some fault) := by
  rw [lexed]
  split <;> simp_all

theorem lexed_of_end (read : c.next = .ok .endOfInput after) : c.lexed = ([], none) := by
  rw [lexed]
  split <;> simp_all

theorem lexed_of_token {token : Token} (read : c.next = .ok token after)
    (more : token ≠ .endOfInput) : c.lexed = (token :: after.lexed.1, after.lexed.2) := by
  rw [lexed]
  split <;> simp_all

theorem skipWhile_shift (p : Char → Bool) (c : Cursor) (k : Nat) :
    (c.shift k).skipWhile p = (c.skipWhile p).shift k := by
  simp only [skipWhile, shift, Cursor.mk.injEq, true_and]
  omega

theorem tokenAt_shift (c : Cursor) (k : Nat) (first : Char) :
    (c.shift k).tokenAt first = match c.tokenAt first with
      | .ok token after => .ok token (after.shift k)
      | .error fault after => .error fault (after.shift k) := by
  have next : c.position + k + 1 = c.position + 1 + k := by omega
  unfold tokenAt
  simp only [skipWhile_shift]
  cases Token.ofSymbol? first with
  | some token => simp only [shift, next]
  | none =>
    simp only [shift]
    split
    · split <;> rfl
    · split <;> rfl

/-- A reading from a later position reads the same and stops as much later. -/
theorem next_shift (c : Cursor) (k : Nat) :
    (c.shift k).next = match c.next with
      | .ok token after => .ok token (after.shift k)
      | .error fault after => .error fault (after.shift k) := by
  simp only [next, skipWhile_shift]
  cases same : (c.skipWhile isBlank).rest with
  | nil =>
    have shifted : ((c.skipWhile isBlank).shift k).rest = [] := same
    rw [shifted]
  | cons first text =>
    have shifted : ((c.skipWhile isBlank).shift k).rest = first :: text := same
    rw [shifted]
    exact tokenAt_shift _ k first

theorem lexed_shift (c : Cursor) (k : Nat) : (c.shift k).lexed = c.lexed := by
  have shifted := c.next_shift k
  cases read : c.next with
  | error fault after =>
    rw [read] at shifted
    rw [lexed_of_error shifted, lexed_of_error read]
  | ok token after =>
    rw [read] at shifted
    by_cases ended : token = .endOfInput
    · subst ended
      rw [lexed_of_end shifted, lexed_of_end read]
    · have later := lexed_shift after k
      rw [lexed_of_token shifted ended, lexed_of_token read ended, later]
termination_by c.rest.length
decreasing_by exact length_rest_of_next read ended

/-- Only the text matters to what is read. -/
theorem lexed_position (text : List Char) (n : Nat) : lexed ⟨text, n⟩ = lexed ⟨text, 0⟩ := by
  have shifted := lexed_shift ⟨text, 0⟩ n
  rwa [shift, Nat.zero_add] at shifted

theorem lexed_blank {b : Char} (blank : isBlank b = true) (text : List Char) (n : Nat) :
    lexed ⟨b :: text, n⟩ = lexed ⟨text, n⟩ := by
  have same := next_blank blank text n
  have later : lexed ⟨b :: text, n⟩ = lexed ⟨text, n + 1⟩ := by
    rw [lexed, lexed, same]
  rw [later, lexed_position, lexed_position text n]

/-- A text spells the tokens that are read to its end. -/
theorem spells_iff_lexed {tokens : List Token} :
    Spells c.rest tokens ↔ c.lexed = (tokens, none) := by
  induction tokens generalizing c with
  | nil =>
    rw [spells_nil_iff]
    constructor
    · rintro ⟨after, read⟩
      exact lexed_of_end read
    · intro all
      cases read : c.next with
      | error fault after =>
        rw [lexed_of_error read] at all
        cases all
      | ok token after =>
        by_cases ended : token = .endOfInput
        · exact ⟨after, by rw [ended]⟩
        · rw [lexed_of_token read ended] at all
          cases all
  | cons token tokens ih =>
    rw [spells_cons_iff]
    constructor
    · rintro ⟨more, after, read, rest⟩
      rw [lexed_of_token read more, ih.mp rest]
    · intro all
      cases read : c.next with
      | error fault after =>
        rw [lexed_of_error read] at all
        cases all
      | ok found after =>
        by_cases ended : found = .endOfInput
        · subst ended
          rw [lexed_of_end read] at all
          cases all
        · rw [lexed_of_token read ended] at all
          simp only [Prod.mk.injEq, List.cons.injEq] at all
          obtain ⟨⟨rfl, later⟩, clean⟩ := all
          exact ⟨ended, after, rfl, ih.mpr (Prod.ext later clean)⟩

/-- A number in front of a text that does not go on with digits or points is read on its own. -/
theorem lexed_number {run text : List Char} (literal : Number.IsLiteral run)
    (stops : Stops Number.isLiteralChar text) (n : Nat) :
    lexed ⟨run ++ text, n⟩ =
      (.number (Number.literalValue run) :: (lexed ⟨text, 0⟩).1, (lexed ⟨text, 0⟩).2) := by
  rw [lexed_of_token (next_literal literal stops n) nofun, lexed_position]

end Cursor
end DiceChat
