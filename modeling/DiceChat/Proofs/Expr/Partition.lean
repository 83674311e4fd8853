import DiceChat.Proofs.Expr.Calls

/-!
# The spans that readings take

A reading takes the blanks in front of it and a piece of the text, and nothing else, so readings
that follow each other cut the text up without a gap. Each of them goes forward unless it is at the
end of the text or in front of a character that begins no token, and there the text is left as it
is. So reading again and again comes to one of the two.

## Main results

* `Cursor.StandsIn.covers`: the span of a single reading.
* `Cursor.covered`: the spans of a run are the text that it has read.
* `Cursor.exists_halt`: a run comes to its halt within as many readings as there are characters.
* `Cursor.readings_partition`: all of it, from every position of every text.
-/

namespace DiceChat

/-- What a reading takes: the blanks in front of it, and the piece that stands for its answer. -/
structure Span where
  blanks : List Char
  piece : List Char
deriving DecidableEq, Repr

def Span.text (span : Span) : List Char :=
  span.blanks ++ span.piece

namespace Cursor

variable {text : List Char} {c : Cursor} {result : Except ParseError Token}

/-! ### Reading again and again -/

def answer (c : Cursor) : Except ParseError Token :=
  match c.next with
  | .ok token _ => .ok token
  | .error fault _ => .error fault

/-- The cursor that a reading leaves, whatever it has answered. -/
def onward (c : Cursor) : Cursor :=
  match c.next with
  | .ok _ after => after
  | .error _ after => after

/-- The cursor after a number of readings. -/
def after (c : Cursor) (count : Nat) : Cursor :=
  onward^[count] c

theorem next_eq_reading (c : Cursor) : c.next = reading c.onward c.answer := by
  rw [onward, Cursor.answer]
  cases c.next <;> rfl

theorem after_succ (c : Cursor) (count : Nat) : c.after (count + 1) = (c.after count).onward :=
  Function.iterate_succ_apply' onward count c

theorem after_onward (c : Cursor) (count : Nat) : c.after (count + 1) = c.onward.after count :=
  Function.iterate_succ_apply onward count c

/-! ### A single reading -/

/-- From `start` to `stop`, the text is the span of a reading that answers `result`. -/
structure Covers (text : List Char) (start : Nat) (span : Span) (stop : Nat)
    (result : Except ParseError Token) : Prop where
  forward : start ≤ stop
  within : stop ≤ text.length
  passed : (text.drop start).take (stop - start) = span.text
  blanks : ∀ b ∈ span.blanks, isBlank b = true
  /-- No more blanks could have been skipped. -/
  maximal : Stops isBlank (span.piece ++ text.drop stop)
  /-- The piece is the text of the token or of what was refused, and a number or a word does not go
  on behind it. -/
  piece : Piece span.piece (text.drop stop) result
  number : ∀ value, result = .ok (.number value) → Number.readLiteral span.piece = .ok value
  malformed : ∀ fault, result = .error (.number fault) →
    Number.readLiteral span.piece = .error fault
  ended : result = .ok .endOfInput →
    stop = text.length ∧ ∀ b ∈ text.drop start, isBlank b = true
  stray : ∀ d, result = .error (.token d) → text[stop]? = some d
  progress : start < stop ∨ result = .ok .endOfInput ∧ stop = text.length ∨
    ∃ d, result = .error (.token d)

/-- A number is what its piece is read as. -/
theorem readLiteral_of_piece {piece rest : List Char} {value : Float}
    (taken : Piece piece rest (.ok (.number value))) : Number.readLiteral piece = .ok value := by
  cases taken with
  | symbol written => cases written
  | number literal => exact (Number.readLiteral_eq_ok_iff literal.chars).mpr ⟨literal, rfl⟩

theorem readLiteral_of_malformed {piece rest : List Char} {fault : Number.LiteralFault}
    (taken : Piece piece rest (.error (.number fault))) :
    Number.readLiteral piece = .error fault := by
  cases taken with
  | malformed filled chars refused =>
    have digits : ∀ d ∈ piece, d.isDigit = true ∨ d = '.' :=
      fun d member => isLiteralChar_iff.mp (chars d member)
    cases read : Number.readLiteral piece with
    | ok value => exact absurd ((Number.readLiteral_eq_ok_iff digits).mp read).1 refused
    | error found => rw [Number.readLiteral_eq_error filled read]

/-- Only the end of the text and a character that begins no token are not taken. -/
theorem piece_ne_nil {piece rest : List Char} (taken : Piece piece rest result) :
    piece ≠ [] ∨ result = .ok .endOfInput ∨ ∃ d, result = .error (.token d) := by
  cases taken with
  | ended => exact .inr (.inl rfl)
  | stray => exact .inr (.inr ⟨_, rfl⟩)
  | symbol | word => exact .inl (List.cons_ne_nil _ _)
  | malformed filled => exact .inl filled
  | number literal =>
    obtain ⟨d, member, -⟩ := literal.digits
    exact .inl (List.ne_nil_of_mem member)

theorem rest_of_piece_end {piece rest : List Char}
    (taken : Piece piece rest (.ok .endOfInput)) : piece = [] ∧ rest = [] := by
  cases taken with
  | ended => exact ⟨rfl, rfl⟩
  | symbol written => cases written

theorem head_of_piece_stray {piece rest : List Char} {d : Char}
    (taken : Piece piece rest (.error (.token d))) : rest.head? = some d := by
  cases taken with
  | stray => rfl

/-- A reading covers the text from where the cursor stands to where it leaves it. -/
theorem StandsIn.covers (stands : c.StandsIn text) :
    StandsIn text c.onward ∧ ∃ span, Covers text c.position span c.onward.position c.answer := by
  have read := c.next_eq_reading
  obtain ⟨there, forward⟩ := stands.next read
  obtain ⟨blanks, piece, rest, result, same, all, maximal, taken, read'⟩ := c.next_piece
  obtain ⟨position, rfl, rfl⟩ : c.onward.position = c.position + (blanks.length + piece.length) ∧
      c.onward.rest = rest ∧ c.answer = result := by
    simp only [onward, Cursor.answer, read']
    cases result <;> exact ⟨rfl, rfl, rfl⟩
  have whole : text.drop c.position = blanks ++ (piece ++ c.onward.rest) := stands.rest ▸ same
  have behind := there.rest
  refine ⟨there, ⟨blanks, piece⟩, ?_⟩
  constructor
  case forward => exact forward
  case within => exact there.within
  case passed =>
    have size : (blanks ++ piece).length = c.onward.position - c.position := by
      simp only [List.length_append, position]
      omega
    rw [whole, ← List.append_assoc, ← size, List.take_left, Span.text]
  case blanks => exact all
  case maximal => exact behind ▸ maximal
  case piece => exact behind ▸ taken
  case number => exact fun value answered => readLiteral_of_piece (answered ▸ taken)
  case malformed => exact fun fault answered => readLiteral_of_malformed (answered ▸ taken)
  case ended =>
    intro answered
    obtain ⟨rfl, ended⟩ := rest_of_piece_end (answered ▸ taken)
    refine ⟨there.position_of_end ended, ?_⟩
    simpa only [whole, ended, List.append_nil] using all
  case stray =>
    intro d answered
    have head := head_of_piece_stray (answered ▸ taken)
    rwa [behind, List.head?_drop] at head
  case progress =>
    rcases piece_ne_nil taken with filled | ended | stray
    · have positive := List.length_pos_iff.mpr filled
      exact .inl (by omega)
    · obtain ⟨-, none⟩ := rest_of_piece_end (ended ▸ taken)
      exact .inr (.inl ⟨ended, there.position_of_end none⟩)
    · exact .inr (.inr stray)

/-! ### Runs -/

theorem StandsIn.after (stands : c.StandsIn text) (count : Nat) : (c.after count).StandsIn text := by
  induction count with
  | zero => exact stands
  | succ count ih =>
    rw [after_succ]
    exact ih.covers.1

theorem StandsIn.covers_after (stands : c.StandsIn text) (i : Nat) :
    ∃ span, Covers text (c.after i).position span (c.after (i + 1)).position (c.after i).answer := by
  rw [after_succ]
  exact (stands.after i).covers.2

/-- The spans of a run, one behind the other, are the text that it has read. -/
theorem covered {spans : Nat → Span}
    (covers : ∀ i, Covers text (c.after i).position (spans i) (c.after (i + 1)).position
      (c.after i).answer) (count : Nat) :
    c.position ≤ (c.after count).position ∧
      (List.range count).flatMap (fun i => (spans i).text) =
        (text.drop c.position).take ((c.after count).position - c.position) := by
  induction count with
  | zero =>
    have here : c.after 0 = c := rfl
    simp [here]
  | succ count ih =>
    obtain ⟨forward, read⟩ := ih
    have next := covers count
    have further := next.forward
    -- What the last reading passes stands behind what was read before it.
    have size : (c.after (count + 1)).position - c.position =
        ((c.after count).position - c.position) +
          ((c.after (count + 1)).position - (c.after count).position) := by omega
    have place : c.position + ((c.after count).position - c.position) =
        (c.after count).position := by omega
    refine ⟨Nat.le_trans forward further, ?_⟩
    rw [List.range_succ, List.flatMap_append, read, size, List.take_add, List.drop_drop, place,
      next.passed]
    simp

/-- A run does not get beyond the end of the text and a character that begins no token. -/
def Halts (result : Except ParseError Token) : Prop :=
  result = .ok .endOfInput ∨ ∃ d, result = .error (.token d)

/-- Every reading before the halt takes a character at least. -/
theorem exists_halt (stands : c.StandsIn text) :
    ∃ count ≤ text.length - c.position, Halts (c.after count).answer ∧
      ∀ i < count, ¬Halts (c.after i).answer := by
  -- Induction on the characters that are left.
  induction left : text.length - c.position using Nat.strong_induction_on generalizing c with
  | _ left ih =>
    by_cases halts : Halts c.answer
    · exact ⟨0, Nat.zero_le _, halts, fun i before => absurd before (Nat.not_lt_zero i)⟩
    · obtain ⟨there, span, covers⟩ := stands.covers
      have forward : c.position < c.onward.position := by
        rcases covers.progress with forward | ⟨ended, -⟩ | stray
        · exact forward
        · exact absurd (.inl ended) halts
        · exact absurd (.inr stray) halts
      have within := covers.within
      obtain ⟨count, few, halt, first⟩ := ih _ (by omega) there rfl
      refine ⟨count + 1, by omega, by rwa [after_onward], fun i before => ?_⟩
      cases i with
      | zero => exact halts
      | succ i =>
        rw [after_onward]
        exact first i (Nat.lt_of_succ_lt_succ before)

/-- From every position of a text, each reading covers the text up to where it leaves the cursor,
the spans of successive readings are the text that is read, and the run comes to its halt with at
most one reading more than there are characters left. -/
theorem readings_partition {text : List Char} {start : Nat} (inside : start ≤ text.length) :
    let c : Cursor := ⟨text.drop start, start⟩
    (∃ spans : Nat → Span,
      (∀ i, (c.after i).next = reading (c.after (i + 1)) (c.after i).answer ∧
        Covers text (c.after i).position (spans i) (c.after (i + 1)).position
          (c.after i).answer) ∧
      ∀ count, (List.range count).flatMap (fun i => (spans i).text) =
        (text.drop start).take ((c.after count).position - start)) ∧
    ∃ count ≤ text.length - start, Halts (c.after count).answer ∧
      ∀ i < count, ¬Halts (c.after i).answer := by
  intro c
  have stands : c.StandsIn text := ⟨inside, rfl⟩
  obtain ⟨spans, covers⟩ := Classical.skolem.mp stands.covers_after
  refine ⟨⟨spans, fun i => ⟨?_, covers i⟩, fun count => (covered covers count).2⟩, exists_halt stands⟩
  rw [after_succ]
  exact (c.after i).next_eq_reading

/-- A number that is refused, a number, a word and the character where the run halts. -/
theorem readings_partition_euro :
    let text := "2d1.2.3 +.5\té2*€".toList
    let c : Cursor := ⟨text.drop 2, 2⟩
    2 ≤ text.length ∧ (∃ spans : Nat → Span,
      (∀ i, (c.after i).next = reading (c.after (i + 1)) (c.after i).answer ∧
        Covers text (c.after i).position (spans i) (c.after (i + 1)).position
          (c.after i).answer) ∧
      ∀ count, (List.range count).flatMap (fun i => (spans i).text) =
        (text.drop 2).take ((c.after count).position - 2)) ∧
    (∃ count ≤ text.length - 2, Halts (c.after count).answer ∧
      ∀ i < count, ¬Halts (c.after i).answer) ∧
    (List.range 6).map (fun i => (c.after i).answer) =
      [.error (.number .invalid), .ok .plus, .ok (.number 0.5), .error (.identifier "é2"),
        .ok .times, .error (.token '€')] := by
  intro text c
  have inside : 2 ≤ text.length := by decide
  obtain ⟨spans, halts⟩ := readings_partition inside
  exact ⟨inside, spans, halts, by decide +kernel⟩

end Cursor
end DiceChat
