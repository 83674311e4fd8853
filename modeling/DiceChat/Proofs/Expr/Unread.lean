import DiceChat.Proofs.Expr.Calls
import DiceChat.Proofs.Expr.Programs

/-!
# Text that has not been read

A cursor stops in front of the character that ends what it has read, and has looked no further. So
whatever leaves some of a text unread would have come to the same with any other text in place of
what stands behind the first character that is left.

## Main results

* `Cursor.next_before`: a reading that leaves some text does not depend on what stands behind it.
* `Parser.parse_local`: the same for a whole parse.
* `fault_of_prefix`: a fault in the middle of a text is decided by the text up to it.

## Proof strategy

The text is cut in two, and the second part varies. A program is local if it does the same for all
second parts as long as it does not come through the first one. Since no program goes back in the
text, programs in a row are local when each of them is.
-/

namespace DiceChat

/-! ### Spans in front of more text -/

/-- A span that ends inside a text ends there whatever stands behind the text. -/
theorem span_of_left {p : Char → Bool} {text behind : List Char}
    (left : behind.length < ((text ++ behind).dropWhile p).length) :
    ∃ front first rest, ∀ other,
      (text ++ other).takeWhile p = front ∧
        (text ++ other).dropWhile p = first :: rest ++ other := by
  obtain ⟨front, rest, rfl, within, stops, -⟩ := exists_span p text
  cases rest with
  | nil =>
    -- The span would go through the whole text, and leave at most what stands behind it.
    rw [List.append_nil, List.dropWhile_append_of_pos within] at left
    have most := (List.dropWhile_sublist p (l := behind)).length_le
    omega
  | cons first rest =>
    refine ⟨front, first, rest, fun other => ?_⟩
    have stopsHere : Stops p (first :: rest ++ other) := stops_cons.mpr (stops_cons.mp stops)
    rw [List.append_assoc]
    exact ⟨takeWhile_append_stops within stopsHere, dropWhile_append_stops within stopsHere⟩

namespace Cursor

variable {c after : Cursor} {behind : List Char} {result : Except ParseError Token}

/-- The same place in a text that goes on behind its end. -/
def before (c : Cursor) (behind : List Char) : Cursor :=
  ⟨c.rest ++ behind, c.position⟩

/-- A span that leaves some text stops at the same place whatever stands behind that text. -/
theorem skipWhile_before {p : Char → Bool}
    (left : behind.length < ((c.before behind).skipWhile p).rest.length) :
    ∃ front first rest, ∀ other, (c.before other).rest.takeWhile p = front ∧
      (c.before other).skipWhile p =
        before ⟨first :: rest, c.position + front.length⟩ other := by
  obtain ⟨front, first, rest, spans⟩ := span_of_left left
  refine ⟨front, first, rest, fun other => ⟨(spans other).1, ?_⟩⟩
  simp only [skipWhile, before, spans other]

theorem tokenAt_before {first : Char} {rest : List Char} {n : Nat}
    (read : tokenAt (before ⟨first :: rest, n⟩ behind) first = reading after result)
    (left : behind.length < after.rest.length) :
    ∃ stop : Cursor, after = stop.before behind ∧
      ∀ other, tokenAt (before ⟨first :: rest, n⟩ other) first =
        reading (stop.before other) result := by
  cases symbol : Token.ofSymbol? first with
  | some token =>
    simp only [tokenAt, symbol] at read ⊢
    cases result <;> cases read
    exact ⟨⟨rest, n + 1⟩, rfl, fun other => rfl⟩
  | none =>
    cases literal : Number.isLiteralChar first with
    | true =>
      simp only [tokenAt, symbol, literal, if_true] at read ⊢
      -- A number or its fault: the cursor has come behind the span of digits and points.
      have there : after = (before ⟨first :: rest, n⟩ behind).skipWhile Number.isLiteralChar := by
        split at read <;> cases result <;> cases read <;> rfl
      subst there
      obtain ⟨front, stop, tail, spans⟩ := skipWhile_before left
      refine ⟨⟨stop :: tail, n + front.length⟩, (spans behind).2, fun other => ?_⟩
      rw [(spans behind).1, (spans behind).2] at read
      rw [(spans other).1, (spans other).2]
      cases found : Number.readLiteral front <;> simp only [found] at read ⊢ <;>
        cases result <;> cases read <;> rfl
    | false =>
      cases letter : isLetter first with
      | true =>
        simp only [tokenAt, symbol, literal, letter, Bool.false_eq_true, if_false, if_true]
          at read ⊢
        cases result <;> cases read
        obtain ⟨front, stop, tail, spans⟩ := skipWhile_before left
        refine ⟨⟨stop :: tail, n + front.length⟩, (spans behind).2, fun other => ?_⟩
        rw [(spans other).1, (spans other).2, (spans behind).1]
        rfl
      | false =>
        simp only [tokenAt, symbol, literal, letter, Bool.false_eq_true, if_false] at read ⊢
        cases result <;> cases read
        exact ⟨⟨first :: rest, n⟩, rfl, fun other => rfl⟩

/-- A reading that leaves some text is the same whatever stands behind that text. -/
theorem next_before (read : (c.before behind).next = reading after result)
    (left : behind.length < after.rest.length) :
    ∃ stop : Cursor, after = stop.before behind ∧
      ∀ other, (c.before other).next = reading (stop.before other) result := by
  have blanks : behind.length < ((c.before behind).skipWhile isBlank).rest.length := by
    obtain ⟨blanks, piece, rest, result', same, all, stops, -, read'⟩ :=
      (c.before behind).next_piece
    have there : after.rest = rest := by
      rw [read'] at read
      cases result <;> cases result' <;> cases read <;> rfl
    -- What is left behind the blanks is the piece and what is left behind that.
    have skipped : ((c.before behind).skipWhile isBlank).rest = piece ++ rest := by
      rw [skipWhile, same]
      exact dropWhile_append_stops all stops
    rw [skipped, List.length_append, ← there]
    omega
  obtain ⟨front, first, rest, spans⟩ := skipWhile_before blanks
  have tokens (other : List Char) : (c.before other).next =
      tokenAt (before ⟨first :: rest, c.position + front.length⟩ other) first := by
    rw [next, (spans other).2]
    rfl
  rw [tokens] at read
  obtain ⟨stop, same, others⟩ := tokenAt_before read left
  exact ⟨stop, same, fun other => (tokens other).trans (others other)⟩

end Cursor

namespace Parser

variable {α β : Type} {x : ParserM α} {f : α → ParserM β}

/-- The answer of a program and the state that it leaves. -/
def ran (x : ParserM α) (p : Parser) : Except ParseError α × Parser :=
  match x p with
  | .ok a q => (.ok a, q)
  | .error fault q => (.error fault, q)

/-- The same window on a text that goes on behind its end. -/
def before (p : Parser) (behind : List Char) : Parser :=
  ⟨p.cursor.before behind, p.current, p.peek⟩

/-- A program that goes forward in the text, and that does the same whatever stands behind a text
that it does not come through. -/
structure Local (x : ParserM α) : Prop where
  forward : ∀ p, (ran x p).2.cursor.rest.length ≤ p.cursor.rest.length
  settled : ∀ (p : Parser) (behind : List Char),
    behind.length < (ran x (p.before behind)).2.cursor.rest.length →
      ∃ answer stop, ∀ other, ran x (p.before other) = (answer, Parser.before stop other)

theorem ran_eq_error_iff {p q : Parser} {fault : ParseError} :
    ran x p = (.error fault, q) ↔ x p = .error fault q := by
  rw [ran]
  cases x p <;> simp

theorem ran_bind (x : ParserM α) (f : α → ParserM β) (p : Parser) :
    ran (x >>= f) p = match ran x p with
      | (.ok a, q) => ran (f a) q
      | (.error fault, q) => (.error fault, q) := by
  have bound : (x >>= f) p = EStateM.bind x f p := rfl
  simp only [ran, bound, EStateM.bind]
  cases x p <;> rfl

theorem Local.bind (first : Local x) (behind : ∀ a, Local (f a)) : Local (x >>= f) := by
  -- What the second program leaves, the first one has left as well.
  have later (p : Parser) :
      (ran (x >>= f) p).2.cursor.rest.length ≤ (ran x p).2.cursor.rest.length := by
    rw [ran_bind]
    cases ran x p with
    | mk answer q =>
      cases answer with
      | error fault => exact Nat.le_refl _
      | ok a => exact (behind a).forward q
  constructor
  case forward => exact fun p => Nat.le_trans (later p) (first.forward p)
  case settled =>
    intro p text left
    obtain ⟨answer, stop, same⟩ := first.settled p text (Nat.lt_of_lt_of_le left (later _))
    simp only [ran_bind, same] at left ⊢
    cases answer with
    | error fault => exact ⟨_, stop, fun _ => rfl⟩
    | ok a => exact (behind a).settled stop text left

theorem local_pure (a : α) : Local (pure a : ParserM α) :=
  ⟨fun _ => Nat.le_refl _, fun p _ _ => ⟨_, p, fun _ => rfl⟩⟩

theorem local_throw (fault : ParseError) : Local (throw fault : ParserM α) :=
  ⟨fun _ => Nat.le_refl _, fun p _ _ => ⟨_, p, fun _ => rfl⟩⟩

/-- Looking at the window shows nothing of the text behind the cursor. -/
theorem local_look {look : Parser → ParserM α} (each : ∀ p, Local (look p))
    (blind : ∀ p behind, look (before p behind) = look p) : Local (get >>= look) := by
  constructor
  case forward => exact fun p => (each p).forward p
  case settled =>
    intro p text left
    have seen (other : List Char) : ran (get >>= look) (p.before other) =
        ran (look p) (p.before other) := by
      rw [← blind p other]
      rfl
    rw [seen] at left
    obtain ⟨answer, stop, same⟩ := (each p).settled p text left
    exact ⟨answer, stop, fun other => (seen other).trans (same other)⟩

theorem ran_advance_of_token {p : Parser} {token : Token} {after : Cursor}
    (read : p.cursor.next = .ok token after) :
    ran advance p = (.ok (), ⟨after, p.peek, token⟩) := by
  rw [ran, advance, read]

theorem ran_advance_of_fault {p : Parser} {fault : ParseError} {after : Cursor}
    (read : p.cursor.next = .error fault after) :
    ran advance p = (.error fault, ⟨after, p.peek, p.peek⟩) := by
  rw [ran, advance, read]

theorem local_advance : Local advance := by
  constructor
  case forward =>
    intro p
    cases read : p.cursor.next with
    | ok token after =>
      rw [ran_advance_of_token read]
      exact (Cursor.rest_suffix_of_token read).length_le
    | error fault after =>
      rw [ran_advance_of_fault read]
      exact (@Cursor.rest_suffix_of_next p.cursor after (.error fault) read).length_le
  case settled =>
    intro p text left
    cases read : (p.before text).cursor.next with
    | ok token after =>
      rw [ran_advance_of_token read] at left
      obtain ⟨stop, -, same⟩ := @Cursor.next_before p.cursor after text (.ok token) read left
      exact ⟨.ok (), ⟨stop, p.peek, token⟩, fun other => ran_advance_of_token (same other)⟩
    | error fault after =>
      rw [ran_advance_of_fault read] at left
      obtain ⟨stop, -, same⟩ := @Cursor.next_before p.cursor after text (.error fault) read left
      exact ⟨.error fault, ⟨stop, p.peek, p.peek⟩, fun other => ran_advance_of_fault (same other)⟩

theorem local_compositional : Compositional Local where
  pure := local_pure
  throw := local_throw
  advance := local_advance
  bind := Local.bind
  look each same := local_look each fun p _ => same _ p rfl rfl

theorem whole_local : Local whole :=
  local_compositional.whole

/-- Locating a fault asks for the position only, which a parse in the middle of a text shares with
all texts that go on differently. -/
theorem parse_local : Local parse := by
  have located (p : Parser) : ran parse p = match ran whole p with
      | (.ok e, q) => (.ok e, q)
      | (.error fault, q) => (.error (fault.atPosition q.cursor.position), q) := by
    rw [ran, parse, ran]
    cases whole p <;> rfl
  have state (p : Parser) : (ran parse p).2 = (ran whole p).2 := by
    rw [located]
    cases ran whole p with
    | mk answer q => cases answer <;> rfl
  constructor
  case forward =>
    intro p
    rw [state]
    exact whole_local.forward p
  case settled =>
    intro p text left
    rw [state] at left
    obtain ⟨answer, stop, same⟩ := whole_local.settled p text left
    simp only [located, same]
    cases answer with
    | error fault => exact ⟨.error (fault.atPosition stop.cursor.position), stop, fun _ => rfl⟩
    | ok e => exact ⟨.ok e, stop, fun _ => rfl⟩

/-! ### Texts -/

/-- A parser that is put on a text and does not see its end is put in the same way on texts that go
on differently. -/
theorem ofText_before {front behind : List Char} {text : String} {p : Parser}
    (same : text.toList = front ++ behind) (started : ofText text = .ok p)
    (left : behind.length < p.cursor.rest.length) :
    ∃ start : Parser, p = start.before behind ∧
      ∀ (other : String) (later : List Char), other.toList = front ++ later →
        ofText other = .ok (start.before later) := by
  obtain ⟨between, read, more, ahead⟩ := ofText_eq_ok_iff.mp started
  have cursor (other : String) (later : List Char) (same : other.toList = front ++ later) :
      Cursor.ofText other = Cursor.before ⟨front, 0⟩ later := by
    rw [Cursor.ofText, same]
    rfl
  rw [cursor text behind same] at read
  have early : behind.length < between.rest.length :=
    Nat.lt_of_lt_of_le left (Cursor.rest_suffix_of_token ahead).length_le
  obtain ⟨stop, rfl, first⟩ :=
    @Cursor.next_before ⟨front, 0⟩ between behind (.ok p.current) read early
  obtain ⟨stop', after, second⟩ :=
    @Cursor.next_before stop p.cursor behind (.ok p.peek) ahead left
  refine ⟨⟨stop', p.current, p.peek⟩, ?_, fun other later same' => ?_⟩
  · rw [before, ← after]
  · refine ofText_eq_ok_iff.mpr ⟨stop.before later, ?_, more, second later⟩
    rw [cursor other later same']
    exact first later

theorem ofText_ne_located {text : String} {n : Nat} {kind : ParseError} :
    ofText text ≠ .error (.located n kind) := by
  intro failed
  rcases ofText_fails failed with ⟨after, refused⟩ | ⟨empty, -⟩ | ⟨_, _, after, -, refused⟩
  · exact absurd rfl (not_located_of_next refused n kind)
  · cases empty
  · exact absurd rfl (not_located_of_next refused n kind)

end Parser

/-- A fault in the middle of a text is the fault of every text that agrees with it up to the
character where the fault is located, and with that one. -/
theorem fault_of_prefix {text other : String} {n : Nat} {kind : ParseError}
    (failed : Expr.parse text = .error (.located n kind)) (inside : n < text.toList.length)
    (agree : other.toList.take (n + 1) = text.toList.take (n + 1)) :
    Expr.parse other = .error (.located n kind) := by
  rcases Expr.parse_eq_error_iff.mp failed with unstarted | ⟨p, q, started, failing⟩
  · exact absurd unstarted Parser.ofText_ne_located
  · have cut (t : String) : t.toList = t.toList.take (n + 1) ++ t.toList.drop (n + 1) :=
      (List.take_append_drop _ _).symm
    -- The cursor has come to the fault, and at least the character there is left.
    have left : (text.toList.drop (n + 1)).length < q.cursor.rest.length := by
      obtain ⟨found, -, located⟩ := Parser.parse_eq_error failing
      cases located
      have stands := (Parser.stands_ofText started).called.1.cursor
      rw [Parser.called_of_error failing] at stands
      rw [stands.rest, List.length_drop, List.length_drop]
      omega
    have run := Parser.ran_eq_error_iff.mpr failing
    have early := Parser.parse_local.forward p
    rw [run] at early
    obtain ⟨start, rfl, others⟩ :=
      Parser.ofText_before (cut text) started (Nat.lt_of_lt_of_le left early)
    obtain ⟨answer, stop, same⟩ := Parser.parse_local.settled start _ (by rwa [run])
    obtain ⟨rfl, -⟩ := Prod.mk.inj (run.symm.trans (same _))
    -- The other text goes on differently behind the same characters.
    have restarted := others other (other.toList.drop (n + 1)) (agree ▸ cut other)
    exact Expr.parse_eq_error_iff.mpr
      (.inr ⟨_, _, restarted, Parser.ran_eq_error_iff.mp (same _)⟩)

/-- The number in front of the fault is over where the fault is located, so nothing behind the
blank there matters. -/
theorem fault_of_prefix_number :
    Expr.parse "(1 2.5 + x" = .error (.located 6 .unclosedParenthesis) ∧
      Expr.parse "(1 2.5 ) é" = .error (.located 6 .unclosedParenthesis) := by
  have failed : Expr.parse "(1 2.5 + x" = .error (.located 6 .unclosedParenthesis) := by
    decide +kernel
  exact ⟨failed, fault_of_prefix failed (by decide) (by decide)⟩

end DiceChat
