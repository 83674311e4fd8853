import DiceChat.Proofs.Expr.Calls

/-!
# The tokens that a call takes

A fault of the cursor comes when the window has moved half: the token ahead has become the current
one and is the token ahead still. A call that starts from such a window takes that token twice, and
every other call takes tokens of the text one after the other.

## Main results

* `Parser.coming_of_reads`: what is passed is what was still to come.
* `Parser.coming_suffix`: after any number of calls, an end of the text is still to come.
* `Parser.taken_in_order`: the tokens that a successful call takes, in the order of the text unless
  the call before was interrupted by a fault of the cursor.
* `Parser.takes_twice`: a call that takes a token twice.
-/

namespace DiceChat

instance decidableEqResult {ε σ α : Type} [DecidableEq ε] [DecidableEq σ] [DecidableEq α] :
    DecidableEq (EStateM.Result ε σ α)
  | .ok a s, .ok b t => decidable_of_iff (a = b ∧ s = t) (by simp)
  | .error a s, .error b t => decidable_of_iff (a = b ∧ s = t) (by simp)
  | .ok _ _, .error _ _ => isFalse nofun
  | .error _ _, .ok _ _ => isFalse nofun

/-! ### All tokens of a text -/

namespace Cursor

variable {c after : Cursor} {fault : ParseError}

/-- Behind what could not be read. A malformed number and a word are behind the cursor already. -/
def past (c : Cursor) : ParseError → Cursor
  | .token _ => ⟨c.rest.tail, c.position + 1⟩
  | _ => c

theorem length_rest_past (read : c.next = .error fault after) :
    (after.past fault).rest.length < c.rest.length := by
  obtain ⟨blanks, piece, rest, result, same, -, -, taken, read'⟩ := c.next_piece
  rw [read'] at read
  rw [same]
  simp only [List.length_append]
  cases taken with
  | malformed filled =>
    cases read
    have positive := List.length_pos_iff.mpr filled
    simp only [past]
    omega
  | word =>
    cases read
    simp only [past, List.length_cons]
    omega
  | stray =>
    cases read
    simp only [past, List.tail_cons, List.length_nil, List.length_cons]
    omega
  | ended | symbol | number => cases read

/-- The tokens of a text in order. What is no token is passed over. -/
def tokens (c : Cursor) : List Token :=
  match _ : c.next with
  | .error fault after => tokens (after.past fault)
  | .ok token after => if _ : token = .endOfInput then [] else token :: tokens after
termination_by c.rest.length
decreasing_by
  · exact length_rest_past ‹_›
  · exact length_rest_of_next ‹_› ‹_›

theorem tokens_of_error (read : c.next = .error fault after) :
    c.tokens = (after.past fault).tokens := by
  rw [tokens]
  split <;> simp_all

theorem tokens_of_end (read : c.next = .ok .endOfInput after) : c.tokens = [] := by
  rw [tokens]
  split <;> simp_all

theorem tokens_of_token {token : Token} (read : c.next = .ok token after)
    (more : token ≠ .endOfInput) : c.tokens = token :: after.tokens := by
  rw [tokens]
  split <;> simp_all

/-- A fault takes no token away, whether or not the cursor has come past it. -/
theorem tokens_of_fault (read : c.next = .error fault after) : c.tokens = after.tokens := by
  have here := tokens_of_error read
  cases fault with
  | token x => rw [here, tokens_of_error (next_of_token read)]
  | _ => exact here

end Cursor

namespace Parser

variable {text : String} {p q r : Parser} {e : Expr} {fault : ParseError}

/-! ### What is still to come -/

/-- The tokens behind the current one. -/
def coming (p : Parser) : List Token :=
  if p.peek = .endOfInput then [] else p.peek :: p.cursor.tokens

theorem coming_of_end (ended : p.peek = .endOfInput) : p.coming = [] :=
  if_pos ended

theorem coming_of_more (more : p.peek ≠ .endOfInput) : p.coming = p.peek :: p.cursor.tokens :=
  if_neg more

theorem coming_of_next {token : Token} {c after : Cursor} {current : Token}
    (read : c.next = .ok token after) : (⟨after, current, token⟩ : Parser).coming = c.tokens := by
  by_cases ended : token = .endOfInput
  · subst ended
    rw [Cursor.tokens_of_end read, coming_of_end rfl]
  · rw [Cursor.tokens_of_token read ended, coming_of_more ended]

theorem coming_of_advance (moved : advance p = .ok () q) (more : q.current ≠ .endOfInput) :
    p.coming = q.current :: q.coming := by
  obtain ⟨token, after, read, rfl⟩ := advance_eq_ok_iff.mp moved
  rw [coming_of_more more, coming_of_next read]

theorem coming_of_reads {tokens : List Token} (reads : Reads p tokens q)
    (more : .endOfInput ∉ tokens) : p.coming = tokens ++ q.coming := by
  induction tokens generalizing p with
  | nil =>
    obtain rfl := reads
    rfl
  | cons t tokens ih =>
    obtain ⟨m, moved, rfl, reads⟩ := reads
    rw [List.mem_cons, not_or] at more
    rw [coming_of_advance moved (Ne.symm more.1), ih reads more.2, List.cons_append]

/-- The current token stands in front of what is still to come, as in the text. -/
def InOrder (text : String) (p : Parser) : Prop :=
  p.current :: p.coming <:+ (Cursor.ofText text).tokens

theorem inOrder_ofText (started : ofText text = .ok p) : p.InOrder text := by
  obtain ⟨between, read, more, ahead⟩ := ofText_eq_ok_iff.mp started
  have all : (Cursor.ofText text).tokens = p.current :: p.coming :=
    (Cursor.tokens_of_token read more).trans (congrArg _ (coming_of_next ahead).symm)
  exact ⟨[], all.symm⟩

theorem coming_suffix_of_advance (stands : p.Stands text.toList) (moved : advance p = .ok () q) :
    q.coming <:+ p.coming := by
  have current := current_of_advance moved
  by_cases ended : p.peek = .endOfInput
  · -- Behind the end comes the end again.
    obtain ⟨token, after, read, rfl⟩ := advance_eq_ok_iff.mp moved
    rw [Cursor.next_of_rest_nil (stands.ended ended)] at read
    cases read
    rw [coming_of_end rfl]
    exact List.nil_suffix
  · rw [← current] at ended
    rw [coming_of_advance moved ended]
    exact List.suffix_cons _ _

theorem coming_suffix_of_reaches (stands : p.Stands text.toList) (reaches : Reaches p q) :
    q.coming <:+ p.coming := by
  have kept : q.Stands text.toList ∧ q.coming <:+ p.coming := by
    refine reaches.keeps ⟨stands, List.suffix_refl _⟩ ?_
    rintro m r ⟨there, suffix⟩ moved
    exact ⟨(there.advance moved).1, (coming_suffix_of_advance there moved).trans suffix⟩
  exact kept.2

/-- Where a parser comes by advancing, its window is in order again. -/
theorem window_of_reaches (stands : p.Stands text.toList) (reaches : Reaches p q) :
    q = p ∨ q.current = .endOfInput ∨ q.current :: q.coming <:+ p.coming := by
  obtain ⟨tokens, reads⟩ := reaches
  rcases List.eq_nil_or_concat tokens with rfl | ⟨others, t, rfl⟩
  · exact .inl reads
  · -- The last advance has brought the current token and what is behind it.
    rw [List.concat_eq_append] at reads
    obtain ⟨m, before, last⟩ := reads_append.mp reads
    obtain ⟨moved, -⟩ := reads_singleton.mp last
    by_cases ended : q.current = .endOfInput
    · exact .inr (.inl ended)
    · rw [← coming_of_advance moved ended]
      exact .inr (.inr (coming_suffix_of_reaches stands ⟨others, before⟩))

/-! ### Calls -/

/-- The token ahead stays ahead, and so does all that is behind it. -/
theorem coming_of_unread {after : Cursor} (more : p.peek ≠ .endOfInput)
    (read : p.cursor.next = .error fault after) :
    (⟨after, p.peek, p.peek⟩ : Parser).coming = p.coming := by
  have doubled : (⟨after, p.peek, p.peek⟩ : Parser).peek ≠ .endOfInput := more
  rw [coming_of_more doubled, coming_of_more more, Cursor.tokens_of_fault read]

theorem coming_suffix_of_called (stands : p.Stands text.toList) : p.called.coming <:+ p.coming := by
  rcases reaches_called p with reaches | ⟨fault, r, after, reaches, read, same⟩
  · exact coming_suffix_of_reaches stands reaches
  · rw [same, coming_of_unread ((stands.reaches reaches).1.more read) read]
    exact coming_suffix_of_reaches stands reaches

/-- Whatever the calls have come to, an end of the text is still to come. -/
theorem coming_suffix (started : ofText text = .ok p) (i : Nat) :
    (p.after i).coming <:+ (Cursor.ofText text).tokens := by
  induction i with
  | zero => exact (List.suffix_cons _ _).trans (inOrder_ofText started)
  | succ i ih =>
    rw [after_succ]
    exact (coming_suffix_of_called ((stands_ofText started).after i)).trans ih

/-- The call before call `i` came to a fault of the cursor. -/
def Interrupted (p : Parser) (i : Nat) : Prop :=
  ∃ j position fault q, i = j + 1 ∧ (p.after j).parse = .error (.located position fault) q ∧
    fault.Lexical

theorem Interrupted.window {i : Nat} (interrupted : p.Interrupted i)
    (stands : p.Stands text.toList) :
    (p.after i).peek = (p.after i).current ∧ (p.after i).peek ≠ .endOfInput := by
  obtain ⟨j, position, fault, q, rfl, failed, lexical⟩ := interrupted
  obtain ⟨kind, fails, located⟩ := parse_eq_error failed
  cases located
  rw [after_succ, called_of_error failed]
  rcases fails.left with ⟨-, r, after, reaches, read, rfl⟩ | ⟨calm, -⟩
  · exact ⟨rfl, ((stands.after j).reaches reaches).1.more read⟩
  · exact absurd lexical calm

theorem reaches_after_succ {i : Nat} (calm : ¬p.Interrupted (i + 1)) :
    Reaches (p.after i) (p.after (i + 1)) := by
  rw [after_succ]
  cases parsed : (p.after i).parse with
  | ok e q =>
    rw [called_of_ok parsed]
    exact reaches_of_parse parsed
  | error fault q =>
    obtain ⟨kind, fails, rfl⟩ := parse_eq_error parsed
    rw [called_of_error parsed]
    rcases fails.left with ⟨lexical, -⟩ | ⟨-, reaches⟩
    · exact absurd ⟨i, _, kind, q, rfl, parsed, lexical⟩ calm
    · exact reaches

theorem current_more_of_parse (parsed : p.parse = .ok e q) : p.current ≠ .endOfInput := by
  obtain ⟨sum, ⟨ahead, written, -⟩, -⟩ :=
    whole_eq_ok_iff_derivation.mp (parse_eq_ok_iff_whole.mp parsed)
  intro ended
  have absent := sum.endOfInput_not_mem
  rw [written, ended] at absent
  exact absent List.mem_cons_self

/-- A call that succeeds without an interruption before it has started in order. -/
theorem inOrder_of_parse (started : ofText text = .ok p) {i : Nat}
    (parsed : (p.after i).parse = .ok e q) (calm : ¬p.Interrupted i) :
    (p.after i).InOrder text := by
  have stands := stands_ofText started
  induction i with
  | zero => exact inOrder_ofText started
  | succ i ih =>
    rcases window_of_reaches (stands.after i) (reaches_after_succ calm) with same | ended | behind
    · -- The call before has changed nothing, so it has succeeded as well, in front of the end.
      rw [same] at parsed ⊢
      refine ih parsed ?_
      intro interrupted
      have settled : q = p.after i := by rw [← called_of_ok parsed, ← after_succ, same]
      have ended := (whole_eq_ok_iff.mp (parse_eq_ok_iff_whole.mp parsed)).2
      rw [settled] at ended
      exact (interrupted.window stands).2 ended
    · exact absurd ended (current_more_of_parse parsed)
    · exact behind.trans (coming_suffix started i)

/-- The tokens that a successful call takes are an end of the text. Only if a fault of the cursor
came right before it, the first one of them is taken twice. -/
theorem taken_in_order (started : ofText text = .ok p) {i : Nat}
    (parsed : (p.after i).parse = .ok e q) :
    ∃ first rest, Spans (p.after i) (first :: rest) q ∧
      (∃ sum : Grammar.Sum, sum.tokens = first :: rest ∧ sum.tree = e) ∧
      rest <:+ (Cursor.ofText text).tokens ∧
      (¬p.Interrupted i → first :: rest <:+ (Cursor.ofText text).tokens) ∧
      (p.Interrupted i → ∃ others, rest = first :: others) := by
  obtain ⟨sum, ⟨ahead, written, reads⟩, ended, -, tree⟩ :=
    whole_eq_ok_iff_derivation.mp (parse_eq_ok_iff_whole.mp parsed)
  have absent := sum.endOfInput_not_mem
  rw [written, List.mem_cons, not_or] at absent
  -- The call goes to the end, so it takes all that is still to come.
  have all : (p.after i).coming = ahead := by
    rw [coming_of_reads reads absent.2, coming_of_end ended, List.append_nil]
  refine ⟨(p.after i).current, ahead, ⟨ahead, rfl, reads⟩, ⟨sum, written, tree⟩, ?_, ?_, ?_⟩
  · rw [← all]
    exact coming_suffix started i
  · intro calm
    rw [← all]
    exact inOrder_of_parse started parsed calm
  · intro interrupted
    obtain ⟨twice, more⟩ := interrupted.window (stands_ofText started)
    rw [coming_of_more more, twice] at all
    exact ⟨_, all.symm⟩

/-- Behind an unclosed parenthesis, the next call takes the last number of the text once. -/
theorem taken_in_order_unclosed :
    let p : Parser := ⟨⟨" + 2".toList, 2⟩, .leftParenthesis, .number 1⟩
    let q : Parser := ⟨⟨[], 6⟩, .number 2, .endOfInput⟩
    ofText "(1 + 2" = .ok p ∧ (p.after 1).parse = .ok (.literal 2) q ∧
      ∃ first rest, Spans (p.after 1) (first :: rest) q ∧
        (∃ sum : Grammar.Sum, sum.tokens = first :: rest ∧ sum.tree = .literal 2) ∧
        rest <:+ (Cursor.ofText "(1 + 2").tokens ∧
        (¬p.Interrupted 1 → first :: rest <:+ (Cursor.ofText "(1 + 2").tokens) ∧
        (p.Interrupted 1 → ∃ others, rest = first :: others) := by
  intro p q
  have started : ofText "(1 + 2" = .ok p := by decide +kernel
  have parsed : (p.after 1).parse = .ok (.literal 2) q := by decide +kernel
  exact ⟨started, parsed, taken_in_order started parsed⟩

/-- Behind a word, the second call takes the only minus of the text twice. -/
theorem takes_twice :
    let p : Parser := ⟨⟨" x 3".toList, 3⟩, .number 1, .minus⟩
    let q : Parser := ⟨⟨[], 7⟩, .number 3, .endOfInput⟩
    let taken : List Token := [.minus, .minus, .number 3]
    ofText "1 - x 3" = .ok p ∧
      (p.after 1).parse = .ok (.signed .minus (.signed .minus (.literal 3))) q ∧
      Spans (p.after 1) taken q ∧
      (Cursor.ofText "1 - x 3").tokens = [.number 1, .minus, .number 3] ∧
      ¬taken.Sublist (Cursor.ofText "1 - x 3").tokens := by
  intro p q taken
  have spans : Spans (p.after 1) taken q := by
    let r : Parser := ⟨⟨" 3".toList, 5⟩, .minus, .minus⟩
    let s : Parser := ⟨⟨[], 7⟩, .minus, .number 3⟩
    have interrupted : p.after 1 = r := by decide +kernel
    have first : advance r = .ok () s := by decide +kernel
    have second : advance s = .ok () q := by decide +kernel
    rw [interrupted]
    exact ⟨_, rfl, s, first, rfl, q, second, rfl, rfl⟩
  have all : (Cursor.ofText "1 - x 3").tokens = [.number 1, .minus, .number 3] := by
    have one : (Cursor.ofText "1 - x 3").next = .ok (.number 1) ⟨" - x 3".toList, 1⟩ := by
      decide +kernel
    have minus : Cursor.next ⟨" - x 3".toList, 1⟩ = .ok .minus ⟨" x 3".toList, 3⟩ := by
      decide +kernel
    have word : Cursor.next ⟨" x 3".toList, 3⟩ = .error (.identifier "x") ⟨" 3".toList, 5⟩ := by
      decide +kernel
    have three : Cursor.next ⟨" 3".toList, 5⟩ = .ok (.number 3) ⟨[], 7⟩ := by decide +kernel
    have ended : Cursor.next ⟨[], 7⟩ = .ok .endOfInput ⟨[], 7⟩ := rfl
    rw [Cursor.tokens_of_token one nofun, Cursor.tokens_of_token minus nofun,
      Cursor.tokens_of_fault word, Cursor.tokens_of_token three nofun, Cursor.tokens_of_end ended]
  refine ⟨by decide +kernel, by decide +kernel, spans, all, ?_⟩
  rw [all]
  decide +kernel

end Parser
end DiceChat
