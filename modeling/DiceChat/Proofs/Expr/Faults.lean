import DiceChat.Proofs.Expr.Lexed
import DiceChat.Proofs.Expr.Text

/-!
# Where faults come from

A parse that fails has read tokens up to some state, and its fault was raised there: by a token that
could not be read, or by what the parser found at that state. Which of the two it is, and in which
state, does not depend on how deep in the recursion it happens.

## Main results

* `Parser.whole_fails`: every fault of a parser, with the state that it is left in.
* `Parser.ofText_fails`, `parse_fails`: every fault of a text.

## Proof strategy

Each function of the parser fails where one of its steps fails. Induction on the levels turns this
into one relation between the state in which a parse starts, its fault and the state that it leaves.
-/

namespace DiceChat
namespace Parser

variable {α β : Type} {p q m r : Parser} {e left : Expr} {fault : ParseError}

/-! ### Programs that fail -/

theorem bind_eq_error_iff {x : ParserM α} {f : α → ParserM β} :
    (x >>= f) p = .error fault q ↔
      x p = .error fault q ∨ ∃ a m, x p = .ok a m ∧ f a m = .error fault q := by
  change EStateM.bind x f p = .error fault q ↔ _
  unfold EStateM.bind
  cases x p with
  | ok a m => simp
  | error fault' m => simp

theorem pure_ne_error {a : α} : (pure a : ParserM α) p ≠ .error fault q :=
  nofun

theorem throw_eq_error_iff {raised : ParseError} :
    (throw raised : ParserM α) p = .error fault q ↔ fault = raised ∧ q = p := by
  change EStateM.Result.error raised p = .error fault q ↔ _
  rw [EStateM.Result.error.injEq, eq_comm (a := raised), eq_comm (a := p)]

theorem advance_eq_error_iff :
    advance p = .error fault q ↔ ∃ after, p.cursor.next = .error fault after ∧
      q = ⟨after, p.peek, p.peek⟩ := by
  unfold advance
  cases p.cursor.next <;> simp [eq_comm]

/-! ### Ways through the text -/

/-- From `p`, the parser comes to `q` by advancing. -/
def Reaches (p q : Parser) : Prop :=
  ∃ tokens, Reads p tokens q

theorem Reaches.refl (p : Parser) : Reaches p p :=
  ⟨[], rfl⟩

theorem Reaches.trans (first : Reaches p m) (second : Reaches m q) : Reaches p q := by
  obtain ⟨tokens, reads⟩ := first
  obtain ⟨others, readsOthers⟩ := second
  exact ⟨tokens ++ others, reads_append.mpr ⟨m, reads, readsOthers⟩⟩

theorem reaches_of_advance (moved : advance p = .ok () q) : Reaches p q :=
  ⟨[q.current], q, moved, rfl, rfl⟩

theorem reaches_of_spans {tokens : List Token} (spans : Spans p tokens q) : Reaches p q := by
  obtain ⟨ahead, -, reads⟩ := spans
  exact ⟨ahead, reads⟩

theorem reaches_of_chain {levels : Nat} {precedence : Precedence}
    (parsed : chain levels precedence p = .ok e q) : Reaches p q := by
  obtain ⟨first, factors, terms, spans, -⟩ := (sound levels).1 _ _ _ _ parsed
  exact reaches_of_spans spans

/-- What every advance keeps holds all the way. -/
@[elab_as_elim]
theorem Reaches.keeps {motive : Parser → Prop} (reaches : Reaches p q) (start : motive p)
    (step : ∀ m r, motive m → advance m = .ok () r → motive r) : motive q := by
  obtain ⟨tokens, reads⟩ := reaches
  induction tokens generalizing p with
  | nil =>
    obtain rfl := reads
    exact start
  | cons t tokens ih =>
    obtain ⟨m, moved, -, reads⟩ := reads
    exact ih (step p m start moved) reads

/-- What is left to read is an end of what there was. -/
theorem rest_suffix_of_reaches (reaches : Reaches p q) : q.cursor.rest <:+ p.cursor.rest := by
  refine reaches.keeps (List.suffix_refl _) ?_
  intro m r suffix moved
  obtain ⟨token, after, read, rfl⟩ := advance_eq_ok_iff.mp moved
  exact (Cursor.rest_suffix_of_token read).trans suffix

/-! ### Faults -/

/-- A parse that starts at `p` may fail so and leave the parser so. -/
inductive Fails (p : Parser) : ParseError → Parser → Prop where
  /-- No token could be read. -/
  | unread {q : Parser} {fault : ParseError} {after : Cursor} : Reaches p q →
      q.cursor.next = .error fault after → Fails p fault ⟨after, q.peek, q.peek⟩
  | tooDeep {q : Parser} : Reaches p q → Fails p (.tooDeep maxDepth) q
  | operandExpected {q : Parser} : Reaches p q → Fails p (.operandExpected q.current.name) q
  | unclosed {q : Parser} : Reaches p q → q.peek ≠ .rightParenthesis →
      Fails p .unclosedParenthesis q
  | trailing {q : Parser} : Reaches p q → q.peek ≠ .endOfInput →
      Fails p (.trailingInput q.peek.name) q

theorem Fails.of_reaches (reaches : Reaches p m) (fails : Fails m fault q) : Fails p fault q := by
  cases fails with
  | unread further read => exact .unread (reaches.trans further) read
  | tooDeep further => exact .tooDeep (reaches.trans further)
  | operandExpected further => exact .operandExpected (reaches.trans further)
  | unclosed further ahead => exact .unclosed (reaches.trans further) ahead
  | trailing further ahead => exact .trailing (reaches.trans further) ahead

theorem advance_fails (failed : advance p = .error fault q) : Fails p fault q := by
  obtain ⟨after, read, rfl⟩ := advance_eq_error_iff.mp failed
  exact .unread (.refl p) read

/-- A parse that goes on behind one advance fails there or behind it. -/
theorem fails_of_advance {f : Unit → ParserM α} (failed : (advance >>= f) p = .error fault q)
    (behind : ∀ m, advance p = .ok () m → f () m = .error fault q → Fails m fault q) :
    Fails p fault q := by
  rcases bind_eq_error_iff.mp failed with here | ⟨⟨⟩, m, moved, later⟩
  · exact advance_fails here
  · exact (behind m moved later).of_reaches (reaches_of_advance moved)

def ChainFails (levels : Nat) : Prop :=
  ∀ precedence p fault q, chain levels precedence p = .error fault q → Fails p fault q

def OperationsFail (levels : Nat) : Prop :=
  ∀ precedence left p fault q,
    operations levels precedence left p = .error fault q → Fails p fault q

theorem operand_fails {levels : Nat} (chains : ChainFails levels)
    (failed : operand (chain levels) p = .error fault q) : Fails p fault q := by
  unfold operand at failed
  rw [get_bind] at failed
  have signed (sign : Sign) (failed : (advance >>= fun _ => do
      return Expr.signed sign (← chain levels .sign)) p = .error fault q) : Fails p fault q := by
    refine fails_of_advance failed ?_
    intro m moved later
    rcases bind_eq_error_iff.mp later with inner | ⟨e, r, parsed, done⟩
    · exact chains _ _ _ _ inner
    · exact absurd done pure_ne_error
  cases current : p.current with
  | number value =>
    simp only [current] at failed
    exact absurd failed pure_ne_error
  | minus =>
    simp only [current] at failed
    exact signed .minus failed
  | plus =>
    simp only [current] at failed
    exact signed .plus failed
  | leftParenthesis =>
    simp only [current] at failed
    refine fails_of_advance failed ?_
    intro m moved later
    rcases bind_eq_error_iff.mp later with inner | ⟨e, r, parsed, done⟩
    · exact chains _ _ _ _ inner
    -- What stands between the parentheses is parsed; the closing one is missing or unreadable.
    rw [get_bind] at done
    have reaches := reaches_of_chain parsed
    split at done
    next closed =>
      refine Fails.of_reaches reaches (fails_of_advance done ?_)
      intro t _ done
      exact absurd done pure_ne_error
    next missing =>
      obtain ⟨rfl, rfl⟩ := throw_eq_error_iff.mp done
      exact .unclosed reaches missing
  | times | divide | modulo | rightParenthesis | endOfInput =>
    simp only [current] at failed
    obtain ⟨rfl, rfl⟩ := throw_eq_error_iff.mp failed
    rw [← current]
    exact .operandExpected (.refl q)

/-- Behind an operator, only its right operand can fail. -/
theorem operation_fails {levels : Nat} (chains : ChainFails levels) {op : BinaryOp}
    (current : p.current = op.token) (failed : operation (chain levels) left p = .error fault q) :
    Fails p fault q := by
  unfold operation at failed
  rw [get_bind] at failed
  have found : p.current.operator? = some op := by rw [current, Grammar.operator?_token]
  simp only [found] at failed
  refine fails_of_advance failed ?_
  intro m moved later
  rcases bind_eq_error_iff.mp later with inner | ⟨e, r, parsed, done⟩
  · exact chains _ _ _ _ inner
  · exact absurd done pure_ne_error

theorem reaches_of_operation {levels : Nat} (joined : operation (chain levels) left p = .ok e q) :
    Reaches p q := by
  obtain ⟨op, m, right, -, moved, parsed, -⟩ := operation_eq_ok_iff.mp joined
  exact (reaches_of_advance moved).trans (reaches_of_chain parsed)

theorem operations_fail_step {levels : Nat} (chains : ChainFails levels)
    (operationsFail : OperationsFail levels) : OperationsFail (levels + 1) := by
  intro precedence left p fault q failed
  rw [operations, get_bind] at failed
  split at failed
  next tighter =>
    obtain ⟨op, ahead, -⟩ := bindsTighter_iff.mp tighter
    refine fails_of_advance failed ?_
    intro m moved later
    -- The operator that was seen ahead is the one that stands there now.
    have current : m.current = op.token := (current_of_advance moved).trans ahead
    rcases bind_eq_error_iff.mp later with inner | ⟨joined, r, parsed, rest⟩
    · exact operation_fails chains current inner
    · exact (operationsFail _ _ _ _ _ rest).of_reaches (reaches_of_operation parsed)
  next => exact absurd failed pure_ne_error

theorem chain_fails_step {levels : Nat} (chains : ChainFails levels)
    (operationsFail : OperationsFail levels) : ChainFails (levels + 1) := by
  intro precedence p fault q failed
  rw [chain] at failed
  rcases bind_eq_error_iff.mp failed with first | ⟨first, m, parsed, rest⟩
  · exact operand_fails chains first
  · have reaches : Reaches p m := by
      obtain ⟨u, spans, -⟩ := operand_sound (sound levels).1 parsed
      exact reaches_of_spans spans
    exact (operationsFail _ _ _ _ _ rest).of_reaches reaches

theorem fails (levels : Nat) : ChainFails levels ∧ OperationsFail levels := by
  induction levels with
  | zero =>
    constructor
    · intro precedence p fault q failed
      rw [chain] at failed
      obtain ⟨rfl, rfl⟩ := throw_eq_error_iff.mp failed
      exact .tooDeep (.refl q)
    · intro precedence left p fault q failed
      rw [operations, get_bind] at failed
      split at failed
      · obtain ⟨rfl, rfl⟩ := throw_eq_error_iff.mp failed
        exact .tooDeep (.refl q)
      · exact absurd failed pure_ne_error
  | succ levels ih => exact ⟨chain_fails_step ih.1 ih.2, operations_fail_step ih.1 ih.2⟩

/-- Every fault of a whole input. -/
theorem whole_fails (failed : whole p = .error fault q) : Fails p fault q := by
  unfold whole at failed
  rcases bind_eq_error_iff.mp failed with inner | ⟨e, m, parsed, ending⟩
  · exact (fails maxDepth).1 _ _ _ _ inner
  rw [get_bind] at ending
  split at ending
  · exact absurd ending pure_ne_error
  next more =>
    obtain ⟨rfl, rfl⟩ := throw_eq_error_iff.mp ending
    exact .trailing (reaches_of_chain parsed) more

/-! ### Locations -/

theorem not_located_of_next {c after : Cursor} (read : c.next = .error fault after) :
    ∀ position inner, fault ≠ .located position inner := by
  obtain ⟨blanks, piece, rest, result, -, -, -, taken, read'⟩ := c.next_piece
  rw [read'] at read
  cases taken <;> cases read <;> nofun

theorem Fails.not_located (failed : Fails p fault q) :
    ∀ position inner, fault ≠ .located position inner := by
  cases failed with
  | unread _ read => exact not_located_of_next read
  | tooDeep | operandExpected | unclosed | trailing => nofun

theorem Fails.atPosition (failed : Fails p fault q) (position : Nat) :
    fault.atPosition position = .located position fault := by
  have bare := failed.not_located
  cases fault with
  | located first inner => exact absurd rfl (bare first inner)
  | _ => rfl

theorem parse_eq_error {q : Parser} (failed : parse p = .error fault q) :
    ∃ kind, Fails p kind q ∧ fault = .located q.cursor.position kind := by
  unfold parse at failed
  cases whole : p.whole with
  | ok e r =>
    rw [whole] at failed
    cases failed
  | error kind r =>
    rw [whole] at failed
    cases failed
    have fails := whole_fails whole
    exact ⟨kind, fails, fails.atPosition _⟩

/-! ### Texts -/

/-- No parser is put on a text of which the first or the second token cannot be read, or that has no
token at all. -/
theorem ofText_fails {text : String} (failed : ofText text = .error fault) :
    (∃ after, (Cursor.ofText text).next = .error fault after) ∨
    (fault = .empty ∧ ∃ after, (Cursor.ofText text).next = .ok .endOfInput after) ∨
    ∃ current between after, (Cursor.ofText text).next = .ok current between ∧
      between.next = .error fault after := by
  unfold ofText at failed
  cases read : (Cursor.ofText text).next with
  | error found after =>
    rw [read] at failed
    cases failed
    exact .inl ⟨after, rfl⟩
  | ok current between =>
    rw [read] at failed
    by_cases ended : current = .endOfInput
    · subst ended
      cases failed
      exact .inr (.inl ⟨rfl, between, rfl⟩)
    · cases ahead : between.next with
      | ok peek after =>
        simp only [ahead] at failed
        cases failed
      | error found after =>
        simp only [ahead] at failed
        cases failed
        exact .inr (.inr ⟨current, between, after, rfl, ahead⟩)

end Parser

theorem Expr.parse_eq_error_iff {text : String} {fault : ParseError} :
    Expr.parse text = .error fault ↔ Parser.ofText text = .error fault ∨
      ∃ p q, Parser.ofText text = .ok p ∧ p.parse = .error fault q := by
  unfold Expr.parse
  cases Parser.ofText text with
  | error kind => simp
  | ok p => cases parsed : p.parse <;> simp [parsed]

/-- Every fault of a text: no parser can be put on it, or the parser fails and the fault is located
where its cursor has come to. -/
theorem parse_fails {text : String} {fault : ParseError} (failed : Expr.parse text = .error fault) :
    Parser.ofText text = .error fault ∨
      ∃ p kind q, Parser.ofText text = .ok p ∧ Parser.Fails p kind q ∧
        fault = .located q.cursor.position kind := by
  rcases Expr.parse_eq_error_iff.mp failed with unstarted | ⟨p, q, started, failing⟩
  · exact .inl unstarted
  · obtain ⟨kind, fails, located⟩ := Parser.parse_eq_error failing
    exact .inr ⟨p, kind, q, started, fails, located⟩

end DiceChat
