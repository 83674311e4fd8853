import DiceChat.Expr.Parser
import DiceChat.Proofs.Expr.Grammar

/-!
# Steps of the parser

What each function of the parser does when it succeeds, and what it means that a parser reads a
list of tokens on its way from one state to another.

## Main results

* `Parser.operand_eq_ok_iff`, `Parser.chain_eq_ok_iff`, `Parser.operations_eq_ok_iff`: all that can
  happen on the way to a tree.
* `Parser.reads_append`: a way through two lists of tokens is two ways in a row.
-/

namespace DiceChat
namespace Parser

variable {α β : Type} {p q m : Parser} {e left : Expr}

/-! ### Programs -/

theorem bind_eq_ok_iff {x : ParserM α} {f : α → ParserM β} {b : β} :
    (x >>= f) p = .ok b q ↔ ∃ a m, x p = .ok a m ∧ f a m = .ok b q := by
  change EStateM.bind x f p = .ok b q ↔ _
  unfold EStateM.bind
  cases x p with
  | ok a m =>
    constructor
    · exact fun done => ⟨a, m, rfl, done⟩
    · rintro ⟨_, _, same, done⟩
      cases same
      exact done
  | error fault m =>
    constructor
    · exact nofun
    · rintro ⟨_, _, same, _⟩
      cases same

theorem pure_eq_ok_iff {a b : α} : (pure a : ParserM α) p = .ok b q ↔ b = a ∧ q = p := by
  change EStateM.Result.ok a p = .ok b q ↔ _
  rw [EStateM.Result.ok.injEq, eq_comm (a := a), eq_comm (a := p)]

theorem throw_ne_ok {fault : ParseError} {a : α} : (throw fault : ParserM α) p ≠ .ok a q :=
  nofun

/-- Looking at the state changes nothing. -/
theorem get_bind (f : Parser → ParserM α) : (get >>= f) p = f p p :=
  rfl

/-! ### Advancing -/

theorem advance_eq_ok_iff :
    advance p = .ok () q ↔ ∃ token after, p.cursor.next = .ok token after ∧
      q = ⟨after, p.peek, token⟩ := by
  unfold advance
  cases p.cursor.next with
  | ok token after =>
    constructor
    · intro done
      cases done
      exact ⟨token, after, rfl, rfl⟩
    · rintro ⟨_, _, same, rfl⟩
      cases same
      rfl
  | error fault after =>
    constructor
    · exact nofun
    · rintro ⟨_, _, same, _⟩
      cases same

theorem current_of_advance (moved : advance p = .ok () q) : q.current = p.peek := by
  obtain ⟨token, after, -, rfl⟩ := advance_eq_ok_iff.mp moved
  rfl

/-! ### Operators ahead -/

theorem bindsTighter_iff {precedence : Precedence} :
    bindsTighter precedence p = true ↔
      ∃ op : BinaryOp, p.peek = op.token ∧ precedence.rank < op.precedence.rank := by
  simp only [bindsTighter, Bool.and_eq_true, bne_iff_ne, decide_eq_true_eq]
  constructor
  · rintro ⟨_, tighter⟩
    cases ahead : p.peek.operator? with
    | none =>
      -- What is no operator has the lowest precedence, which is above none.
      rw [Token.precedence, ahead] at tighter
      cases precedence <;> cases tighter <;> contradiction
    | some op =>
      rw [Token.precedence, ahead] at tighter
      exact ⟨op, Grammar.eq_token_of_operator? ahead, tighter⟩
  · rintro ⟨op, ahead, tighter⟩
    rw [ahead, Grammar.precedence_token]
    exact ⟨by cases op <;> decide, tighter⟩

theorem bindsTighter_token {precedence : Precedence} {op : BinaryOp} (ahead : p.peek = op.token) :
    bindsTighter precedence p = decide (precedence.rank < op.precedence.rank) := by
  rw [Bool.eq_iff_iff, bindsTighter_iff, decide_eq_true_eq]
  constructor
  · rintro ⟨op', ahead', tighter⟩
    rw [Grammar.token_injective (ahead.symm.trans ahead')]
    exact tighter
  · exact fun tighter => ⟨op, ahead, tighter⟩

/-- Nothing binds tighter than a product's operators. -/
theorem bindsTighter_of_product {precedence : Precedence}
    (tight : Precedence.product.rank ≤ precedence.rank) : bindsTighter precedence p = false := by
  rw [Bool.eq_false_iff, ne_eq, bindsTighter_iff]
  rintro ⟨op, -, tighter⟩
  have bound : op.precedence.rank ≤ Precedence.product.rank := by cases op <;> decide
  omega

theorem bindsTighter_mono {low high : Precedence} (tighter : low.rank ≤ high.rank)
    (stop : bindsTighter low p = false) : bindsTighter high p = false := by
  rw [Bool.eq_false_iff, ne_eq, bindsTighter_iff] at *
  rintro ⟨op, ahead, above⟩
  exact stop ⟨op, ahead, by omega⟩

theorem bindsTighter_of_end {precedence : Precedence} (ended : p.peek = .endOfInput) :
    bindsTighter precedence p = false := by
  simp [bindsTighter, ended]

/-! ### Operands, operations and chains -/

/-- An operand is a number, a sign with what it holds, or a parenthesis with what it holds. -/
theorem operand_eq_ok_iff {nested : Precedence → ParserM Expr} :
    operand nested p = .ok e q ↔
      (∃ value, p.current = .number value ∧ e = .literal value ∧ q = p) ∨
      (∃ sign m inner, p.current = Sign.token sign ∧ advance p = .ok () m ∧
        nested .sign m = .ok inner q ∧ e = .signed sign inner) ∨
      (∃ m r, p.current = .leftParenthesis ∧ advance p = .ok () m ∧
        nested .lowest m = .ok e r ∧ r.peek = .rightParenthesis ∧ advance r = .ok () q) := by
  unfold operand
  rw [get_bind]
  constructor
  · intro done
    cases current : p.current with
    | number value =>
      simp only [current] at done
      obtain ⟨rfl, rfl⟩ := pure_eq_ok_iff.mp done
      exact .inl ⟨value, rfl, rfl, rfl⟩
    | minus =>
      simp only [current] at done
      obtain ⟨⟨⟩, m, moved, done⟩ := bind_eq_ok_iff.mp done
      obtain ⟨inner, _, parsed, done⟩ := bind_eq_ok_iff.mp done
      obtain ⟨rfl, rfl⟩ := pure_eq_ok_iff.mp done
      exact .inr (.inl ⟨.minus, m, inner, rfl, moved, parsed, rfl⟩)
    | plus =>
      simp only [current] at done
      obtain ⟨⟨⟩, m, moved, done⟩ := bind_eq_ok_iff.mp done
      obtain ⟨inner, _, parsed, done⟩ := bind_eq_ok_iff.mp done
      obtain ⟨rfl, rfl⟩ := pure_eq_ok_iff.mp done
      exact .inr (.inl ⟨.plus, m, inner, rfl, moved, parsed, rfl⟩)
    | leftParenthesis =>
      simp only [current] at done
      obtain ⟨⟨⟩, m, moved, done⟩ := bind_eq_ok_iff.mp done
      obtain ⟨inner, r, parsed, done⟩ := bind_eq_ok_iff.mp done
      rw [get_bind] at done
      split at done
      next closed =>
        obtain ⟨⟨⟩, _, closing, done⟩ := bind_eq_ok_iff.mp done
        obtain ⟨rfl, rfl⟩ := pure_eq_ok_iff.mp done
        exact .inr (.inr ⟨m, r, rfl, moved, parsed, closed, closing⟩)
      · exact absurd done throw_ne_ok
    | times | divide | modulo | rightParenthesis | endOfInput =>
      -- No operand starts with any other token.
      simp only [current] at done
      exact absurd done throw_ne_ok
  · rintro (⟨value, current, rfl, rfl⟩ | ⟨sign, m, inner, current, moved, parsed, rfl⟩ |
      ⟨m, r, current, moved, parsed, closed, closing⟩)
    · rw [current]
      rfl
    · -- The parser treats both signs alike, but in two branches.
      cases sign <;>
        · simp only [current, Sign.token]
          exact bind_eq_ok_iff.mpr ⟨(), m, moved, bind_eq_ok_iff.mpr ⟨inner, q, parsed, rfl⟩⟩
    · simp only [current]
      refine bind_eq_ok_iff.mpr ⟨(), m, moved, bind_eq_ok_iff.mpr ⟨e, r, parsed, ?_⟩⟩
      rw [get_bind, if_pos closed]
      exact bind_eq_ok_iff.mpr ⟨(), q, closing, rfl⟩

theorem operation_eq_ok_iff {nested : Precedence → ParserM Expr} :
    operation nested left p = .ok e q ↔
      ∃ op m right, p.current = BinaryOp.token op ∧ advance p = .ok () m ∧
        nested op.precedence m = .ok right q ∧ e = .binary op left right := by
  unfold operation
  rw [get_bind]
  constructor
  · intro done
    cases found : p.current.operator? with
    | none =>
      rw [found] at done
      exact absurd done throw_ne_ok
    | some op =>
      rw [found] at done
      obtain ⟨⟨⟩, m, moved, done⟩ := bind_eq_ok_iff.mp done
      obtain ⟨right, _, parsed, done⟩ := bind_eq_ok_iff.mp done
      obtain ⟨rfl, rfl⟩ := pure_eq_ok_iff.mp done
      exact ⟨op, m, right, Grammar.eq_token_of_operator? found, moved, parsed, rfl⟩
  · rintro ⟨op, m, right, current, moved, parsed, rfl⟩
    have found : p.current.operator? = some op := by rw [current, Grammar.operator?_token]
    simp only [found]
    exact bind_eq_ok_iff.mpr ⟨(), m, moved, bind_eq_ok_iff.mpr ⟨right, q, parsed, rfl⟩⟩

theorem chain_zero_ne_ok {precedence : Precedence} : chain 0 precedence p ≠ .ok e q := by
  unfold chain
  exact throw_ne_ok

theorem chain_eq_ok_iff {levels : Nat} {precedence : Precedence} :
    chain (levels + 1) precedence p = .ok e q ↔
      ∃ first m, operand (chain levels) p = .ok first m ∧
        operations levels precedence first m = .ok e q := by
  rw [chain, bind_eq_ok_iff]

/-- Where nothing binds tighter, the operations are over. -/
theorem operations_stop {precedence : Precedence} (stop : bindsTighter precedence p = false)
    (levels : Nat) (left : Expr) : operations levels precedence left p = .ok left p := by
  cases levels <;> simp only [operations, get_bind, stop, Bool.false_eq_true, if_false] <;> rfl

/-- The operations are over, or one more is joined on with one level less. -/
theorem operations_eq_ok_iff {levels : Nat} {precedence : Precedence} :
    operations levels precedence left p = .ok e q ↔
      (bindsTighter precedence p = false ∧ e = left ∧ q = p) ∨
      (∃ fewer op m start right r, levels = fewer + 1 ∧ p.peek = BinaryOp.token op ∧
        precedence.rank < op.precedence.rank ∧ advance p = .ok () m ∧ advance m = .ok () start ∧
        chain fewer op.precedence start = .ok right r ∧
        operations fewer precedence (.binary op left right) r = .ok e q) := by
  constructor
  · intro done
    cases ahead : bindsTighter precedence p with
    | false =>
      rw [operations_stop ahead] at done
      cases done
      exact .inl ⟨rfl, rfl, rfl⟩
    | true =>
      right
      cases levels with
      | zero =>
        -- An operation that no level is left for is an error.
        rw [operations, get_bind, if_pos ahead] at done
        exact absurd done throw_ne_ok
      | succ fewer =>
        rw [operations, get_bind, if_pos ahead] at done
        obtain ⟨⟨⟩, m, moved, done⟩ := bind_eq_ok_iff.mp done
        obtain ⟨joined, r, joining, done⟩ := bind_eq_ok_iff.mp done
        obtain ⟨op, start, right, current, further, parsed, rfl⟩ := operation_eq_ok_iff.mp joining
        obtain ⟨op', ahead, tighter⟩ := bindsTighter_iff.mp ahead
        -- The operator that is joined on is the one that was seen ahead.
        rw [current_of_advance moved, ahead] at current
        obtain rfl := Grammar.token_injective current
        exact ⟨fewer, _, m, start, right, r, rfl, ahead, tighter, moved, further, parsed, done⟩
  · rintro (⟨stop, rfl, rfl⟩ |
      ⟨fewer, op, m, start, right, r, rfl, ahead, tighter, moved, further, parsed, done⟩)
    · exact operations_stop stop levels e
    · have current : m.current = op.token := (current_of_advance moved).trans ahead
      have joining : operation (chain fewer) left m = .ok (.binary op left right) r :=
        operation_eq_ok_iff.mpr ⟨op, start, right, current, further, parsed, rfl⟩
      rw [operations, get_bind, if_pos (bindsTighter_iff.mpr ⟨op, ahead, tighter⟩)]
      exact bind_eq_ok_iff.mpr ⟨(), m, moved, bind_eq_ok_iff.mpr ⟨_, r, joining, done⟩⟩

/-! ### Reading -/

/-- From `p`, the parser advances over the tokens ahead and comes to `q`. -/
def Reads (p : Parser) : List Token → Parser → Prop
  | [], q => q = p
  | t :: tokens, q => ∃ m, advance p = .ok () m ∧ m.current = t ∧ Reads m tokens q

theorem reads_nil : Reads p [] q ↔ q = p :=
  Iff.rfl

theorem reads_cons {t : Token} {tokens : List Token} :
    Reads p (t :: tokens) q ↔ ∃ m, advance p = .ok () m ∧ m.current = t ∧ Reads m tokens q :=
  Iff.rfl

theorem reads_singleton {t : Token} :
    Reads p [t] q ↔ advance p = .ok () q ∧ q.current = t := by
  constructor
  · rintro ⟨_, moved, current, rfl⟩
    exact ⟨moved, current⟩
  · rintro ⟨moved, current⟩
    exact ⟨q, moved, current, rfl⟩

theorem reads_append {one two : List Token} :
    Reads p (one ++ two) q ↔ ∃ m, Reads p one m ∧ Reads m two q := by
  induction one generalizing p with
  | nil => simp [reads_nil]
  | cons t one ih =>
    simp only [List.cons_append, reads_cons, ih]
    constructor
    · rintro ⟨m, moved, current, r, first, second⟩
      exact ⟨r, ⟨m, moved, current, first⟩, second⟩
    · rintro ⟨r, ⟨m, moved, current, first⟩, second⟩
      exact ⟨m, moved, current, r, first, second⟩

theorem peek_of_reads {t : Token} {tokens : List Token} (reads : Reads p (t :: tokens) q) :
    p.peek = t := by
  obtain ⟨m, moved, current, -⟩ := reads
  rw [← current, current_of_advance moved]

/-- The tokens from the current one of `p` up to the current one of `q`. -/
def Spans (p : Parser) (tokens : List Token) (q : Parser) : Prop :=
  ∃ ahead, tokens = p.current :: ahead ∧ Reads p ahead q

theorem spans_append {one two : List Token} (filled : one ≠ []) :
    Spans p (one ++ two) q ↔ ∃ m, Spans p one m ∧ Reads m two q := by
  obtain ⟨t, one, rfl⟩ := List.exists_cons_of_ne_nil filled
  simp only [Spans, List.cons_append, List.cons.injEq]
  constructor
  · rintro ⟨_, ⟨current, rfl⟩, reads⟩
    obtain ⟨m, first, second⟩ := reads_append.mp reads
    exact ⟨m, ⟨one, ⟨current, rfl⟩, first⟩, second⟩
  · rintro ⟨m, ⟨_, ⟨current, rfl⟩, first⟩, second⟩
    exact ⟨_, ⟨current, rfl⟩, reads_append.mpr ⟨m, first, second⟩⟩

theorem spans_singleton {t : Token} : Spans p [t] q ↔ p.current = t ∧ q = p := by
  simp only [Spans, List.cons.injEq]
  constructor
  · rintro ⟨_, ⟨rfl, rfl⟩, same⟩
    exact ⟨rfl, same⟩
  · rintro ⟨rfl, same⟩
    exact ⟨[], ⟨rfl, rfl⟩, same⟩

/-- A token and a span behind it are one advance and that span. -/
theorem reads_of_spans {tokens : List Token} (moved : advance p = .ok () m)
    (spans : Spans m tokens q) : Reads p tokens q := by
  obtain ⟨ahead, rfl, reads⟩ := spans
  exact ⟨m, moved, rfl, reads⟩

theorem spans_of_reads {tokens : List Token} (filled : tokens ≠ []) (reads : Reads p tokens q) :
    ∃ m, advance p = .ok () m ∧ Spans m tokens q := by
  obtain ⟨t, tokens, rfl⟩ := List.exists_cons_of_ne_nil filled
  obtain ⟨m, moved, rfl, reads⟩ := reads
  exact ⟨m, moved, tokens, rfl, reads⟩

end Parser
end DiceChat
