import DiceChat.Proofs.Expr.Spelling
import DiceChat.Proofs.Expr.Steps

/-!
# What the parser accepts

The parser takes exactly the tokens that the grammar derives within the levels that there are, and
answers with the tree of the derivation.

## Main results

* `Parser.chain_sound`: a tree that comes out of the parser belongs to a derivation of the tokens
  that were read, and the levels spent on it were those that the derivation needs.
* `Grammar.Sum.parsed`: a derivation that has its levels is parsed.

## Proof strategy

Soundness goes by induction on the levels, for chains and operations at once: the operations that
one loop has folded are factors up to the first loose operator and terms from there on, since the
right operand of a loose operator takes every tight operator behind it. Completeness goes along the
derivation.
-/

namespace DiceChat

open Grammar

namespace Parser

variable {p q m : Parser} {e left : Expr}

/-! ### Soundness -/

/-- The operations that one loop may fold at a precedence. -/
def Allowed (precedence : Precedence) (factors : Factors) (terms : Terms) : Prop :=
  match precedence with
  | .lowest => True
  | .sum => terms = .none
  | .product | .sign => factors = .none ∧ terms = .none

theorem allowed_none (precedence : Precedence) : Allowed precedence .none .none := by
  cases precedence <;> simp [Allowed]

/-- What a chain leaves behind: a unary, factors and terms, none of them beyond the levels. -/
def ChainSound (levels : Nat) : Prop :=
  ∀ precedence p e q, chain levels precedence p = .ok e q →
    ∃ (first : Unary) (factors : Factors) (terms : Terms),
      Spans p (first.tokens ++ (factors.tokens ++ terms.tokens)) q ∧
      terms.tree (factors.tree first.tree) = e ∧
      first.need ≤ levels ∧ factors.need 0 ≤ levels ∧ terms.need factors.count ≤ levels ∧
      Allowed precedence factors terms ∧ bindsTighter precedence q = false

/-- What the operations of a loop leave behind when `before` others came before them. -/
def OperationsSound (levels : Nat) : Prop :=
  ∀ precedence left p e q before, operations levels precedence left p = .ok e q →
    ∃ (factors : Factors) (terms : Terms),
      Reads p (factors.tokens ++ terms.tokens) q ∧ terms.tree (factors.tree left) = e ∧
      factors.need before ≤ levels + 1 + before ∧
      terms.need (before + factors.count) ≤ levels + 1 + before ∧
      Allowed precedence factors terms ∧ bindsTighter precedence q = false

theorem operand_sound {levels : Nat} (sound : ChainSound levels)
    (parsed : operand (chain levels) p = .ok e q) :
    ∃ u : Unary, Spans p u.tokens q ∧ u.tree = e ∧ u.need ≤ levels + 1 := by
  rcases operand_eq_ok_iff.mp parsed with ⟨value, current, rfl, rfl⟩ |
    ⟨sign, m, inner, current, moved, nested, rfl⟩ |
    ⟨m, r, current, moved, nested, closed, closing⟩
  · exact ⟨.number value, spans_singleton.mpr ⟨current, rfl⟩, rfl, by simp [Unary.need]⟩
  · -- A sign binds tighter than every operator, so it holds a single unary.
    obtain ⟨u, factors, terms, spans, tree, need, -, -, ⟨rfl, rfl⟩, -⟩ := sound _ _ _ _ nested
    simp only [Factors.tokens, Terms.tokens, List.append_nil] at spans
    simp only [Factors.tree, Terms.tree] at tree
    refine ⟨.signed sign u, ⟨u.tokens, ?_, reads_of_spans moved spans⟩, ?_, ?_⟩
    · rw [Unary.tokens, current]
    · rw [Unary.tree, tree]
    · rw [Unary.need]
      omega
  · -- Between parentheses stands whatever one loop folds: a sum.
    obtain ⟨u, factors, terms, spans, tree, needU, needF, needT, -, -⟩ := sound _ _ _ _ nested
    have parenthesis : q.current = .rightParenthesis := by rw [current_of_advance closing, closed]
    have reads := reads_append.mpr
      ⟨r, reads_of_spans moved spans, reads_singleton.mpr ⟨closing, parenthesis⟩⟩
    refine ⟨.group (.mk (.mk u factors) terms), ⟨_, ?_, reads⟩, ?_, ?_⟩
    · simp only [Unary.tokens, Sum.tokens, Product.tokens, List.append_assoc, current]
    · simp only [Unary.tree, Sum.tree, Product.tree, tree]
    · simp only [Unary.need, Sum.need, Product.need, Product.count]
      omega

theorem factors_eq_none {factors : Factors} {tokens : List Token}
    (reads : Reads p (factors.tokens ++ tokens) q) (stop : bindsTighter .sum p = false) :
    factors = .none := by
  cases factors with
  | none => rfl
  | more op tight next rest =>
    have ahead : p.peek = op.token := peek_of_reads reads
    rw [bindsTighter_token ahead, tight] at stop
    exact absurd stop (by decide)

theorem operations_sound_step {levels : Nat} (chains : ChainSound levels)
    (sound : OperationsSound levels) : OperationsSound (levels + 1) := by
  intro precedence left p e q before parsed
  rcases operations_eq_ok_iff.mp parsed with ⟨stop, rfl, rfl⟩ |
    ⟨fewer, op, m, start, right, r, same, ahead, tighter, moved, further, nested, rest⟩
  · exact ⟨.none, .none, rfl, rfl, by simp [Factors.need], by simp [Terms.need],
      allowed_none precedence, stop⟩
  obtain rfl : fewer = levels := by omega
  -- The right operand is a chain of its own, and the loop goes on with one operation more.
  obtain ⟨u, inner, more, spans, rfl, needU, needF, -, allowed, stop⟩ := chains _ _ _ _ nested
  obtain ⟨factors, terms, reads, tree, needFactors, needTerms, allowedRest, stopRest⟩ :=
    sound _ _ _ _ _ (before + 1) rest
  have operator : m.current = op.token := (current_of_advance moved).trans ahead
  have readsAll := reads_append.mpr ⟨r, reads_of_spans further spans, reads⟩
  cases kind : op.precedence with
  | lowest | sign => cases op <;> cases kind
  | sum =>
    -- The right operand is a whole product, so only terms can follow.
    rw [kind] at allowed stop tighter
    obtain rfl : more = .none := allowed
    obtain rfl := factors_eq_none reads stop
    refine ⟨.none, .more op kind (.mk u inner) terms, ?_, tree, ?_, ?_, ?_, stopRest⟩
    · rw [Factors.tokens, List.nil_append, Terms.tokens, reads_cons]
      refine ⟨m, moved, operator, ?_⟩
      simpa only [Product.tokens, Factors.tokens, Terms.tokens, List.append_nil, List.nil_append,
        List.append_assoc] using readsAll
    · rw [Factors.need]
      exact Nat.zero_le _
    · simp only [Factors.count, Nat.add_zero] at needTerms
      simp only [Factors.count, Terms.need, Product.need, Nat.add_zero]
      omega
    · cases precedence with
      | lowest => trivial
      | sum | product | sign => exact absurd tighter (by decide)
  | product =>
    -- The right operand is a single unary, and the loop goes on with whatever follows.
    rw [kind] at allowed tighter
    obtain ⟨rfl, rfl⟩ : inner = .none ∧ more = .none := allowed
    refine ⟨.more op kind u factors, terms, ?_, tree, ?_, ?_, ?_, stopRest⟩
    · rw [Factors.tokens, List.cons_append, reads_cons]
      refine ⟨m, moved, operator, ?_⟩
      simpa only [Factors.tokens, Terms.tokens, List.append_nil, List.append_assoc] using readsAll
    · rw [Factors.need]
      omega
    · have position : before + (factors.count + 1) = before + 1 + factors.count := by omega
      rw [Factors.count, position]
      omega
    · cases precedence with
      | lowest => trivial
      | sum => exact allowedRest
      | product | sign => exact absurd tighter (by decide)

theorem chain_sound_step {levels : Nat} (chains : ChainSound levels)
    (sound : OperationsSound levels) : ChainSound (levels + 1) := by
  intro precedence p e q parsed
  obtain ⟨first, m, operand, rest⟩ := chain_eq_ok_iff.mp parsed
  obtain ⟨u, spans, rfl, need⟩ := operand_sound chains operand
  obtain ⟨factors, terms, reads, tree, needFactors, needTerms, allowed, stop⟩ :=
    sound _ _ _ _ _ 0 rest
  rw [Nat.zero_add] at needTerms
  exact ⟨u, factors, terms, (spans_append u.tokens_ne_nil).mpr ⟨m, spans, reads⟩, tree, need,
    needFactors, needTerms, allowed, stop⟩

theorem sound (levels : Nat) : ChainSound levels ∧ OperationsSound levels := by
  induction levels with
  | zero =>
    constructor
    · exact fun _ _ _ _ parsed => absurd parsed chain_zero_ne_ok
    · intro precedence left p e q before parsed
      rcases operations_eq_ok_iff.mp parsed with ⟨stop, rfl, rfl⟩ | ⟨fewer, _, _, _, _, _, none, _⟩
      · exact ⟨.none, .none, rfl, rfl, by simp [Factors.need], by simp [Terms.need],
          allowed_none precedence, stop⟩
      · -- One more operation would have taken a level.
        cases none
  | succ levels ih => exact ⟨chain_sound_step ih.1 ih.2, operations_sound_step ih.1 ih.2⟩

/-! ### Completeness -/

/-- At the precedence of a product's operators or tighter, a chain is its first operand. -/
theorem chain_of_operand {levels : Nat} {precedence : Precedence}
    (tight : Precedence.product.rank ≤ precedence.rank)
    (parsed : operand (chain levels) p = .ok e q) : chain (levels + 1) precedence p = .ok e q :=
  chain_eq_ok_iff.mpr ⟨e, q, parsed, operations_stop (bindsTighter_of_product tight) levels e⟩

/-- Terms do not start with a tight operator, so what stops a product behind them stops one in
front of them. -/
theorem bindsTighter_of_terms {terms : Terms} (reads : Reads p terms.tokens q)
    (stop : bindsTighter .sum q = false) : bindsTighter .sum p = false := by
  cases terms with
  | none =>
    obtain rfl := reads
    exact stop
  | more op loose next rest =>
    rw [bindsTighter_token (peek_of_reads reads), loose]
    decide

end Parser

namespace Grammar

open DiceChat.Parser

theorem Unary.need_pos (u : Unary) : 1 ≤ u.need := by
  cases u <;> simp only [need] <;> omega

mutual

/-- A unary that has its levels is parsed as an operand. -/
theorem Unary.parsed (u : Unary) {levels : Nat} {p q : Parser} (spans : Spans p u.tokens q)
    (need : u.need ≤ levels + 1) : operand (chain levels) p = .ok u.tree q := by
  cases u with
  | number value =>
    obtain ⟨current, rfl⟩ := spans_singleton.mp spans
    exact operand_eq_ok_iff.mpr (.inl ⟨value, current, rfl, rfl⟩)
  | signed sign operand =>
    obtain ⟨ahead, same, reads⟩ := spans
    simp only [Unary.tokens, List.cons.injEq] at same
    obtain ⟨current, rfl⟩ := same
    obtain ⟨m, moved, inner⟩ := spans_of_reads operand.tokens_ne_nil reads
    rw [Unary.need] at need
    -- The operand needs a level of its own, so one is left below the sign.
    have positive := operand.need_pos
    obtain ⟨fewer, rfl⟩ : ∃ fewer, levels = fewer + 1 := ⟨levels - 1, by omega⟩
    have nested : chain (fewer + 1) .sign m = .ok operand.tree q :=
      chain_of_operand (by decide) (operand.parsed inner (by omega))
    exact operand_eq_ok_iff.mpr (.inr (.inl ⟨sign, m, _, current.symm, moved, nested, rfl⟩))
  | group inner =>
    obtain ⟨ahead, same, reads⟩ := spans
    simp only [Unary.tokens, List.cons.injEq] at same
    obtain ⟨current, rfl⟩ := same
    obtain ⟨r, within, behind⟩ := reads_append.mp reads
    obtain ⟨m, moved, within⟩ := spans_of_reads inner.tokens_ne_nil within
    obtain ⟨closing, parenthesis⟩ := reads_singleton.mp behind
    have closed : r.peek = .rightParenthesis := by rw [← current_of_advance closing, parenthesis]
    have stop : bindsTighter .lowest r = false := by
      rw [bindsTighter, closed]
      decide
    rw [Unary.need] at need
    have nested : chain levels .lowest m = .ok inner.tree r :=
      inner.parsed within (by omega) stop
    exact operand_eq_ok_iff.mpr
      (.inr (.inr ⟨m, r, current.symm, moved, nested, closed, closing⟩))
termination_by structural u

/-- Factors that have their levels are folded by the loop that they stand in. -/
theorem Factors.parsed (factors : Factors) (before : Nat) {levels : Nat}
    {precedence : Precedence} {left e : Expr} {p m q : Parser} (reads : Reads p factors.tokens m)
    (need : factors.need before ≤ levels + 1 + before)
    (loose : precedence.rank < Precedence.product.rank)
    (rest : operations (levels - factors.count) precedence (factors.tree left) m = .ok e q) :
    operations levels precedence left p = .ok e q := by
  cases factors with
  | none =>
    obtain rfl := reads
    exact rest
  | more op tight next more =>
    obtain ⟨a, moved, current, reads⟩ := reads
    obtain ⟨r, first, behind⟩ := reads_append.mp reads
    obtain ⟨start, further, inner⟩ := spans_of_reads next.tokens_ne_nil first
    -- One level goes to the operation and at least one to its operand.
    have positive := next.need_pos
    rw [Factors.need] at need
    obtain ⟨fewer, rfl⟩ : ∃ fewer, levels = fewer + 1 + 1 := ⟨levels - 2, by omega⟩
    have ahead : p.peek = op.token := by rw [← current_of_advance moved, current]
    have nested : chain (fewer + 1) op.precedence start = .ok next.tree r :=
      chain_of_operand (Nat.le_of_eq (congrArg Precedence.rank tight.symm))
        (next.parsed inner (by omega))
    rw [Factors.count, Factors.tree, Nat.add_sub_add_right] at rest
    have folded := more.parsed (before + 1) behind (by omega) loose rest
    exact operations_eq_ok_iff.mpr (.inr ⟨fewer + 1, op, a, start, _, r, rfl, ahead,
      by rw [tight]; exact loose, moved, further, nested, folded⟩)
termination_by structural factors

theorem Product.parsed (product : Product) {levels : Nat} {p q : Parser}
    (spans : Spans p product.tokens q) (need : product.need ≤ levels)
    (stop : bindsTighter .sum q = false) : chain levels .sum p = .ok product.tree q := by
  obtain ⟨first, factors⟩ := product
  rw [Product.tokens] at spans
  obtain ⟨m, inner, reads⟩ := (spans_append first.tokens_ne_nil).mp spans
  have positive := first.need_pos
  rw [Product.need] at need
  obtain ⟨fewer, rfl⟩ : ∃ fewer, levels = fewer + 1 := ⟨levels - 1, by omega⟩
  have operand : operand (chain fewer) p = .ok first.tree m := first.parsed inner (by omega)
  have folded := factors.parsed 0 reads (by omega) (by decide)
    (operations_stop stop (fewer - factors.count) (factors.tree first.tree))
  exact chain_eq_ok_iff.mpr ⟨_, m, operand, folded⟩
termination_by structural product

/-- Terms that have their levels are folded by the loop that they stand in. -/
theorem Terms.parsed (terms : Terms) (before : Nat) {levels : Nat} {left e : Expr}
    {p m q : Parser} (reads : Reads p terms.tokens m) (need : terms.need before ≤ levels + 1 + before)
    (stop : bindsTighter .sum m = false)
    (rest : operations (levels - terms.count) .lowest (terms.tree left) m = .ok e q) :
    operations levels .lowest left p = .ok e q := by
  cases terms with
  | none =>
    obtain rfl := reads
    exact rest
  | more op loose next more =>
    obtain ⟨a, moved, current, reads⟩ := reads
    obtain ⟨r, first, behind⟩ := reads_append.mp reads
    obtain ⟨start, further, inner⟩ := spans_of_reads next.tokens_ne_nil first
    rw [Terms.need] at need
    obtain ⟨fewer, rfl⟩ : ∃ fewer, levels = fewer + 1 := ⟨levels - 1, by omega⟩
    have ahead : p.peek = op.token := by rw [← current_of_advance moved, current]
    have nested : chain fewer op.precedence start = .ok next.tree r := by
      -- The operand takes all tight operators; the loose one behind it stops it.
      rw [loose]
      exact next.parsed inner (by omega) (bindsTighter_of_terms behind stop)
    rw [Terms.count, Terms.tree, Nat.add_sub_add_right] at rest
    have folded := more.parsed (before + 1) behind (by omega) stop rest
    exact operations_eq_ok_iff.mpr (.inr ⟨fewer, op, a, start, _, r, rfl, ahead,
      by rw [loose]; decide, moved, further, nested, folded⟩)
termination_by structural terms

/-- A sum that has its levels is parsed. -/
theorem Sum.parsed (sum : Sum) {levels : Nat} {p q : Parser} (spans : Spans p sum.tokens q)
    (need : sum.need ≤ levels) (stop : bindsTighter .lowest q = false) :
    chain levels .lowest p = .ok sum.tree q := by
  obtain ⟨⟨first, factors⟩, terms⟩ := sum
  simp only [Sum.tokens, Product.tokens, List.append_assoc] at spans
  obtain ⟨m, inner, reads⟩ := (spans_append first.tokens_ne_nil).mp spans
  obtain ⟨r, within, behind⟩ := reads_append.mp reads
  have positive := first.need_pos
  simp only [Sum.need, Product.need, Product.count] at need
  obtain ⟨fewer, rfl⟩ : ∃ fewer, levels = fewer + 1 := ⟨levels - 1, by omega⟩
  have stopSum : bindsTighter .sum q = false := bindsTighter_mono (by decide) stop
  have operand : operand (chain fewer) p = .ok first.tree m := first.parsed inner (by omega)
  -- One loop folds the factors and then the terms, so the terms count on from the factors.
  have joined := terms.parsed factors.count behind (by omega) stopSum
    (operations_stop stop (fewer - factors.count - terms.count)
      (terms.tree (factors.tree first.tree)))
  have folded := factors.parsed 0 within (by omega) (by decide) joined
  exact chain_eq_ok_iff.mpr ⟨_, m, operand, folded⟩
termination_by structural sum

end

end Grammar
end DiceChat
