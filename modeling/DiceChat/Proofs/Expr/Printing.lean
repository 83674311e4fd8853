import DiceChat.Proofs.Expr.Levels
import DiceChat.Proofs.Number.Written

/-!
# Printing and parsing

A printed expression is parsed back to the tree that it was printed from, with its negative literals
turned into signs, unless the parentheses that printing adds nest too deep.

## Main results

* `Expr.parse_text`: what the text of every expression with finite literals is parsed to.

## Proof strategy

A printed tree is derived as a single operand: an operation as a sum or a product of two operands in
parentheses. The printed text spells the tokens of this derivation, whatever stands behind it.
-/

namespace DiceChat
namespace Expr

open Grammar

/-! ### Literals -/

/-- The literals from left to right. -/
def literals : Expr → List Float
  | literal value => [value]
  | signed _ operand => operand.literals
  | binary _ left right => left.literals ++ right.literals

/-- Every literal with the sign bit becomes the minus of its opposite. -/
def norm : Expr → Expr
  | literal value =>
    if Number.isNegative value then signed .minus (literal (-value)) else literal value
  | signed sign operand => signed sign operand.norm
  | binary op left right => binary op left.norm right.norm

/-- The levels that the text of a tree without negative literals needs. An operation takes one for
its parentheses, and its right operand two more. -/
def need : Expr → Nat
  | literal _ => 1
  | signed _ operand => 1 + operand.need
  | binary _ left right => max (1 + left.need) (3 + right.need)

theorem norm_eq_self {e : Expr} (positive : ∀ x ∈ e.literals, Number.isNegative x = false) :
    e.norm = e := by
  induction e with
  | literal value =>
    have sign := positive value (List.mem_singleton_self value)
    simp [norm, sign]
  | signed sign operand ih => rw [norm, ih positive]
  | binary op left right ihLeft ihRight =>
    obtain ⟨onLeft, onRight⟩ := List.forall_mem_append.mp positive
    rw [norm, ihLeft onLeft, ihRight onRight]

theorem eval_norm (e : Expr) : e.norm.eval = e.eval := by
  induction e with
  | literal value =>
    rw [norm]
    split
    · exact Number.neg_neg_float value
    · rfl
  | signed sign operand ih => rw [norm, eval, eval, ih]
  | binary op left right ihLeft ihRight => rw [norm, eval, eval, ihLeft, ihRight]

/-! ### Derivations -/

/-- Two operands with an operator between them are derived as a sum or as a product. -/
theorem exists_operation (op : BinaryOp) (left right : Unary) :
    ∃ sum : Grammar.Sum, sum.tokens = left.tokens ++ op.token :: right.tokens ∧
      sum.tree = .binary op left.tree right.tree ∧ sum.need = max left.need (2 + right.need) := by
  -- Either way the other loop of the grammar stays empty.
  by_cases loose : op.precedence = .sum
  · refine ⟨.mk (.mk left .none) (.more op loose (.mk right .none) .none), ?_, rfl, ?_⟩
    · simp [Sum.tokens, Terms.tokens, Product.tokens, Factors.tokens]
    · simp [Sum.need, Terms.need, Product.need, Product.count, Factors.need, Factors.count]
  · have tight : op.precedence = .product := by cases op <;> first | rfl | exact absurd rfl loose
    refine ⟨.mk (.mk left (.more op tight right .none)) .none, ?_, rfl, ?_⟩
    · simp [Sum.tokens, Terms.tokens, Product.tokens, Factors.tokens]
    · simp [Sum.need, Terms.need, Product.need, Factors.need]

/-! ### Spelling -/

/-- A printed literal is a number, behind a minus if it has the sign bit. -/
theorem spells_literal {value : Float} (finite : value.isFinite = true) :
    ∃ u : Unary, u.tree = (literal value).norm ∧ u.need = (literal value).norm.need ∧
      ∀ rest tokens, Stops Number.isLiteralChar rest → Spells rest tokens →
        Spells ((literal value).chars ++ rest) (u.tokens ++ tokens) := by
  rw [chars, norm]
  cases sign : Number.isNegative value with
  | true =>
    -- The written sign is the sign that `norm` makes of it.
    obtain ⟨written, finite', positive⟩ := Number.writeChars_of_negative finite sign
    obtain ⟨isLiteral, same⟩ := Number.literalValue_writeChars finite' positive
    refine ⟨.signed .minus (.number (-value)), rfl, rfl, ?_⟩
    intro rest tokens stops behind
    have number := Spells.number isLiteral stops behind
    rw [same] at number
    rw [written]
    exact .symbol rfl number
  | false =>
    obtain ⟨isLiteral, same⟩ := Number.literalValue_writeChars finite sign
    refine ⟨.number value, rfl, rfl, ?_⟩
    intro rest tokens stops behind
    have number := Spells.number isLiteral stops behind
    rwa [same] at number

/-- A printed tree is derived as an operand, whatever stands behind it. -/
theorem spells_chars {e : Expr} (finite : ∀ x ∈ e.literals, x.isFinite = true) :
    ∃ u : Unary, u.tree = e.norm ∧ u.need = e.norm.need ∧
      ∀ rest tokens, Stops Number.isLiteralChar rest → Spells rest tokens →
        Spells (e.chars ++ rest) (u.tokens ++ tokens) := by
  induction e with
  | literal value => exact spells_literal (finite value (List.mem_singleton_self value))
  | signed sign operand ih =>
    obtain ⟨u, tree, need, spells⟩ := ih finite
    refine ⟨.signed sign u, ?_, ?_, ?_⟩
    · rw [Unary.tree, tree, norm]
    · rw [Unary.need, need, norm, Expr.need]
    · intro rest tokens stops behind
      exact .symbol (symbol?_sign sign) (spells rest tokens stops behind)
  | binary op left right ihLeft ihRight =>
    obtain ⟨onLeft, onRight⟩ := List.forall_mem_append.mp finite
    obtain ⟨u, treeLeft, needLeft, spellsLeft⟩ := ihLeft onLeft
    obtain ⟨w, treeRight, needRight, spellsRight⟩ := ihRight onRight
    obtain ⟨sum, tokens, tree, need⟩ := exists_operation op u w
    refine ⟨.group sum, ?_, ?_, ?_⟩
    · rw [Unary.tree, tree, treeLeft, treeRight, norm]
    · rw [Unary.need, need, needLeft, needRight, norm, Expr.need]
      omega
    · intro rest behind stops spelled
      -- A blank ends the left operand, and the closing parenthesis the right one.
      have blank : isBlank ' ' = true := rfl
      have closed := spellsRight (')' :: rest) (.rightParenthesis :: behind) (stops_cons.mpr rfl)
        (.symbol rfl spelled)
      have opened := spellsLeft _ _ (stops_cons.mpr rfl)
        (.blank blank (.symbol (symbol?_token op) (.blank blank closed)))
      have whole : Spells ('(' :: _) (.leftParenthesis :: _) := .symbol rfl opened
      simpa [chars, Unary.tokens, tokens] using whole

/-- The text of an expression with finite literals is parsed to the expression itself, except that
negative literals become signs, and it has the same value. If the parentheses in it nest too deep,
that is all that is wrong with it. -/
theorem parse_text {e : Expr} (finite : ∀ x ∈ e.literals, x.isFinite = true) :
    (e.norm.need ≤ maxDepth →
      Expr.parse e.text = .ok e.norm ∧ Expr.evaluate e.text = .ok e.eval ∧
        ((∀ x ∈ e.literals, Number.isNegative x = false) → Expr.parse e.text = .ok e)) ∧
    (maxDepth < e.norm.need →
      ∃ fault, Expr.parse e.text = .error fault ∧ fault.bare = .tooDeep maxDepth) := by
  obtain ⟨u, tree, need, spells⟩ := spells_chars finite
  have spelled : Spells e.text.toList (Grammar.Sum.mk (.mk u .none) .none).tokens := by
    have alone := spells [] [] stops_nil .done
    rw [text, String.toList_ofList]
    simpa [Sum.tokens, Terms.tokens, Product.tokens, Factors.tokens] using alone
  have sumNeed : (Grammar.Sum.mk (.mk u .none) .none).need = e.norm.need := by
    simp [Sum.need, Terms.need, Product.need, Factors.need, need]
  constructor
  · intro enough
    have parsed : Expr.parse e.text = .ok e.norm :=
      parse_eq_ok_iff_derivation.mpr ⟨_, spelled, sumNeed.trans_le enough, tree⟩
    refine ⟨parsed, ?_, ?_⟩
    · exact Expr.evaluate_eq_ok_iff.mpr ⟨_, parsed, eval_norm e⟩
    · intro positive
      rw [parsed, norm_eq_self positive]
  · intro deep
    exact parse_tooDeep spelled (deep.trans_eq sumNeed.symm)

/-- A negative literal in a sum comes back as a sign; behind 86 operators the sum nests too deep. -/
theorem parse_text_tower :
    let e : Expr := .binary .add (.literal 0.1) (.literal (-2))
    let tower : Expr := Nat.repeat (.binary .mul (.literal 3)) 86 e
    (∀ x ∈ e.literals, x.isFinite = true) ∧ e.text = "(0.1 + -2)" ∧
      Expr.parse e.text = .ok (.binary .add (.literal 0.1) (.signed .minus (.literal 2))) ∧
      Expr.evaluate e.text = .ok e.eval ∧
      (∀ x ∈ tower.literals, x.isFinite = true) ∧
      ∃ fault, Expr.parse tower.text = .error fault ∧ fault.bare = .tooDeep maxDepth := by
  intro e tower
  have finite : ∀ x ∈ e.literals, x.isFinite = true := by decide +kernel
  have towerFinite : ∀ x ∈ tower.literals, x.isFinite = true := by decide +kernel
  obtain ⟨parsed, value, -⟩ := (parse_text finite).1 (by decide +kernel)
  have norm : e.norm = .binary .add (.literal 0.1) (.signed .minus (.literal 2)) := by
    decide +kernel
  rw [norm] at parsed
  exact ⟨finite, by decide +kernel, parsed, value, towerFinite,
    (parse_text towerFinite).2 (by decide +kernel)⟩

end Expr
end DiceChat
