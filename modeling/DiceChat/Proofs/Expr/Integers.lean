import Mathlib
import DiceChat.Proofs.Expr.Printing
import DiceChat.Proofs.Number.Integers

/-!
# Expressions of integers

A text without points is an expression of integers. Its value in integers is the value of its tree
in floating point, as long as no part of it exceeds `2 ^ 53`.

## Main results

* `IntExpr.exactly_eval`: evaluation is exact for integers.
* `IntExpr.exists_writtenIn` and `IntExpr.WrittenIn.unique`: every text without points that has a
  derivation writes one expression of integers.
-/

namespace DiceChat

open Number (Exactly)

/-! ### Values -/

/-- An expression of integers. -/
inductive IntExpr where
  | literal (n : Nat)
  | signed (sign : Sign) (operand : IntExpr)
  | binary (op : BinaryOp) (left right : IntExpr)
deriving DecidableEq, Repr

def Sign.onInteger : Sign → Int → Int
  | plus, a => a
  | minus, a => -a

/-- The remainder is that of the quotient truncated toward zero. Quotients are no integers. -/
def BinaryOp.onIntegers? : BinaryOp → Int → Int → Option Int
  | add, a, b => some (a + b)
  | sub, a, b => some (a - b)
  | mul, a, b => some (a * b)
  | div, _, _ => none
  | rem, a, b => if b = 0 then none else some (a.tmod b)

/-- Integers up to `2 ^ 53`. -/
def exactInteger? (a : Int) : Option Int :=
  if a.natAbs ≤ 2 ^ 53 then some a else none

namespace IntExpr

/-- The value, if all parts have one and none of them exceeds `2 ^ 53`. -/
def value? : IntExpr → Option Int
  | literal n => exactInteger? n
  | signed sign operand => operand.value?.map sign.onInteger
  | binary op left right => do exactInteger? (← op.onIntegers? (← left.value?) (← right.value?))

/-- The tree that is evaluated for it. -/
def tree : IntExpr → Expr
  | literal n => .literal (Float.ofScientific n true 0)
  | signed sign operand => .signed sign operand.tree
  | binary op left right => .binary op left.tree right.tree

def literals : IntExpr → List Nat
  | literal n => [n]
  | signed _ operand => operand.literals
  | binary _ left right => left.literals ++ right.literals

end IntExpr

theorem exactInteger?_eq_some_iff {a b : Int} :
    exactInteger? a = some b ↔ a.natAbs ≤ 2 ^ 53 ∧ a = b := by
  simp [exactInteger?]

theorem Sign.exactly_apply {x : Float} {a : Int} (exactly : Exactly x a) (sign : Sign) :
    Exactly (sign.apply x) (sign.onInteger a) := by
  cases sign with
  | plus => exact exactly
  | minus => exact exactly.neg

theorem BinaryOp.exactly_apply {op : BinaryOp} {x y : Float} {a b v : Int} (left : Exactly x a)
    (right : Exactly y b) (value : op.onIntegers? a b = some v) (small : v.natAbs ≤ 2 ^ 53) :
    Exactly (op.apply x y) v := by
  cases op with
  | add =>
    cases value
    exact left.add right small
  | sub =>
    cases value
    exact left.sub right small
  | mul =>
    cases value
    exact left.mul right small
  | div => cases value
  | rem =>
    rw [BinaryOp.onIntegers?] at value
    split at value
    next zero => cases value
    next divisor =>
      cases value
      exact left.remainder right divisor small

/-- An expression of integers is evaluated exactly. -/
theorem IntExpr.exactly_eval {t : IntExpr} {v : Int} (value : t.value? = some v) :
    Exactly t.tree.eval v := by
  induction t generalizing v with
  | literal n =>
    obtain ⟨small, rfl⟩ := exactInteger?_eq_some_iff.mp value
    exact Number.exactly_ofScientific small
  | signed sign operand ih =>
    obtain ⟨a, inner, rfl⟩ := Option.map_eq_some_iff.mp value
    exact Sign.exactly_apply (ih inner) sign
  | binary op left right ihLeft ihRight =>
    obtain ⟨a, leftValue, value⟩ := Option.bind_eq_some_iff.mp value
    obtain ⟨b, rightValue, value⟩ := Option.bind_eq_some_iff.mp value
    obtain ⟨c, result, value⟩ := Option.bind_eq_some_iff.mp value
    obtain ⟨small, rfl⟩ := exactInteger?_eq_some_iff.mp value
    exact BinaryOp.exactly_apply (ihLeft leftValue) (ihRight rightValue) result small

/-! ### Integers in a text -/

/-- The runs of digits in a text, as integers. -/
def integersIn (text : List Char) : List Nat :=
  ((text.splitOnP fun c => !c.isDigit).filter fun run => !run.isEmpty).map digitsValue

theorem integersIn_cons {c : Char} (other : c.isDigit = false) (text : List Char) :
    integersIn (c :: text) = integersIn text := by
  have separates : (!c.isDigit) = true := by rw [other, Bool.not_false]
  rw [integersIn, List.splitOnP_cons_eq_if_modifyHead, if_pos separates,
    List.filter_cons_of_neg (by simp), integersIn]

theorem integersIn_digits {run text : List Char} (filled : run ≠ [])
    (all : ∀ c ∈ run, c.isDigit = true) (stops : Stops Char.isDigit text) :
    integersIn (run ++ text) = digitsValue run :: integersIn text := by
  have inside : ∀ c ∈ run, (!c.isDigit) = false := by
    intro c member
    rw [all c member, Bool.not_true]
  have kept (runs : List (List Char)) : (run :: runs).filter (fun run => !run.isEmpty) =
      run :: runs.filter fun run => !run.isEmpty :=
    List.filter_cons_of_pos (by simp [filled])
  cases text with
  | nil =>
    rw [List.append_nil, integersIn, List.splitOnP_eq_singleton inside, kept]
    rfl
  | cons c text =>
    have other := stops_cons.mp stops
    have separates : (!c.isDigit) = true := by rw [other, Bool.not_false]
    rw [integersIn_cons other, integersIn,
      List.splitOnP_append_cons_of_forall_mem inside c separates, kept, List.map_cons, integersIn]

/-! ### Numbers of a derivation -/

def Token.number? : Token → Option Float
  | number value => some value
  | _ => none

namespace Grammar

theorem number?_sign (sign : Sign) : sign.token.number? = none := by
  cases sign <;> rfl

theorem number?_operator (op : BinaryOp) : op.token.number? = none := by
  cases op <;> rfl

mutual

theorem Unary.numbers (u : Unary) : u.tokens.filterMap Token.number? = u.tree.literals := by
  cases u with
  | number value => rfl
  | signed sign operand =>
    rw [Unary.tokens, List.filterMap_cons_none (number?_sign sign), operand.numbers]
    rfl
  | group inner =>
    rw [Unary.tokens, List.filterMap_cons_none rfl, List.filterMap_append, inner.numbers]
    exact List.append_nil _
termination_by structural u

theorem Factors.numbers (factors : Factors) (left : Expr) :
    left.literals ++ factors.tokens.filterMap Token.number? = (factors.tree left).literals := by
  cases factors with
  | none => exact List.append_nil _
  | more op tight next rest =>
    rw [Factors.tokens, List.filterMap_cons_none (number?_operator op), List.filterMap_append,
      next.numbers, ← List.append_assoc]
    exact rest.numbers (.binary op left next.tree)
termination_by structural factors

theorem Product.numbers (product : Product) :
    product.tokens.filterMap Token.number? = product.tree.literals := by
  obtain ⟨first, rest⟩ := product
  rw [Product.tokens, List.filterMap_append, first.numbers]
  exact rest.numbers first.tree
termination_by structural product

theorem Terms.numbers (terms : Terms) (left : Expr) :
    left.literals ++ terms.tokens.filterMap Token.number? = (terms.tree left).literals := by
  cases terms with
  | none => exact List.append_nil _
  | more op loose next rest =>
    rw [Terms.tokens, List.filterMap_cons_none (number?_operator op), List.filterMap_append,
      next.numbers, ← List.append_assoc]
    exact rest.numbers (.binary op left next.tree)
termination_by structural terms

/-- The numbers among the tokens are the literals of the tree. -/
theorem Sum.numbers (sum : Sum) : sum.tokens.filterMap Token.number? = sum.tree.literals := by
  obtain ⟨first, rest⟩ := sum
  rw [Sum.tokens, List.filterMap_append, first.numbers]
  exact rest.numbers first.tree
termination_by structural sum

end

end Grammar

theorem isDigit_of_isLiteralChar {c : Char} (other : Number.isLiteralChar c = false) :
    c.isDigit = false := by
  rw [Number.isLiteralChar, Bool.or_eq_false_iff] at other
  exact other.1

theorem isDigit_of_symbol? {c : Char} {token : Token} (written : token.symbol? = some c) :
    c.isDigit = false := by
  cases token <;> cases written <;> rfl

/-- Without points, the numbers that a text spells are the integers in it. -/
theorem Spells.numbers {text : List Char} {tokens : List Token} (spells : Spells text tokens)
    (pointless : '.' ∉ text) :
    tokens.filterMap Token.number? =
      (integersIn text).map fun n => Float.ofScientific n true 0 := by
  induction spells with
  | done => rfl
  | blank blank _ ih =>
    rw [integersIn_cons (isDigit_of_isLiteralChar (isLiteralChar_of_isBlank blank))]
    exact ih (List.not_mem_of_not_mem_cons pointless)
  | @symbol c token text tokens written _ ih =>
    have other : token.number? = none := by cases token <;> first | rfl | cases written
    rw [integersIn_cons (isDigit_of_symbol? written), List.filterMap_cons_none other]
    exact ih (List.not_mem_of_not_mem_cons pointless)
  | @number run text tokens literal stops _ ih =>
    rw [List.mem_append, not_or] at pointless
    -- A literal without a point is a run of digits, and no digit stands behind it.
    have all : ∀ c ∈ run, c.isDigit = true := by
      intro c member
      refine (literal.chars c member).resolve_right ?_
      rintro rfl
      exact pointless.1 member
    have filled : run ≠ [] := (Number.isLiteral_digits_iff all).mp literal
    have behind : Stops Char.isDigit text := fun c member =>
      isDigit_of_isLiteralChar (stops c member)
    rw [integersIn_digits filled all behind, List.map_cons, ← ih pointless.2,
      Number.literalValue_digits all, Number.ofParts, List.append_nil]
    rfl

/-! ### The expression in a text -/

namespace IntExpr

/-- The text derives the tree of the expression, and its literals are the integers in the text. -/
structure WrittenIn (text : List Char) (t : IntExpr) : Prop where
  derived : ∃ sum : Grammar.Sum, Spells text sum.tokens ∧ sum.tree = t.tree
  literals : t.literals = integersIn text

theorem literals_tree (t : IntExpr) :
    t.tree.literals = t.literals.map fun n => Float.ofScientific n true 0 := by
  induction t with
  | literal n => rfl
  | signed sign operand ih => exact ih
  | binary op left right ihLeft ihRight =>
    rw [literals, List.map_append, ← ihLeft, ← ihRight]
    rfl

/-- A tree whose literals are integers is that of an expression of these integers. -/
theorem exists_of_literals {e : Expr} {ns : List Nat}
    (integers : e.literals = ns.map fun n => Float.ofScientific n true 0) :
    ∃ t : IntExpr, t.tree = e ∧ t.literals = ns := by
  induction e generalizing ns with
  | literal value =>
    obtain ⟨n, rfl, rfl⟩ := List.map_eq_singleton_iff.mp integers.symm
    exact ⟨.literal n, rfl, rfl⟩
  | signed sign operand ih =>
    obtain ⟨t, rfl, rfl⟩ := ih integers
    exact ⟨.signed sign t, rfl, rfl⟩
  | binary op left right ihLeft ihRight =>
    obtain ⟨front, back, rfl, leftIntegers, rightIntegers⟩ :=
      List.append_eq_map_iff.mp integers
    obtain ⟨t, rfl, rfl⟩ := ihLeft leftIntegers.symm
    obtain ⟨t', rfl, rfl⟩ := ihRight rightIntegers.symm
    exact ⟨.binary op t t', rfl, rfl⟩

/-- Trees and literals determine an expression. -/
theorem eq_of_tree {t t' : IntExpr} (tree : t.tree = t'.tree)
    (literals : t.literals = t'.literals) : t = t' := by
  induction t generalizing t' with
  | literal n =>
    cases t' with
    | literal n' => exact congrArg literal (List.singleton_inj.mp literals)
    | signed | binary => cases tree
  | signed sign operand ih =>
    cases t' with
    | signed sign' operand' =>
      obtain ⟨rfl, inner⟩ := Expr.signed.inj tree
      rw [ih inner literals]
    | literal | binary => cases tree
  | binary op left right ihLeft ihRight =>
    cases t' with
    | binary op' left' right' =>
      obtain ⟨rfl, leftTree, rightTree⟩ := Expr.binary.inj tree
      -- Equal trees have equally many literals.
      have count : left.literals.length = left'.literals.length := by
        have same := congrArg (fun e => e.literals.length) leftTree
        simpa only [literals_tree, List.length_map] using same
      obtain ⟨leftLiterals, rightLiterals⟩ := List.append_inj literals count
      rw [ihLeft leftTree leftLiterals, ihRight rightTree rightLiterals]
    | literal | signed => cases tree

variable {text : List Char} {t t' : IntExpr}

theorem exists_writtenIn {sum : Grammar.Sum} (spells : Spells text sum.tokens)
    (pointless : '.' ∉ text) : ∃ t, WrittenIn text t ∧ t.tree = sum.tree := by
  have integers := spells.numbers pointless
  rw [sum.numbers] at integers
  obtain ⟨t, tree, literals⟩ := exists_of_literals integers
  exact ⟨t, ⟨⟨sum, spells, tree.symm⟩, literals⟩, tree⟩

theorem WrittenIn.unique (written : WrittenIn text t) (written' : WrittenIn text t') : t = t' := by
  obtain ⟨⟨sum, spells, tree⟩, literals⟩ := written
  obtain ⟨⟨sum', spells', tree'⟩, literals'⟩ := written'
  obtain rfl := derivation_unique spells spells'
  exact eq_of_tree (tree.symm.trans tree') (literals.trans literals'.symm)

end IntExpr

/-- A text without points that has a value writes one expression of integers, and has its value. -/
theorem Expr.exactly_evaluate {text : String} {x : Float} (value : Expr.evaluate text = .ok x)
    (pointless : '.' ∉ text.toList) :
    ∃ t : IntExpr, (∀ other, IntExpr.WrittenIn text.toList other ↔ other = t) ∧
      ∀ v, t.value? = some v → Exactly x v := by
  obtain ⟨e, parsed, rfl⟩ := Expr.evaluate_eq_ok_iff.mp value
  obtain ⟨sum, spells, -, rfl⟩ := parse_eq_ok_iff_derivation.mp parsed
  obtain ⟨t, written, tree⟩ := IntExpr.exists_writtenIn spells pointless
  refine ⟨t, fun other => ⟨fun also => also.unique written, ?_⟩, fun v integer => ?_⟩
  · rintro rfl
    exact written
  · rw [← tree]
    exact IntExpr.exactly_eval integer

end DiceChat
