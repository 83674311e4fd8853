import DiceChat.Expr.Token

/-!
# The grammar of expressions

Derivations of

* `sum := product (('+' | '-') product)*`
* `product := unary (('*' | '/' | '%') unary)*`
* `unary := number | ('+' | '-') unary | '(' sum ')'`

with the tokens that they derive, the tree that they stand for, and the levels of nesting that
they need. A repetition folds to the left, and parentheses leave no node.

## Main results

* `Grammar.Sum.tokens_injective`: the grammar is unambiguous.
-/

namespace DiceChat

def Sign.token : Sign → Token
  | plus => .plus
  | minus => .minus

def BinaryOp.token : BinaryOp → Token
  | add => .plus
  | sub => .minus
  | mul => .times
  | div => .divide
  | rem => .modulo

namespace Grammar

mutual

/-- `product (('+' | '-') product)*` -/
inductive Sum where
  | mk (first : Product) (rest : Terms)

/-- `(('+' | '-') product)*` -/
inductive Terms where
  | none
  | more (op : BinaryOp) (loose : op.precedence = .sum) (next : Product) (rest : Terms)

/-- `unary (('*' | '/' | '%') unary)*` -/
inductive Product where
  | mk (first : Unary) (rest : Factors)

/-- `(('*' | '/' | '%') unary)*` -/
inductive Factors where
  | none
  | more (op : BinaryOp) (tight : op.precedence = .product) (next : Unary) (rest : Factors)

/-- `number | ('+' | '-') unary | '(' sum ')'` -/
inductive Unary where
  | number (value : Float)
  | signed (sign : Sign) (operand : Unary)
  | group (inner : Sum)

end

/-! ### Tokens -/

mutual

def Sum.tokens : Sum → List Token
  | .mk first rest => first.tokens ++ rest.tokens

def Terms.tokens : Terms → List Token
  | .none => []
  | .more op _ next rest => op.token :: (next.tokens ++ rest.tokens)

def Product.tokens : Product → List Token
  | .mk first rest => first.tokens ++ rest.tokens

def Factors.tokens : Factors → List Token
  | .none => []
  | .more op _ next rest => op.token :: (next.tokens ++ rest.tokens)

def Unary.tokens : Unary → List Token
  | .number value => [.number value]
  | .signed sign operand => sign.token :: operand.tokens
  | .group inner => .leftParenthesis :: (inner.tokens ++ [.rightParenthesis])

end

theorem Unary.tokens_ne_nil (u : Unary) : u.tokens ≠ [] := by
  cases u <;> simp [tokens]

theorem Product.tokens_ne_nil (product : Product) : product.tokens ≠ [] := by
  obtain ⟨first, rest⟩ := product
  simp [tokens, first.tokens_ne_nil]

theorem Sum.tokens_ne_nil (sum : Sum) : sum.tokens ≠ [] := by
  obtain ⟨first, rest⟩ := sum
  simp [tokens, first.tokens_ne_nil]

mutual

theorem Sum.endOfInput_not_mem (sum : Sum) : Token.endOfInput ∉ sum.tokens := by
  obtain ⟨first, rest⟩ := sum
  simp [Sum.tokens, first.endOfInput_not_mem, rest.endOfInput_not_mem]

theorem Terms.endOfInput_not_mem (terms : Terms) : Token.endOfInput ∉ terms.tokens := by
  cases terms with
  | none => simp [Terms.tokens]
  | more op loose next rest =>
    have operator : Token.endOfInput ≠ op.token := by cases op <;> nofun
    simp [Terms.tokens, operator, next.endOfInput_not_mem, rest.endOfInput_not_mem]

theorem Product.endOfInput_not_mem (product : Product) : Token.endOfInput ∉ product.tokens := by
  obtain ⟨first, rest⟩ := product
  simp [Product.tokens, first.endOfInput_not_mem, rest.endOfInput_not_mem]

theorem Factors.endOfInput_not_mem (factors : Factors) : Token.endOfInput ∉ factors.tokens := by
  cases factors with
  | none => simp [Factors.tokens]
  | more op tight next rest =>
    have operator : Token.endOfInput ≠ op.token := by cases op <;> nofun
    simp [Factors.tokens, operator, next.endOfInput_not_mem, rest.endOfInput_not_mem]

theorem Unary.endOfInput_not_mem (u : Unary) : Token.endOfInput ∉ u.tokens := by
  cases u with
  | number value => simp [Unary.tokens]
  | signed sign operand =>
    have other : Token.endOfInput ≠ sign.token := by cases sign <;> nofun
    simp [Unary.tokens, other, operand.endOfInput_not_mem]
  | group inner => simp [Unary.tokens, inner.endOfInput_not_mem]

end

/-! ### Trees -/

mutual

def Sum.tree : Sum → Expr
  | .mk first rest => rest.tree first.tree

/-- The operations applied to what stands before them, from left to right. -/
def Terms.tree : Terms → Expr → Expr
  | .none, left => left
  | .more op _ next rest, left => rest.tree (.binary op left next.tree)

def Product.tree : Product → Expr
  | .mk first rest => rest.tree first.tree

/-- The operations applied to what stands before them, from left to right. -/
def Factors.tree : Factors → Expr → Expr
  | .none, left => left
  | .more op _ next rest, left => rest.tree (.binary op left next.tree)

def Unary.tree : Unary → Expr
  | .number value => .literal value
  | .signed sign operand => .signed sign operand.tree
  | .group inner => inner.tree

end

/-! ### Levels -/

/-- The number of operations. -/
def Terms.count : Terms → Nat
  | .none => 0
  | .more _ _ _ rest => rest.count + 1

/-- The number of operations. -/
def Factors.count : Factors → Nat
  | .none => 0
  | .more _ _ _ rest => rest.count + 1

/-- The number of operations. -/
def Product.count : Product → Nat
  | .mk _ rest => rest.count

mutual

/-- The operations of the first product and those on it are folded by one loop. -/
def Sum.need : Sum → Nat
  | .mk first rest => max first.need (rest.need first.count)

/-- Levels for the right operands when `before` operations came before in the loop: the operand of
the `i`-th operation needs `1 + i` levels above its own. -/
def Terms.need : Terms → Nat → Nat
  | .none, _ => 0
  | .more _ _ next rest, before => max (1 + (before + 1) + next.need) (rest.need (before + 1))

def Product.need : Product → Nat
  | .mk first rest => max first.need (rest.need 0)

/-- Levels for the right operands when `before` operations came before in the loop: the operand of
the `i`-th operation needs `1 + i` levels above its own. -/
def Factors.need : Factors → Nat → Nat
  | .none, _ => 0
  | .more _ _ next rest, before => max (1 + (before + 1) + next.need) (rest.need (before + 1))

/-- A sign and a parenthesis take one level, and so does a number. -/
def Unary.need : Unary → Nat
  | .number _ => 1
  | .signed _ operand => 1 + operand.need
  | .group inner => 1 + inner.need

end

/-! ### Unambiguity -/

/-- The rest does not go on with an operator that binds tighter than `precedence`. -/
def Loose (precedence : Precedence) (rest : List Token) : Prop :=
  ∀ t ∈ rest.head?, t.precedence.rank ≤ precedence.rank

theorem loose_nil (precedence : Precedence) : Loose precedence [] :=
  nofun

theorem loose_cons {precedence : Precedence} {t : Token} {rest : List Token} :
    Loose precedence (t :: rest) ↔ t.precedence.rank ≤ precedence.rank := by
  simp [Loose]

@[simp] theorem operator?_token (op : BinaryOp) : op.token.operator? = some op := by
  cases op <;> rfl

theorem eq_token_of_operator? {t : Token} {op : BinaryOp} (found : t.operator? = some op) :
    t = op.token := by
  cases t <;> cases found <;> rfl

@[simp] theorem precedence_token (op : BinaryOp) : op.token.precedence = op.precedence := by
  rw [Token.precedence, operator?_token]

theorem token_injective {op op' : BinaryOp} (same : op.token = op'.token) : op = op' := by
  rw [← Option.some.injEq, ← operator?_token, ← operator?_token, same]

theorem not_loose_token {precedence : Precedence} {op : BinaryOp} {rest : List Token}
    (tighter : precedence.rank < op.precedence.rank) : ¬Loose precedence (op.token :: rest) := by
  rw [loose_cons, precedence_token]
  omega

theorem Terms.loose (terms : Terms) {rest : List Token} (ends : Loose .lowest rest) :
    Loose .sum (terms.tokens ++ rest) := by
  cases terms with
  | none =>
    intro t member
    have low := ends t member
    simp only [Precedence.rank] at *
    omega
  | more op loose next more =>
    rw [tokens, List.cons_append, loose_cons, precedence_token]
    exact Nat.le_of_eq (congrArg Precedence.rank loose)

mutual

/-- What a derivation leaves behind it is determined by what stands behind it. -/
theorem Sum.tokens_append_inj (one other : Sum) {rest rest' : List Token}
    (ends : Loose .lowest rest) (ends' : Loose .lowest rest')
    (same : one.tokens ++ rest = other.tokens ++ rest') : one = other ∧ rest = rest' := by
  obtain ⟨first, terms⟩ := one
  obtain ⟨first', terms'⟩ := other
  simp only [Sum.tokens, List.append_assoc] at same
  -- Both products end at the first loose operator outside of parentheses, or with the sum.
  obtain ⟨rfl, sameTerms⟩ := first.tokens_append_inj first' (terms.loose ends) (terms'.loose ends')
    same
  obtain ⟨rfl, sameRest⟩ := terms.tokens_append_inj terms' ends ends' sameTerms
  exact ⟨rfl, sameRest⟩
termination_by structural one

theorem Terms.tokens_append_inj (one other : Terms) {rest rest' : List Token}
    (ends : Loose .lowest rest) (ends' : Loose .lowest rest')
    (same : one.tokens ++ rest = other.tokens ++ rest') : one = other ∧ rest = rest' := by
  cases one with
  | none =>
    cases other with
    | none => exact ⟨rfl, same⟩
    | more op loose next more =>
      -- The rest behind no terms would start with the operator of the other's first term.
      simp only [Terms.tokens, List.nil_append, List.cons_append] at same
      rw [same] at ends
      exact absurd ends (not_loose_token (by rw [loose]; decide))
  | more op loose next more =>
    cases other with
    | none =>
      simp only [Terms.tokens, List.nil_append, List.cons_append] at same
      rw [← same] at ends'
      exact absurd ends' (not_loose_token (by rw [loose]; decide))
    | more op' loose' next' more' =>
      simp only [Terms.tokens, List.cons_append, List.append_assoc, List.cons.injEq] at same
      obtain ⟨sameOp, sameNext⟩ := same
      obtain rfl := token_injective sameOp
      obtain ⟨rfl, sameMore⟩ := next.tokens_append_inj next' (more.loose ends) (more'.loose ends')
        sameNext
      obtain ⟨rfl, sameRest⟩ := more.tokens_append_inj more' ends ends' sameMore
      exact ⟨rfl, sameRest⟩
termination_by structural one

theorem Product.tokens_append_inj (one other : Product) {rest rest' : List Token}
    (ends : Loose .sum rest) (ends' : Loose .sum rest')
    (same : one.tokens ++ rest = other.tokens ++ rest') : one = other ∧ rest = rest' := by
  obtain ⟨first, factors⟩ := one
  obtain ⟨first', factors'⟩ := other
  simp only [Product.tokens, List.append_assoc] at same
  obtain ⟨rfl, sameFactors⟩ := first.tokens_append_inj first' same
  obtain ⟨rfl, sameRest⟩ := factors.tokens_append_inj factors' ends ends' sameFactors
  exact ⟨rfl, sameRest⟩
termination_by structural one

theorem Factors.tokens_append_inj (one other : Factors) {rest rest' : List Token}
    (ends : Loose .sum rest) (ends' : Loose .sum rest')
    (same : one.tokens ++ rest = other.tokens ++ rest') : one = other ∧ rest = rest' := by
  cases one with
  | none =>
    cases other with
    | none => exact ⟨rfl, same⟩
    | more op tight next more =>
      simp only [Factors.tokens, List.nil_append, List.cons_append] at same
      rw [same] at ends
      exact absurd ends (not_loose_token (by rw [tight]; decide))
  | more op tight next more =>
    cases other with
    | none =>
      simp only [Factors.tokens, List.nil_append, List.cons_append] at same
      rw [← same] at ends'
      exact absurd ends' (not_loose_token (by rw [tight]; decide))
    | more op' tight' next' more' =>
      simp only [Factors.tokens, List.cons_append, List.append_assoc, List.cons.injEq] at same
      obtain ⟨sameOp, sameNext⟩ := same
      obtain rfl := token_injective sameOp
      obtain ⟨rfl, sameMore⟩ := next.tokens_append_inj next' sameNext
      obtain ⟨rfl, sameRest⟩ := more.tokens_append_inj more' ends ends' sameMore
      exact ⟨rfl, sameRest⟩
termination_by structural one

theorem Unary.tokens_append_inj (one other : Unary) {rest rest' : List Token}
    (same : one.tokens ++ rest = other.tokens ++ rest') : one = other ∧ rest = rest' := by
  cases one with
  | number x =>
    cases other with
    | number y =>
      simp only [Unary.tokens, List.cons_append, List.nil_append, List.cons.injEq,
        Token.number.injEq] at same
      exact ⟨by rw [same.1], same.2⟩
    | signed sign operand => cases sign <;> cases same
    | group inner => cases same
  | signed sign operand =>
    cases other with
    | number y => cases sign <;> cases same
    | signed sign' operand' =>
      simp only [Unary.tokens, List.cons_append, List.cons.injEq] at same
      obtain ⟨rfl, sameRest⟩ := operand.tokens_append_inj operand' same.2
      obtain rfl : sign = sign' := by
        have sameSign := same.1
        cases sign <;> cases sign' <;> first | rfl | cases sameSign
      exact ⟨rfl, sameRest⟩
    | group inner => cases sign <;> cases same
  | group inner =>
    cases other with
    | number y => cases same
    | signed sign operand => cases sign <;> cases same
    | group inner' =>
      simp only [Unary.tokens, List.cons_append, List.append_assoc, List.cons.injEq, true_and,
        List.nil_append] at same
      -- A closing parenthesis is no operator, so both sums end there.
      obtain ⟨rfl, sameRest⟩ := inner.tokens_append_inj inner' (loose_cons.mpr (by decide))
        (loose_cons.mpr (by decide)) same
      rw [List.cons.injEq] at sameRest
      exact ⟨rfl, sameRest.2⟩
termination_by structural one

end

/-- No list of tokens has two derivations. -/
theorem Sum.tokens_injective : Function.Injective Sum.tokens := by
  intro one other same
  have alike : one.tokens ++ [] = other.tokens ++ [] := by rw [same]
  exact (one.tokens_append_inj other (loose_nil _) (loose_nil _) alike).1

end Grammar
end DiceChat
