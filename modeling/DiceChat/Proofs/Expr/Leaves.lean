import DiceChat.Proofs.Expr.Grammar

/-!
# How deep the numbers of a text lie

The leaves of a tree are the numbers of its text, in their order. How many operations lie over a
number can be read off the tokens around it, without the tree: a sign or an operator in front takes
it in unless the right operand has ended by then, an operator behind unless the left operand starts
later. Parentheses elsewhere do not matter, and those around the number are left one by one.

## Main results

* `Expr.height_le_iff`: the height of a tree by the depths of its leaves.
* `Grammar.Sum.operationsAround_tokens`: the depths of the leaves by the tokens.

## Proof strategy

A derivation is walked over with what stands in front of it and behind it. Each production says what
its parts have around them (`Around`), and one walk over all of them adds this up.
-/

namespace DiceChat

namespace Expr

/-- The numbers of operations over the leaves, from left to right. -/
def depths : Expr → List Nat
  | literal _ => [0]
  | signed _ operand => operand.depths.map (· + 1)
  | binary _ left right => (left.depths ++ right.depths).map (· + 1)

theorem depth_lt_height {e : Expr} {depth : Nat} (found : depth ∈ e.depths) :
    depth < e.height := by
  induction e generalizing depth with
  | literal value => simp_all [depths, height]
  | signed sign operand ih =>
    obtain ⟨below, leaf, rfl⟩ := List.mem_map.mp found
    exact Nat.succ_lt_succ (ih leaf)
  | binary op left right ihLeft ihRight =>
    obtain ⟨below, leaf, rfl⟩ := List.mem_map.mp found
    refine Nat.succ_lt_succ ?_
    rcases List.mem_append.mp leaf with leaf | leaf
    · exact Nat.lt_of_lt_of_le (ihLeft leaf) (Nat.le_max_left _ _)
    · exact Nat.lt_of_lt_of_le (ihRight leaf) (Nat.le_max_right _ _)

/-- The longest path ends in a leaf. -/
theorem exists_deepest (e : Expr) : ∃ depth ∈ e.depths, e.height = depth + 1 := by
  induction e with
  | literal value => simp [depths, height]
  | signed sign operand ih =>
    obtain ⟨depth, leaf, deepest⟩ := ih
    exact ⟨depth + 1, List.mem_map_of_mem leaf, by rw [height, deepest]⟩
  | binary op left right ihLeft ihRight =>
    obtain ⟨depth, leaf, deepest⟩ := ihLeft
    obtain ⟨depth', leaf', deepest'⟩ := ihRight
    rcases Nat.le_total left.height right.height with lower | lower
    · refine ⟨depth' + 1, List.mem_map_of_mem (List.mem_append_right _ leaf'), ?_⟩
      rw [height, Nat.max_eq_right lower, deepest']
    · refine ⟨depth + 1, List.mem_map_of_mem (List.mem_append_left _ leaf), ?_⟩
      rw [height, Nat.max_eq_left lower, deepest]

theorem height_le_iff {e : Expr} {bound : Nat} :
    e.height ≤ bound ↔ ∀ depth ∈ e.depths, depth < bound := by
  constructor
  · intro low depth leaf
    exact Nat.lt_of_lt_of_le (depth_lt_height leaf) low
  · intro low
    obtain ⟨depth, leaf, deepest⟩ := e.exists_deepest
    rw [deepest]
    exact low depth leaf

end Expr

/-! ### Operations around a number -/

/-- What a token is to an expression. -/
inductive Role where
  | number
  | opening
  | closing
  | sign
  | operator (precedence : Precedence)
deriving DecidableEq

namespace Role

/-- The roles of tokens. A plus or minus is an operator if an operand has `ended` in front of it. -/
def ofTokens (ended : Bool) : List Token → List Role
  | [] => []
  | .number _ :: rest => number :: ofTokens true rest
  | .leftParenthesis :: rest => opening :: ofTokens false rest
  | .rightParenthesis :: rest => closing :: ofTokens true rest
  | t :: rest => (if ended then operator t.precedence else sign) :: ofTokens false rest

/-- The operations in front of a number that it is an operand of, the nearest first. In the same
parentheses these are the signs up to the nearest operator, and the operators that are looser than
all nearer ones. `inside` counts the parentheses that lie in between, and `near` is the loosest
operator so far. -/
def before (inside : Nat) (near : Precedence) : List Role → Nat
  | [] => 0
  | closing :: rest => before (inside + 1) near rest
  | opening :: rest =>
    match inside with
    | 0 => before 0 .sign rest
    | inside + 1 => before inside near rest
  | sign :: rest =>
    if inside = 0 ∧ near = .sign then before inside near rest + 1 else before inside near rest
  | operator precedence :: rest =>
    if inside = 0 ∧ precedence.rank < near.rank then before inside precedence rest + 1
    else before inside near rest
  | number :: rest => before inside near rest

/-- The operations behind a number that it is an operand of. In the same parentheses these are the
operators that are no tighter than any nearer one. -/
def after (inside : Nat) (near : Precedence) : List Role → Nat
  | [] => 0
  | opening :: rest => after (inside + 1) near rest
  | closing :: rest =>
    match inside with
    | 0 => after 0 .sign rest
    | inside + 1 => after inside near rest
  | operator precedence :: rest =>
    if inside = 0 ∧ precedence.rank ≤ near.rank then after inside precedence rest + 1
    else after inside near rest
  | sign :: rest | number :: rest => after inside near rest

/-- The operations around each number, where `front` stands in front, the nearest first. -/
def operations (front : List Role) : List Role → List Nat
  | [] => []
  | number :: rest =>
    (before 0 .sign front + after 0 .sign rest) :: operations (number :: front) rest
  | role :: rest => operations (role :: front) rest

end Role

/-- The operations around each number of an expression, by its tokens. -/
def operationsAround (tokens : List Token) : List Nat :=
  Role.operations [] (Role.ofTokens false tokens)

/-! ### Roles of derivations -/

namespace Grammar

mutual

def Sum.roles : Sum → List Role
  | .mk first rest => first.roles ++ rest.roles

def Terms.roles : Terms → List Role
  | .none => []
  | .more op _ next rest => .operator op.precedence :: (next.roles ++ rest.roles)

def Product.roles : Product → List Role
  | .mk first rest => first.roles ++ rest.roles

def Factors.roles : Factors → List Role
  | .none => []
  | .more op _ next rest => .operator op.precedence :: (next.roles ++ rest.roles)

def Unary.roles : Unary → List Role
  | .number _ => [.number]
  | .signed _ operand => .sign :: operand.roles
  | .group inner => .opening :: (inner.roles ++ [.closing])

end

theorem ofTokens_operator (op : BinaryOp) (rest : List Token) :
    Role.ofTokens true (op.token :: rest) =
      .operator op.precedence :: Role.ofTokens false rest := by
  cases op <;> rfl

mutual

theorem Sum.ofTokens_tokens (sum : Sum) (rest : List Token) :
    Role.ofTokens false (sum.tokens ++ rest) = sum.roles ++ Role.ofTokens true rest := by
  obtain ⟨first, terms⟩ := sum
  simp only [Sum.tokens, Sum.roles, List.append_assoc, first.ofTokens_tokens, terms.ofTokens_tokens]

theorem Terms.ofTokens_tokens (terms : Terms) (rest : List Token) :
    Role.ofTokens true (terms.tokens ++ rest) = terms.roles ++ Role.ofTokens true rest := by
  cases terms with
  | none => rfl
  | more op loose next more =>
    simp only [Terms.tokens, Terms.roles, List.cons_append, List.append_assoc, ofTokens_operator,
      next.ofTokens_tokens, more.ofTokens_tokens]

theorem Product.ofTokens_tokens (product : Product) (rest : List Token) :
    Role.ofTokens false (product.tokens ++ rest) = product.roles ++ Role.ofTokens true rest := by
  obtain ⟨first, factors⟩ := product
  simp only [Product.tokens, Product.roles, List.append_assoc, first.ofTokens_tokens,
    factors.ofTokens_tokens]

theorem Factors.ofTokens_tokens (factors : Factors) (rest : List Token) :
    Role.ofTokens true (factors.tokens ++ rest) = factors.roles ++ Role.ofTokens true rest := by
  cases factors with
  | none => rfl
  | more op tight next more =>
    simp only [Factors.tokens, Factors.roles, List.cons_append, List.append_assoc,
      ofTokens_operator, next.ofTokens_tokens, more.ofTokens_tokens]

theorem Unary.ofTokens_tokens (u : Unary) (rest : List Token) :
    Role.ofTokens false (u.tokens ++ rest) = u.roles ++ Role.ofTokens true rest := by
  cases u with
  | number value => rfl
  | signed sign operand =>
    have later := operand.ofTokens_tokens rest
    cases sign <;>
      simp [Unary.tokens, Unary.roles, Sign.token, Role.ofTokens, later]
  | group inner =>
    simp [Unary.tokens, Unary.roles, Role.ofTokens, inner.ofTokens_tokens]

end

end Grammar

/-! ### What lies in parentheses -/

namespace Role

variable {roles more : List Role}

/-- Parentheses are passed with all that they hold. -/
structure Closed (roles : List Role) : Prop where
  before : ∀ inside near rest,
    before (inside + 1) near (roles.reverse ++ rest) = before (inside + 1) near rest
  after : ∀ inside near rest,
    after (inside + 1) near (roles ++ rest) = after (inside + 1) near rest

theorem Closed.append (first : Closed roles) (second : Closed more) : Closed (roles ++ more) where
  before inside near rest := by
    rw [List.reverse_append, List.append_assoc, second.before, first.before]
  after inside near rest := by rw [List.append_assoc, first.after, second.after]

theorem closed_nil : Closed [] :=
  ⟨fun _ _ _ => rfl, fun _ _ _ => rfl⟩

theorem closed_number : Closed [number] :=
  ⟨fun _ _ _ => rfl, fun _ _ _ => rfl⟩

theorem closed_sign : Closed [sign] :=
  ⟨fun _ _ _ => by simp [Role.before], fun _ _ _ => rfl⟩

theorem closed_operator (precedence : Precedence) : Closed [operator precedence] :=
  ⟨fun _ _ _ => by simp [Role.before], fun _ _ _ => by simp [Role.after]⟩

theorem Closed.group (held : Closed roles) : Closed (opening :: (roles ++ [closing])) where
  before inside near rest := by simp [Role.before, held.before]
  after inside near rest := by simp [Role.after, held.after]

end Role

namespace Grammar

open Role

variable {front back rest : List Role} {near : Precedence} {m n : Nat}

mutual

theorem Sum.closed (sum : Sum) : Closed sum.roles := by
  obtain ⟨first, terms⟩ := sum
  exact first.closed.append terms.closed

theorem Terms.closed (terms : Terms) : Closed terms.roles := by
  cases terms with
  | none => exact closed_nil
  | more op loose next rest =>
    exact (closed_operator _).append (next.closed.append rest.closed)

theorem Product.closed (product : Product) : Closed product.roles := by
  obtain ⟨first, factors⟩ := product
  exact first.closed.append factors.closed

theorem Factors.closed (factors : Factors) : Closed factors.roles := by
  cases factors with
  | none => exact closed_nil
  | more op tight next rest =>
    exact (closed_operator _).append (next.closed.append rest.closed)

theorem Unary.closed (u : Unary) : Closed u.roles := by
  cases u with
  | number value => exact closed_number
  | signed sign operand => exact closed_sign.append operand.closed
  | group inner => exact inner.closed.group

end

/-! ### What is passed on the way -/

/-- From an operator behind it, no operation within an operand is met. -/
theorem Unary.before_passed (u : Unary) (loose : near.rank ≤ Precedence.product.rank)
    (rest : List Role) : before 0 near (u.roles.reverse ++ rest) = before 0 near rest := by
  cases u with
  | number value => rfl
  | signed sign operand =>
    have other : near ≠ .sign := by
      rintro rfl
      exact absurd loose (by decide)
    rw [Unary.roles, List.reverse_cons, List.append_assoc, operand.before_passed loose]
    simp [before, other]
  | group inner => simp [Unary.roles, before, inner.closed.before]
termination_by structural u

theorem Unary.after_passed (u : Unary) (near : Precedence) (rest : List Role) :
    after 0 near (u.roles ++ rest) = after 0 near rest := by
  cases u with
  | number value => rfl
  | signed sign operand => exact operand.after_passed near rest
  | group inner => simp [Unary.roles, after, inner.closed.after]
termination_by structural u

theorem Factors.before_passed (factors : Factors) (loose : near.rank ≤ Precedence.product.rank)
    (rest : List Role) : before 0 near (factors.roles.reverse ++ rest) = before 0 near rest := by
  cases factors with
  | none => rfl
  | more op tight next more =>
    simp only [Factors.roles, List.reverse_cons, List.reverse_append, List.append_assoc,
      more.before_passed loose, next.before_passed loose]
    simp [before, tight, Nat.not_lt.mpr loose]
termination_by structural factors

theorem Factors.after_passed (factors : Factors) (loose : near.rank ≤ Precedence.sum.rank)
    (rest : List Role) : after 0 near (factors.roles ++ rest) = after 0 near rest := by
  cases factors with
  | none => rfl
  | more op tight next more =>
    have tighter : ¬Precedence.product.rank ≤ near.rank :=
      Nat.not_le.mpr (Nat.lt_of_le_of_lt loose (by decide))
    simp [Factors.roles, after, tight, tighter, next.after_passed, more.after_passed loose]
termination_by structural factors

theorem Product.before_passed (product : Product) (loose : near.rank ≤ Precedence.product.rank)
    (rest : List Role) : before 0 near (product.roles.reverse ++ rest) = before 0 near rest := by
  obtain ⟨first, factors⟩ := product
  rw [Product.roles, List.reverse_append, List.append_assoc, factors.before_passed loose,
    first.before_passed loose]

theorem Product.after_passed (product : Product) (loose : near.rank ≤ Precedence.sum.rank)
    (rest : List Role) : after 0 near (product.roles ++ rest) = after 0 near rest := by
  obtain ⟨first, factors⟩ := product
  rw [Product.roles, List.append_assoc, first.after_passed, factors.after_passed loose]

/-- Behind an operand of an operator that is tighter than `precedence`, `n` operations take it
in. -/
def Ends (precedence : Precedence) (back : List Role) (n : Nat) : Prop :=
  ∀ near : Precedence, precedence.rank < near.rank → after 0 near back = n

/-- From an operand in front, all factors of the product are met. -/
theorem Factors.ends_roles (factors : Factors) (ends : Ends .sum rest n) :
    Ends .sum (factors.roles ++ rest) (factors.count + n) := by
  intro near tight
  cases factors with
  | none => simpa [Factors.roles, Factors.count] using ends near tight
  | more op precedence next more =>
    have later := more.ends_roles ends .product (by decide)
    have met : Precedence.product.rank ≤ near.rank := tight
    simp [Factors.roles, Factors.count, after, precedence, met, next.after_passed, later,
      Nat.add_right_comm]
termination_by structural factors

theorem Terms.ends_roles (terms : Terms) (ends : Ends .lowest rest n) :
    Ends .lowest (terms.roles ++ rest) (terms.count + n) := by
  intro near tight
  cases terms with
  | none => simpa [Terms.roles, Terms.count] using ends near tight
  | more op precedence next more =>
    have later := more.ends_roles ends .sum (by decide)
    have met : Precedence.sum.rank ≤ near.rank := tight
    simp [Terms.roles, Terms.count, after, precedence, met, next.after_passed, later,
      Nat.add_right_comm]
termination_by structural terms

/-! ### Depths -/

def Terms.depths : Terms → List Nat
  | .none => []
  | .more _ _ next rest => next.tree.depths.map (· + (1 + rest.count)) ++ rest.depths

def Factors.depths : Factors → List Nat
  | .none => []
  | .more _ _ next rest => next.tree.depths.map (· + (1 + rest.count)) ++ rest.depths

theorem Terms.depths_tree (terms : Terms) (left : Expr) :
    (terms.tree left).depths = left.depths.map (· + terms.count) ++ terms.depths := by
  cases terms with
  | none => simp [Terms.tree, Terms.count, Terms.depths]
  | more op loose next rest =>
    have joined := rest.depths_tree (.binary op left next.tree)
    simp [Terms.tree, Terms.count, Terms.depths, Expr.depths, joined, Function.comp_def,
      Nat.add_comm 1, Nat.add_assoc]
termination_by structural terms

theorem Factors.depths_tree (factors : Factors) (left : Expr) :
    (factors.tree left).depths = left.depths.map (· + factors.count) ++ factors.depths := by
  cases factors with
  | none => simp [Factors.tree, Factors.count, Factors.depths]
  | more op tight next rest =>
    have joined := rest.depths_tree (.binary op left next.tree)
    simp [Factors.tree, Factors.count, Factors.depths, Expr.depths, joined, Function.comp_def,
      Nat.add_comm 1, Nat.add_assoc]
termination_by structural factors

/-! ### What stands around the parts of a derivation -/

/-- Around an operand of an operator that is tighter than `precedence`, `m` operations in front take
it in, and `n` behind. -/
structure Around (precedence : Precedence) (front back : List Role) (m n : Nat) : Prop where
  starts : ∀ near : Precedence, precedence.rank < near.rank → before 0 near front = m
  ends : Ends precedence back n

/-- What is tighter than a product is tighter than a sum as well, and so on. -/
theorem Ends.tighter {precedence tighter : Precedence} (ends : Ends precedence back n)
    (le : precedence.rank ≤ tighter.rank) : Ends tighter back n :=
  fun near tight => ends near (Nat.lt_of_le_of_lt le tight)

theorem Around.firstProduct (around : Around .lowest front back m n) (terms : Terms) :
    Around .sum front (terms.roles ++ back) m (terms.count + n) where
  starts near tight := around.starts near (Nat.lt_trans (by decide) tight)
  ends := (terms.ends_roles around.ends).tighter (by decide)

theorem Around.firstFactor (around : Around .sum front back m n) (factors : Factors) :
    Around .product front (factors.roles ++ back) m (factors.count + n) where
  starts near tight := around.starts near (Nat.lt_trans (by decide) tight)
  ends := (factors.ends_roles around.ends).tighter (by decide)

/-- A term has its operation in front of it, and all that follow behind it. -/
theorem around_term (starts : before 0 .sum front = m) (ends : Ends .lowest back n)
    (rest : Terms) :
    Around .sum (.operator .sum :: front) (rest.roles ++ back) (m + 1) (rest.count + n) where
  starts near tight := by simp [before, tight, starts]
  ends := (rest.ends_roles ends).tighter (by decide)

theorem around_factor (starts : before 0 .product front = m) (ends : Ends .sum back n)
    (rest : Factors) :
    Around .product (.operator .product :: front) (rest.roles ++ back) (m + 1)
      (rest.count + n) where
  starts near tight := by simp [before, tight, starts]
  ends := (rest.ends_roles ends).tighter (by decide)

theorem Around.signed (around : Around .product front back m n) :
    Around .product (.sign :: front) back (m + 1) n where
  starts near tight := by
    -- Nothing but a sign is tighter than a product.
    obtain rfl : near = .sign := by cases near <;> simp_all [Precedence.rank]
    simp [before, around.starts .sign tight]
  ends := around.ends

/-- In parentheses, nothing has been met on either side. -/
theorem Around.group (around : Around .product front back m n) :
    Around .lowest (.opening :: front) (.closing :: back) m n where
  starts _ _ := around.starts .sign (by decide)
  ends _ _ := around.ends .sign (by decide)

/-! ### All numbers of a derivation -/

mutual

theorem Sum.operations_roles (sum : Sum) {front back : List Role} {m n : Nat}
    (around : Around .lowest front back m n) :
    operations front (sum.roles ++ back) =
      sum.tree.depths.map (· + (m + n)) ++ operations (sum.roles.reverse ++ front) back := by
  obtain ⟨first, terms⟩ := sum
  have passed : before 0 .sum (first.roles.reverse ++ front) = m := by
    rw [first.before_passed (by decide)]
    exact around.starts .sum (by decide)
  simp only [Sum.roles, Sum.tree, terms.depths_tree, List.append_assoc, List.reverse_append,
    first.operations_roles (around.firstProduct terms),
    terms.operations_roles passed around.ends, List.map_append, List.map_map]
  simp [Function.comp_def, Nat.add_assoc, Nat.add_left_comm]
termination_by structural sum

theorem Terms.operations_roles (terms : Terms) {front back : List Role} {m n : Nat}
    (starts : before 0 .sum front = m) (ends : Ends .lowest back n) :
    operations front (terms.roles ++ back) =
      terms.depths.map (· + (m + n)) ++ operations (terms.roles.reverse ++ front) back := by
  cases terms with
  | none => rfl
  | more op loose next more =>
    -- Farther behind, this operation is as loose as the next one and takes nothing in.
    have passed : before 0 .sum (next.roles.reverse ++ .operator .sum :: front) = m := by
      rw [next.before_passed (by decide)]
      simpa [before] using starts
    simp only [Terms.roles, Terms.depths, loose, List.cons_append, List.append_assoc,
      List.reverse_cons, List.reverse_append, operations,
      next.operations_roles (around_term starts ends more), more.operations_roles passed ends,
      List.map_append, List.map_map]
    simp [Function.comp_def, Nat.add_assoc, Nat.add_left_comm]
termination_by structural terms

theorem Product.operations_roles (product : Product) {front back : List Role} {m n : Nat}
    (around : Around .sum front back m n) :
    operations front (product.roles ++ back) =
      product.tree.depths.map (· + (m + n)) ++
        operations (product.roles.reverse ++ front) back := by
  obtain ⟨first, factors⟩ := product
  have passed : before 0 .product (first.roles.reverse ++ front) = m := by
    rw [first.before_passed (by decide)]
    exact around.starts .product (by decide)
  simp only [Product.roles, Product.tree, factors.depths_tree, List.append_assoc,
    List.reverse_append, first.operations_roles (around.firstFactor factors),
    factors.operations_roles passed around.ends, List.map_append, List.map_map]
  simp [Function.comp_def, Nat.add_assoc, Nat.add_left_comm]
termination_by structural product

theorem Factors.operations_roles (factors : Factors) {front back : List Role} {m n : Nat}
    (starts : before 0 .product front = m) (ends : Ends .sum back n) :
    operations front (factors.roles ++ back) =
      factors.depths.map (· + (m + n)) ++ operations (factors.roles.reverse ++ front) back := by
  cases factors with
  | none => rfl
  | more op tight next more =>
    have passed : before 0 .product (next.roles.reverse ++ .operator .product :: front) = m := by
      rw [next.before_passed (by decide)]
      simpa [before] using starts
    simp only [Factors.roles, Factors.depths, tight, List.cons_append, List.append_assoc,
      List.reverse_cons, List.reverse_append, operations,
      next.operations_roles (around_factor starts ends more), more.operations_roles passed ends,
      List.map_append, List.map_map]
    simp [Function.comp_def, Nat.add_assoc, Nat.add_left_comm]
termination_by structural factors

theorem Unary.operations_roles (u : Unary) {front back : List Role} {m n : Nat}
    (around : Around .product front back m n) :
    operations front (u.roles ++ back) =
      u.tree.depths.map (· + (m + n)) ++ operations (u.roles.reverse ++ front) back := by
  cases u with
  | number value =>
    have starts : before 0 .sign front = m := around.starts .sign (by decide)
    have ends : after 0 .sign back = n := around.ends .sign (by decide)
    simp [Unary.roles, Unary.tree, Expr.depths, operations, starts, ends]
  | signed sign operand =>
    simp only [Unary.roles, Unary.tree, Expr.depths, List.cons_append, operations,
      operand.operations_roles around.signed, List.reverse_cons, List.append_assoc, List.map_map]
    simp [Function.comp_def, Nat.add_comm, Nat.add_left_comm]
  | group inner =>
    simp only [Unary.roles, Unary.tree, List.cons_append, List.append_assoc, List.nil_append,
      operations, inner.operations_roles around.group, List.reverse_cons, List.reverse_append]
    simp
termination_by structural u

end

/-- The numbers of a text are the leaves of its tree, and the operations around each of them are
those over the leaf. -/
theorem Sum.operationsAround_tokens (sum : Sum) :
    operationsAround sum.tokens = sum.tree.depths := by
  have alone : Around .lowest [] [] 0 0 := ⟨fun _ _ => rfl, fun _ _ => rfl⟩
  have roles := sum.ofTokens_tokens []
  have depths := sum.operations_roles alone
  rw [List.append_nil] at roles depths
  rw [operationsAround, roles, Role.ofTokens, List.append_nil, depths]
  simp [Role.operations]

/-- The numbers of `2*-(3-4*5)+6`. -/
example : operationsAround
    [.number 2, .times, .minus, .leftParenthesis, .number 3, .minus, .number 4, .times, .number 5,
      .rightParenthesis, .plus, .number 6] = [2, 4, 5, 5, 1] := rfl

end Grammar
end DiceChat
