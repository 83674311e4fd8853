import Mathlib.Tactic.Ring
import DiceChat.Proofs.Expr.Text

/-!
# The height of accepted trees

The parser charges an operation to its right operand only: the levels spent on the left operand
are given back before the operation is joined on. The tree puts the operation above both operands.
So the height of an accepted tree is not bounded by the levels, but by the sum of what all loops
from the outermost parenthesis to the innermost can put on top of one another.

## Main results

* `Grammar.Sum.height_tree`: the height of a tree, operand by operand.
* `Grammar.Sum.height_le_tallest`: a derivation within given levels has a tree of bounded height.
-/

namespace DiceChat
namespace Grammar

/-! ### Heights of operands -/

mutual

def Sum.height : Sum → Nat
  | .mk first rest => max (first.height rest.count) rest.height

/-- An operand lies under its own operation and under all that follow in the loop. -/
def Terms.height : Terms → Nat
  | .none => 0
  | .more _ _ next rest => max (next.height 0 + 1 + rest.count) rest.height

/-- `behind` operations follow in the loop. -/
def Product.height : Product → Nat → Nat
  | .mk first rest, behind => max (first.height + rest.count + behind) (rest.height behind)

def Factors.height : Factors → Nat → Nat
  | .none, _ => 0
  | .more _ _ next rest, behind =>
    max (next.height + 1 + rest.count + behind) (rest.height behind)

def Unary.height : Unary → Nat
  | .number _ => 1
  | .signed _ operand => operand.height + 1
  | .group inner => inner.height

end

mutual

theorem Sum.height_tree (sum : Sum) : sum.tree.height = sum.height := by
  obtain ⟨first, rest⟩ := sum
  have below := first.height_tree rest.count
  have above := rest.height_tree first.tree
  simp only [Sum.tree, Sum.height]
  omega

theorem Terms.height_tree (terms : Terms) (left : Expr) :
    (terms.tree left).height = max (left.height + terms.count) terms.height := by
  cases terms with
  | none => simp [Terms.tree, Terms.count, Terms.height]
  | more op loose next rest =>
    -- Every operation that follows in the loop puts one more node on top of this one.
    have joined := rest.height_tree (.binary op left next.tree)
    have right := next.height_tree 0
    simp only [Terms.tree, Terms.count, Terms.height, Expr.height] at *
    omega

theorem Product.height_tree (product : Product) (behind : Nat) :
    product.tree.height + behind = product.height behind := by
  obtain ⟨first, rest⟩ := product
  have below := first.height_tree
  have above := rest.height_tree first.tree behind
  simp only [Product.tree, Product.height]
  omega

theorem Factors.height_tree (factors : Factors) (left : Expr) (behind : Nat) :
    (factors.tree left).height + behind =
      max (left.height + factors.count + behind) (factors.height behind) := by
  cases factors with
  | none => simp [Factors.tree, Factors.count, Factors.height]
  | more op tight next rest =>
    have joined := rest.height_tree (.binary op left next.tree) behind
    have right := next.height_tree
    simp only [Factors.tree, Factors.count, Factors.height, Expr.height] at *
    omega

theorem Unary.height_tree (u : Unary) : u.tree.height = u.height := by
  cases u with
  | number value => rfl
  | signed sign operand =>
    have below := operand.height_tree
    simp only [Unary.tree, Unary.height, Expr.height]
    omega
  | group inner => exact inner.height_tree

end

/-! ### The bound -/

/-- The tallest tree within given levels: a parenthesis around the tallest tree with one level less
and two operations fewer than levels on top of it. -/
def tallest : Nat → Nat
  | 0 => 0
  | 1 => 1
  | 2 => 2
  | 3 => 4
  | levels + 4 => tallest (levels + 3) + (levels + 2)

/-- The tallest operand within given levels: a few signs, or else a parenthesis. -/
def tallestOperand : Nat → Nat
  | 0 => 0
  | 1 => 1
  | 2 => 2
  | 3 => 3
  | levels + 4 => tallest (levels + 3)

theorem tallest_le_succ (levels : Nat) : tallest levels ≤ tallest (levels + 1) := by
  match levels with
  | 0 | 1 | 2 => decide
  | levels + 3 =>
    rw [tallest.eq_5]
    omega

theorem two_mul_tallest (n : Nat) : 2 * tallest (n + 3) = (n + 1) * (n + 2) + 6 := by
  induction n with
  | zero => rfl
  | succ n ih =>
    rw [tallest, Nat.mul_add, ih]
    ring

theorem tallest_maxDepth : tallest maxDepth = 32388 := by
  have levels : maxDepth = 253 + 3 := rfl
  have closed := two_mul_tallest 253
  rw [levels]
  omega

theorem tallest_mono {fewer levels : Nat} (le : fewer ≤ levels) :
    tallest fewer ≤ tallest levels := by
  induction le with
  | refl => exact Nat.le_refl _
  | step _ ih => exact Nat.le_trans ih (tallest_le_succ _)

theorem tallestOperand_add (levels : Nat) :
    tallestOperand levels + (levels - 2) ≤ tallest levels := by
  match levels with
  | 0 | 1 | 2 | 3 => decide
  | levels + 4 =>
    rw [tallestOperand, tallest]
    omega

theorem tallestOperand_succ (levels : Nat) :
    tallestOperand levels + 1 ≤ tallestOperand (levels + 1) := by
  match levels with
  | 0 | 1 | 2 | 3 => decide
  | levels + 4 =>
    simp only [tallestOperand, tallest]
    omega

theorem tallest_le_operand (levels : Nat) : tallest levels ≤ tallestOperand (levels + 1) := by
  match levels with
  | 0 | 1 | 2 => decide
  | levels + 3 => exact Nat.le_refl _

theorem tallest_add_self {levels : Nat} (positive : 1 ≤ levels) :
    tallest levels + levels ≤ tallest (levels + 2) := by
  match levels with
  | 0 => omega
  | 1 => decide
  | levels + 2 =>
    have grows : tallest (levels + 2) ≤ tallest (levels + 3) := tallest_le_succ (levels + 2)
    rw [tallest.eq_5]
    omega

theorem tallestOperand_le (levels : Nat) : tallestOperand levels ≤ tallest levels :=
  Nat.le_trans (Nat.le_add_right _ _) (tallestOperand_add levels)

theorem Product.need_pos (product : Product) : 1 ≤ product.need := by
  obtain ⟨first, rest⟩ := product
  exact Nat.le_trans first.need_pos (Nat.le_max_left _ _)

/-- The last operand of a loop bounds the number of its operations. -/
theorem Factors.count_of_need (factors : Factors) {before levels : Nat}
    (need : factors.need before ≤ levels) :
    factors.count = 0 ∨ before + factors.count + 2 ≤ levels := by
  cases factors with
  | none => exact .inl rfl
  | more op tight next rest =>
    have positive := next.need_pos
    simp only [Factors.need] at need
    have later : rest.count = 0 ∨ before + 1 + rest.count + 2 ≤ levels :=
      rest.count_of_need (by omega)
    simp only [Factors.count]
    omega

theorem Terms.count_of_need (terms : Terms) {before levels : Nat}
    (need : terms.need before ≤ levels) : terms.count = 0 ∨ before + terms.count + 2 ≤ levels := by
  cases terms with
  | none => exact .inl rfl
  | more op loose next rest =>
    have positive := next.need_pos
    simp only [Terms.need] at need
    have later : rest.count = 0 ∨ before + 1 + rest.count + 2 ≤ levels :=
      rest.count_of_need (by omega)
    simp only [Terms.count]
    omega

/-- An operand that leaves `within` levels under its operation, with no more operations on top of it
than there are levels left. -/
theorem operand_le_tallest {height above levels : Nat} (within : Nat) (positive : 1 ≤ within)
    (low : height ≤ tallest within) (few : above ≤ within) (left : within + 2 ≤ levels) :
    height + above ≤ tallest levels := by
  calc height + above
    _ ≤ tallest within + within := Nat.add_le_add low few
    _ ≤ tallest (within + 2) := tallest_add_self positive
    _ ≤ tallest levels := tallest_mono left

mutual

theorem Sum.height_le_tallest (sum : Sum) {levels : Nat} (need : sum.need ≤ levels) :
    sum.height ≤ tallest levels := by
  obtain ⟨⟨first, factors⟩, terms⟩ := sum
  simp only [Sum.need, Product.need, Product.count] at need
  -- Factors and terms are folded by one loop, so their counts share one budget.
  have needFactors : factors.need 0 ≤ levels := by omega
  have fewFactors : factors.count = 0 ∨ 0 + factors.count + 2 ≤ levels :=
    factors.count_of_need needFactors
  have fewTerms : terms.count = 0 ∨ factors.count + terms.count + 2 ≤ levels :=
    terms.count_of_need (by omega)
  have low : first.height ≤ tallestOperand levels := first.height_le_tallest (by omega)
  have room := tallestOperand_add levels
  have lowTerms : terms.height ≤ tallest levels := by
    apply terms.height_le_tallest
    exact Nat.le_trans (Nat.le_max_right _ _) need
  have lowFactors : factors.height terms.count ≤ tallest levels := by
    apply factors.height_le_tallest needFactors
    omega
  simp only [Sum.height, Product.height]
  omega
termination_by structural sum

theorem Terms.height_le_tallest (terms : Terms) {before levels : Nat}
    (need : terms.need before ≤ levels) : terms.height ≤ tallest levels := by
  have few := terms.count_of_need need
  cases terms with
  | none => exact Nat.zero_le _
  | more op loose next rest =>
    have positive := next.need_pos
    simp only [Terms.need, Terms.count] at need few
    have later : rest.height ≤ tallest levels :=
      rest.height_le_tallest (Nat.le_trans (Nat.le_max_right _ _) need)
    have low : next.height 0 ≤ tallest next.need := next.height_le_tallest (Nat.le_refl _)
    -- This operation and the ones that follow stand on the operand.
    have here : next.height 0 + (1 + rest.count) ≤ tallest levels :=
      operand_le_tallest (levels - before - 2) (by omega)
        (Nat.le_trans low (tallest_mono (by omega))) (by omega) (by omega)
    simp only [Terms.height]
    omega
termination_by structural terms

theorem Product.height_le_tallest (product : Product) {levels : Nat}
    (need : product.need ≤ levels) : product.height 0 ≤ tallest levels := by
  obtain ⟨first, factors⟩ := product
  simp only [Product.need] at need
  have needFactors : factors.need 0 ≤ levels := by omega
  have few : factors.count = 0 ∨ 0 + factors.count + 2 ≤ levels :=
    factors.count_of_need needFactors
  have low : first.height ≤ tallestOperand levels := first.height_le_tallest (by omega)
  have room := tallestOperand_add levels
  have lowFactors : factors.height 0 ≤ tallest levels := by
    apply factors.height_le_tallest needFactors
    omega
  simp only [Product.height]
  omega
termination_by structural product

theorem Factors.height_le_tallest (factors : Factors) {before behind levels : Nat}
    (need : factors.need before ≤ levels)
    (few : factors.count = 0 ∨ before + factors.count + behind + 2 ≤ levels) :
    factors.height behind ≤ tallest levels := by
  cases factors with
  | none => exact Nat.zero_le _
  | more op tight next rest =>
    have positive := next.need_pos
    simp only [Factors.need, Factors.count] at need few
    have later : rest.height behind ≤ tallest levels := by
      apply rest.height_le_tallest (Nat.le_trans (Nat.le_max_right _ _) need)
      omega
    have low : next.height ≤ tallest next.need :=
      Nat.le_trans (next.height_le_tallest (Nat.le_refl _)) (tallestOperand_le _)
    -- The terms of the loop follow behind its factors.
    have here : next.height + (1 + rest.count + behind) ≤ tallest levels :=
      operand_le_tallest (levels - before - 2) (by omega)
        (Nat.le_trans low (tallest_mono (by omega))) (by omega) (by omega)
    simp only [Factors.height]
    omega
termination_by structural factors

theorem Unary.height_le_tallest (u : Unary) {levels : Nat} (need : u.need ≤ levels) :
    u.height ≤ tallestOperand levels := by
  obtain ⟨fewer, rfl⟩ : ∃ fewer, levels = fewer + 1 :=
    Nat.exists_eq_add_of_le' (Nat.le_trans u.need_pos need)
  cases u with
  | number value => exact Nat.le_trans (Nat.le_add_left 1 _) (tallestOperand_succ fewer)
  | signed sign operand =>
    simp only [Unary.need] at need
    have low : operand.height ≤ tallestOperand fewer := operand.height_le_tallest (by omega)
    exact Nat.le_trans (Nat.succ_le_succ low) (tallestOperand_succ fewer)
  | group inner =>
    simp only [Unary.need] at need
    have low : inner.height ≤ tallest fewer := inner.height_le_tallest (by omega)
    exact Nat.le_trans low (tallest_le_operand fewer)
termination_by structural u

end

end Grammar
end DiceChat
