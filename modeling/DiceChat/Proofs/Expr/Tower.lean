import DiceChat.Proofs.Expr.Height
import DiceChat.Proofs.Expr.Leaves

/-!
# Towers of parentheses and sums

The tallest trees that the parser accepts come from towers: a parenthesis around a tower one level
lower, with as many operations behind it as the levels allow. A tower has both its levels and its
height in full, so the bound on the height of accepted trees cannot be lowered.

## Main results

* `Grammar.tower_height`: a tower is as tall as its levels allow.
* `parse_towerText`: towers within `maxDepth` levels have texts, and these are accepted.
* `height_of_accepted`: which accepted trees are no higher than `maxDepth`, and how high the others
  get.
-/

namespace DiceChat
namespace Grammar

/-! ### Towers -/

def one : Unary :=
  .number (Number.literalValue ['1'])

def minuses : Nat → Unary
  | 0 => one
  | n + 1 => .signed .minus (minuses n)

def ones : Nat → Terms
  | 0 => .none
  | n + 1 => .more .add rfl (.mk one .none) (ones n)

def minusesSum (n : Nat) : Sum :=
  .mk (.mk (minuses n) .none) (ones 1)

def tower : Nat → Sum
  | 0 => minusesSum 2
  | n + 1 => .mk (.mk (.group (tower n)) .none) (ones (n + 2))

theorem minuses_need (n : Nat) : (minuses n).need = n + 1 := by
  induction n with
  | zero => rfl
  | succ n ih => rw [minuses, Unary.need, ih, Nat.add_comm]

theorem minuses_height (n : Nat) : (minuses n).height = n + 1 := by
  induction n with
  | zero => rfl
  | succ n ih => rw [minuses, Unary.height, ih]

theorem ones_count (n : Nat) : (ones n).count = n := by
  induction n with
  | zero => rfl
  | succ n ih => exact congrArg Nat.succ ih

theorem ones_need (n before : Nat) : (ones n).need before ≤ before + n + 2 := by
  induction n generalizing before with
  | zero => exact Nat.zero_le _
  | succ n ih =>
    have later := ih (before + 1)
    simp only [ones, one, Terms.need, Product.need, Factors.need, Unary.need]
    omega

theorem minusesSum_need {n : Nat} (several : 2 ≤ n) : (minusesSum n).need = n + 1 := by
  simp only [minusesSum, ones, one, Sum.need, Product.need, Product.count, Terms.need,
    Factors.need, Factors.count, Unary.need, minuses_need]
  omega

theorem minusesSum_height (n : Nat) : (minusesSum n).height = n + 2 := by
  simp only [minusesSum, ones, one, Sum.height, Product.height, Terms.height, Terms.count,
    Factors.height, Factors.count, Unary.height, minuses_height]
  omega

theorem tower_need (n : Nat) : (tower n).need ≤ n + 3 := by
  induction n with
  | zero => decide
  | succ n ih =>
    have behind := ones_need (n + 2) 0
    simp only [tower, Sum.need, Product.need, Product.count, Factors.need, Factors.count,
      Unary.need]
    omega

theorem tower_height (n : Nat) : (tower n).height = tallest (n + 3) := by
  apply Nat.le_antisymm
  · exact (tower n).height_le_tallest (tower_need n)
  · induction n with
    | zero => decide
    | succ n ih =>
      -- The operations behind the parenthesis are all on top of the lower tower.
      have stacked : (tower n).height + (n + 2) ≤ (tower (n + 1)).height := by
        simp only [tower, Sum.height, Product.height, Factors.count, Unary.height, ones_count]
        omega
      rw [tallest]
      omega

/-! ### Texts of towers -/

def onesText : Nat → List Char
  | 0 => []
  | n + 1 => '+' :: '1' :: onesText n

def towerText : Nat → List Char
  | 0 => List.replicate 2 '-' ++ '1' :: onesText 1
  | n + 1 => '(' :: (towerText n ++ ')' :: onesText (n + 2))

theorem spells_one {text : List Char} {tokens : List Token}
    (stops : Stops Number.isLiteralChar text) (rest : Spells text tokens) :
    Spells ('1' :: text) (one.tokens ++ tokens) := by
  have literal : Number.IsLiteral ['1'] := by
    refine ⟨?_, by decide, '1', List.mem_singleton_self _, rfl⟩
    intro c member
    rw [List.mem_singleton] at member
    subst member
    exact .inl rfl
  exact .number literal stops rest

theorem spells_minuses {text : List Char} {tokens : List Token}
    (stops : Stops Number.isLiteralChar text) (rest : Spells text tokens) (n : Nat) :
    Spells (List.replicate n '-' ++ '1' :: text) ((minuses n).tokens ++ tokens) := by
  induction n with
  | zero => exact spells_one stops rest
  | succ n ih => exact .symbol rfl ih

theorem stops_ones {text : List Char} (stops : Stops Number.isLiteralChar text) (n : Nat) :
    Stops Number.isLiteralChar (onesText n ++ text) := by
  cases n with
  | zero => exact stops
  | succ n => exact stops_cons.mpr rfl

theorem spells_ones {text : List Char} {tokens : List Token}
    (stops : Stops Number.isLiteralChar text) (rest : Spells text tokens) (n : Nat) :
    Spells (onesText n ++ text) ((ones n).tokens ++ tokens) := by
  induction n with
  | zero => exact rest
  | succ n ih =>
    simp only [ones, Terms.tokens, Product.tokens, Factors.tokens, List.append_nil,
      List.cons_append, List.append_assoc]
    exact .symbol rfl (spells_one (stops_ones stops n) ih)

theorem spells_tower {text : List Char} {tokens : List Token}
    (stops : Stops Number.isLiteralChar text) (rest : Spells text tokens) (n : Nat) :
    Spells (towerText n ++ text) ((tower n).tokens ++ tokens) := by
  induction n generalizing text tokens with
  | zero =>
    exact spells_minuses (stops_ones stops 1) (spells_ones stops rest 1) 2
  | succ n ih =>
    -- Read from the inside: the operations behind, the parenthesis, the lower tower.
    have closed : Spells (')' :: (onesText (n + 2) ++ text))
        (.rightParenthesis :: ((ones (n + 2)).tokens ++ tokens)) :=
      .symbol rfl (spells_ones stops rest (n + 2))
    have within := ih (stops_cons.mpr rfl) closed
    simp only [towerText, tower, Sum.tokens, Product.tokens, Factors.tokens, Unary.tokens,
      List.append_nil, List.nil_append, List.cons_append, List.append_assoc]
    exact .symbol rfl within

end Grammar

open Grammar

theorem parse_minusesSum {n : Nat} (within : 2 ≤ n ∧ n + 1 ≤ maxDepth) :
    Expr.parse (.ofList (List.replicate n '-' ++ ['1', '+', '1'])) = .ok (minusesSum n).tree := by
  refine parse_eq_ok_iff_derivation.mpr ⟨minusesSum n, ?_, ?_, rfl⟩
  · rw [String.toList_ofList]
    have spells := spells_minuses (stops_ones stops_nil 1) (spells_ones stops_nil .done 1) n
    simpa only [minusesSum, onesText, Sum.tokens, Product.tokens, Factors.tokens, List.append_nil]
      using spells
  · rw [minusesSum_need within.1]
    exact within.2

theorem parse_towerText {n : Nat} (low : n + 3 ≤ maxDepth) :
    Expr.parse (.ofList (towerText n)) = .ok (tower n).tree := by
  have spells : Spells (towerText n ++ []) ((tower n).tokens ++ []) :=
    spells_tower stops_nil .done n
  rw [List.append_nil, List.append_nil] at spells
  refine parse_eq_ok_iff_derivation.mpr ⟨tower n, ?_, Nat.le_trans (tower_need n) low, rfl⟩
  rw [String.toList_ofList]
  exact spells

/-- An accepted tree is no higher than `maxDepth` exactly when every number of the text has fewer
operations around it than that, which the parser does not ask for. What the parser asks for bounds
the height by 32388, and no lower bound holds. -/
theorem height_of_accepted (text : String) (e : Expr) :
    (Expr.parse text = .ok e ∧ e.height ≤ maxDepth ↔ ∃ sum : Grammar.Sum,
      Spells text.toList sum.tokens ∧ sum.need ≤ maxDepth ∧ sum.tree = e ∧
        ∀ count ∈ operationsAround sum.tokens, count < maxDepth) ∧
    (Expr.parse text = .ok e → e.height ≤ 32388) ∧
    ∃ tall tallTree, Expr.parse tall = .ok tallTree ∧ tallTree.height = 32388 := by
  refine ⟨?_, ?_, ?_⟩
  · rw [parse_eq_ok_iff_derivation]
    -- The numbers of the text are the leaves of the tree.
    constructor
    · rintro ⟨⟨sum, spells, need, rfl⟩, low⟩
      rw [Expr.height_le_iff, ← sum.operationsAround_tokens] at low
      exact ⟨sum, spells, need, rfl, low⟩
    · rintro ⟨sum, spells, need, rfl, low⟩
      rw [sum.operationsAround_tokens, ← Expr.height_le_iff] at low
      exact ⟨⟨sum, spells, need, rfl⟩, low⟩
  · intro accepted
    obtain ⟨sum, -, need, rfl⟩ := parse_eq_ok_iff_derivation.mp accepted
    rw [sum.height_tree, ← tallest_maxDepth]
    exact sum.height_le_tallest need
  · -- The tower that uses all levels attains the bound.
    refine ⟨_, _, parse_towerText (n := 253) (Nat.le_refl _), ?_⟩
    rw [(tower 253).height_tree, tower_height]
    exact tallest_maxDepth

theorem height_of_accepted_tower :
    ∃ e, Expr.parse (.ofList (towerText 253)) = .ok e ∧ e.height ≤ 32388 := by
  have accepted := parse_towerText (n := 253) (Nat.le_refl _)
  exact ⟨_, accepted, (height_of_accepted _ _).2.1 accepted⟩

/-- The sum is joined on above the signs, whose levels have been given back by then. -/
theorem sum_behind_signs_exceeds_maxDepth :
    ∃ e, Expr.parse (.ofList (List.replicate 255 '-' ++ ['1', '+', '1'])) = .ok e ∧
      maxDepth < e.height := by
  refine ⟨_, parse_minusesSum (by decide), ?_⟩
  rw [(minusesSum 255).height_tree, minusesSum_height]
  decide

end DiceChat
