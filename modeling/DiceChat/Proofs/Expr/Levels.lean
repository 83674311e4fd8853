import DiceChat.Proofs.Expr.Faults

/-!
# More levels

The levels that a parse has decide only whether it gives up. Where it does not, it gives the answer
that it would give with more of them. So a derivation that needs more levels than there are is not
taken for something else: the parser says that the expression nests too deep.

## Main results

* `Parser.chain_upTo`: with fewer levels, the parser gives the same answer or gives up.
* `parse_tooDeep`: texts whose derivation needs more than `maxDepth` levels.
-/

namespace DiceChat
namespace Parser

variable {α β : Type} {p q : Parser}

/-- At `p`, the first program does what the second one does unless it gives up. -/
def UpTo (p : Parser) (x y : ParserM α) : Prop :=
  x p = y p ∨ ∃ q, x p = .error (.tooDeep maxDepth) q

theorem UpTo.refl (x : ParserM α) : UpTo p x x :=
  .inl rfl

theorem upTo_of_throw (y : ParserM α) : UpTo p (throw (.tooDeep maxDepth)) y :=
  .inr ⟨p, rfl⟩

/-- Programs in a row give up where one of them does. -/
theorem UpTo.bind {x y : ParserM α} {f g : α → ParserM β} (first : UpTo p x y)
    (behind : ∀ a m, UpTo m (f a) (g a)) : UpTo p (x >>= f) (y >>= g) := by
  have left : (x >>= f) p = EStateM.bind x f p := rfl
  have right : (y >>= g) p = EStateM.bind y g p := rfl
  rw [UpTo, left, right, EStateM.bind, EStateM.bind]
  rcases first with same | ⟨q, gaveUp⟩
  · -- The first programs leave the same state, so what is behind them starts from the same one.
    rw [same]
    cases y p with
    | ok a m => exact behind a m
    | error fault m => exact .inl rfl
  · rw [gaveUp]
    exact .inr ⟨q, rfl⟩

theorem UpTo.get_bind {f g : Parser → ParserM α} (same : UpTo p (f p) (g p)) :
    UpTo p (get >>= f) (get >>= g) :=
  same

theorem operand_upTo {nested more : Precedence → ParserM Expr}
    (inner : ∀ precedence q, UpTo q (nested precedence) (more precedence)) (p : Parser) :
    UpTo p (operand nested) (operand more) := by
  unfold operand
  apply UpTo.get_bind
  have signed (sign : Sign) : UpTo p
      (advance >>= fun _ => do return Expr.signed sign (← nested .sign))
      (advance >>= fun _ => do return Expr.signed sign (← more .sign)) :=
    (UpTo.refl advance).bind fun _ m => (inner .sign m).bind fun _ _ => .refl _
  cases p.current with
  | minus => exact signed .minus
  | plus => exact signed .plus
  | leftParenthesis =>
    exact (UpTo.refl advance).bind fun _ m => (inner .lowest m).bind fun _ _ => .refl _
  | number | times | divide | modulo | rightParenthesis | endOfInput => exact .refl _

theorem operation_upTo {nested more : Precedence → ParserM Expr}
    (inner : ∀ precedence q, UpTo q (nested precedence) (more precedence)) (left : Expr)
    (p : Parser) : UpTo p (operation nested left) (operation more left) := by
  unfold operation
  apply UpTo.get_bind
  dsimp only
  cases p.current.operator? with
  | some op => exact (UpTo.refl advance).bind fun _ m => (inner _ m).bind fun _ _ => .refl _
  | none => exact .refl _

/-- With fewer levels, the parser gives the same answer or gives up. -/
theorem chain_upTo {levels more : Nat} (fewer : levels ≤ more) :
    (∀ precedence p, UpTo p (chain levels precedence) (chain more precedence)) ∧
      ∀ precedence left p,
        UpTo p (operations levels precedence left) (operations more precedence left) := by
  induction levels generalizing more with
  | zero =>
    constructor
    · intro precedence p
      rw [chain]
      exact upTo_of_throw _
    · intro precedence left p
      -- A loop that has no operation to go on with needs no level.
      cases stop : bindsTighter precedence p with
      | false => exact .inl (by rw [operations_stop stop, operations_stop stop])
      | true =>
        refine .inr ⟨p, ?_⟩
        rw [operations, Parser.get_bind, if_pos stop]
        rfl
  | succ levels ih =>
    obtain ⟨more, rfl⟩ : ∃ n, more = n + 1 := ⟨more - 1, by omega⟩
    obtain ⟨chains, loops⟩ := ih (Nat.le_of_succ_le_succ fewer)
    constructor
    · intro precedence p
      rw [chain, chain]
      exact (operand_upTo chains p).bind fun first m => loops precedence first m
    · intro precedence left p
      rw [operations, operations]
      apply UpTo.get_bind
      split
      · exact (UpTo.refl advance).bind fun _ m =>
          (operation_upTo chains left m).bind fun joined r => loops precedence joined r
      · exact .refl _

end Parser

/-- A text whose derivation needs more levels than there are nests too deep, and nothing else is
wrong with it. -/
theorem parse_tooDeep {text : String} {sum : Grammar.Sum} (spells : Spells text.toList sum.tokens)
    (deep : maxDepth < sum.need) :
    ∃ fault, Expr.parse text = .error fault ∧ fault.bare = .tooDeep maxDepth := by
  obtain ⟨-, p, q, started, spans, ended⟩ :=
    (Parser.spells_iff_spans sum.tokens_ne_nil).mp spells
  have enough := sum.parsed spans (Nat.le_refl _) (Parser.bindsTighter_of_end ended)
  rcases (Parser.chain_upTo deep.le).1 .lowest p with same | ⟨r, gaveUp⟩
  · -- With `maxDepth` levels the text would be accepted.
    rw [enough] at same
    have parsed := parse_eq_ok_iff_whole_text.mpr
      ⟨p, q, started, Parser.whole_eq_ok_iff.mpr ⟨same, ended⟩⟩
    obtain ⟨other, spells', need, -⟩ := parse_eq_ok_iff_derivation.mp parsed
    rw [derivation_unique spells spells'] at deep
    omega
  · have whole : p.whole = .error (.tooDeep maxDepth) r :=
      Parser.bind_eq_error_iff.mpr (.inl gaveUp)
    refine ⟨.located r.cursor.position (.tooDeep maxDepth), ?_, rfl⟩
    simp only [Expr.parse, started, Parser.parse, whole]
    rfl

end DiceChat
