import DiceChat.Expr.Parser

/-!
# Programs of the parser

The functions of the parser are put together from advances, faults and looks at the window. What
holds of these and is kept by putting programs together holds of the whole parser, however deep it
nests.

## Main results

* `Parser.Compositional.chain`: both loops of the parser, for any number of levels.
* `Parser.Compositional.whole`: the parse of a whole input.
-/

namespace DiceChat
namespace Parser

/-- A property of programs that the steps of the parser have and that programs hand on to what is
put together from them. A look shows the two tokens of the window and nothing behind the cursor. -/
structure Compositional (P : ∀ {α : Type}, ParserM α → Prop) : Prop where
  pure : ∀ {α : Type} (a : α), P (pure a : ParserM α)
  throw : ∀ {α : Type} (fault : ParseError), P (throw fault : ParserM α)
  advance : P advance
  bind : ∀ {α β : Type} {x : ParserM α} {f : α → ParserM β},
    P x → (∀ a, P (f a)) → P (x >>= f)
  look : ∀ {α : Type} {f : Parser → ParserM α}, (∀ p, P (f p)) →
    (∀ p q, p.current = q.current → p.peek = q.peek → f p = f q) → P (get >>= f)

namespace Compositional

variable {P : ∀ {α : Type}, ParserM α → Prop} {nested : Precedence → ParserM Expr}

theorem operand (holds : Compositional P) (inner : ∀ precedence, P (nested precedence)) :
    P (operand nested) := by
  unfold Parser.operand
  refine holds.look (fun p => ?_) fun p q current _ => by rw [current]
  have signed (sign : Sign) :
      P (Parser.advance >>= fun _ => do return Expr.signed sign (← nested .sign)) :=
    holds.bind holds.advance fun _ => holds.bind (inner .sign) fun _ => holds.pure _
  cases p.current with
  | number value => exact holds.pure _
  | minus => exact signed .minus
  | plus => exact signed .plus
  | leftParenthesis =>
    refine holds.bind holds.advance fun _ => holds.bind (inner .lowest) fun e => ?_
    refine holds.look (fun q => ?_) fun p q _ peek => by rw [peek]
    split
    · exact holds.bind holds.advance fun _ => holds.pure _
    · exact holds.throw _
  | times | divide | modulo | rightParenthesis | endOfInput => exact holds.throw _

theorem operation (holds : Compositional P) (inner : ∀ precedence, P (nested precedence))
    (left : Expr) : P (operation nested left) := by
  unfold Parser.operation
  refine holds.look (fun p => ?_) fun p q current _ => by rw [current]
  dsimp only
  cases p.current.operator? with
  | some op => exact holds.bind holds.advance fun _ => holds.bind (inner _) fun _ => holds.pure _
  | none => exact holds.throw _

/-- Whether an operator ahead binds tighter is seen from the window. -/
theorem look_ahead (holds : Compositional P) {precedence : Precedence} {more : ParserM Expr}
    {left : Expr} (goesOn : P more) :
    P (do if bindsTighter precedence (← get) then more else return left) := by
  refine holds.look (fun p => ?_) fun p q _ peek => by rw [bindsTighter, bindsTighter, peek]
  split
  · exact goesOn
  · exact holds.pure _

theorem chain (holds : Compositional P) (levels : Nat) :
    (∀ precedence, P (chain levels precedence)) ∧
      ∀ precedence left, P (operations levels precedence left) := by
  induction levels with
  | zero =>
    constructor
    · intro precedence
      rw [Parser.chain]
      exact holds.throw _
    · intro precedence left
      rw [operations]
      exact holds.look_ahead (holds.throw _)
  | succ levels ih =>
    obtain ⟨chains, loops⟩ := ih
    constructor
    · intro precedence
      rw [Parser.chain]
      exact holds.bind (holds.operand chains) fun first => loops precedence first
    · intro precedence left
      rw [operations]
      exact holds.look_ahead (holds.bind holds.advance fun _ =>
        holds.bind (holds.operation chains left) fun joined => loops precedence joined)

theorem whole (holds : Compositional P) : P whole := by
  unfold Parser.whole
  refine holds.bind ((holds.chain maxDepth).1 .lowest) fun e => ?_
  refine holds.look (fun p => ?_) fun p q _ peek => by rw [peek]
  dsimp only
  split
  · exact holds.pure _
  · exact holds.throw _

end Compositional
end Parser
end DiceChat
