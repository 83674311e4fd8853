import DiceChat.Directive
import DiceChat.Expr.Parser
import DiceChat.Log
import DiceChat.Settings

/-!
# Answering messages

A bot finds the directive of a message, throws its dice, evaluates the modifier on their sum and
answers. Everything it does to the outside is in the turn that it returns: the answer, the events
for the log, and the new state of the source. Dice are thrown before the modifier is looked at, so
a faulty modifier costs as many faces as a good one.
-/

namespace DiceChat

/-- What one message leads to. -/
structure Turn (σ α : Type) where
  answer : α
  log : List Event
  state : σ

/-- A message, and how it is to be answered. -/
inductive Request where
  /-- With a response or an error. -/
  | answer (text actor : String)
  /-- With a line for the chat. -/
  | reply (text actor : String)
deriving DecidableEq, Repr

/-- What a request gets. -/
inductive Outcome where
  | answered (result : Except RollError (Option Response))
  | replied (line : Option String)

structure Bot (σ : Type) where
  source : FaceSource σ
  settings : Settings

namespace Bot

variable {σ : Type}

/-- The expression for a throw with a modifier. A blank keeps the sum apart from the modifier. -/
def expression (throw : Throw) (modifier : String) : String :=
  s!"{throw.total} {modifier}"

/-- The answer to a directive whose dice have been thrown. -/
def respond (directive : Directive) (throw : Throw) (actor : String) :
    Except RollError Response :=
  let expression := expression throw directive.modifier
  match Expr.evaluate expression with
  | .error fault => .error (.invalidExpression expression fault)
  | .ok total =>
    if total.isFinite then
      .ok ⟨actor, directive.dice, throw, directive.modifier, directive.label, total⟩
    else
      .error (.numericOverflow (.value expression total))

/-- Answers a message, or says why not; a message without directive has no answer. -/
def answer (bot : Bot σ) (text actor : String) (state : σ) :
    Turn σ (Except RollError (Option Response)) :=
  match Directive.find text with
  | .error error => ⟨.error error, [], state⟩
  | .ok none => ⟨.ok none, [.noDirective], state⟩
  | .ok (some directive) =>
    match bot.settings.check directive.dice with
    | .error error => ⟨.error error, [], state⟩
    | .ok () =>
      let (throw, state) := directive.dice.throw bot.source bot.settings.faceBound state
      let evaluating := Event.evaluating (expression throw directive.modifier)
      match respond directive throw actor with
      | .error error => ⟨.error error, [evaluating], state⟩
      | .ok response => ⟨.ok (some response), [evaluating, .rolled response], state⟩

/-- Answers with a line for the chat. A message that cannot be answered gets none, and the log says
why. -/
def reply (bot : Bot σ) (text actor : String) (state : σ) : Turn σ (Option String) :=
  let turn := bot.answer text actor state
  match turn.answer with
  | .ok response => ⟨response.map Response.text, turn.log, turn.state⟩
  | .error error => ⟨none, turn.log ++ [.ignored actor error], turn.state⟩

def handle (bot : Bot σ) (request : Request) (state : σ) : Turn σ Outcome :=
  match request with
  | .answer text actor =>
    let turn := bot.answer text actor state
    ⟨.answered turn.answer, turn.log, turn.state⟩
  | .reply text actor =>
    let turn := bot.reply text actor state
    ⟨.replied turn.answer, turn.log, turn.state⟩

/-- The turns of a conversation; each starts in the state that the one before has left. -/
def converse (bot : Bot σ) : List Request → σ → List (Turn σ Outcome)
  | [], _ => []
  | request :: requests, state =>
    let turn := bot.handle request state
    turn :: converse bot requests turn.state

end Bot
end DiceChat
