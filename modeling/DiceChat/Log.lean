import DiceChat.Response

/-!
# The log

What a bot tells its log while it answers, as data: a level, a fixed message and named values.
-/

namespace DiceChat

/-- How much an event matters. -/
inductive Level where
  | trace
  | debug
  | warn
deriving DecidableEq, Repr

def Level.name : Level → String
  | trace => "TRACE"
  | debug => "DEBUG"
  | warn => "WARN"

/-- What a bot tells its log. -/
inductive Event where
  | noDirective
  | evaluating (expression : String)
  | rolled (response : Response)
  | ignored (actor : String) (error : RollError)
deriving DecidableEq, Repr

namespace Event

def level : Event → Level
  | noDirective => .trace
  | evaluating _ => .trace
  | rolled _ => .debug
  | ignored _ _ => .warn

def message : Event → String
  | noDirective => "message holds no directive"
  | evaluating _ => "evaluating roll expression"
  | rolled _ => "rolled"
  | ignored _ _ => "ignoring roll directive"

/-- Names and values of what an event carries. -/
def fields : Event → List (String × String)
  | noDirective => []
  | evaluating expression => [("expression", expression)]
  | rolled r =>
    [("actor", r.actor), ("roll", r.dice.text), ("rolls", r.throw.text),
     ("modifier", r.modifier), ("label", r.label), ("total", valueText r.total)]
  | ignored actor error => [("actor", actor), ("error", error.message)]

end Event

end DiceChat
