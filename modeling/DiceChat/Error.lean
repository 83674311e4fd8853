import DiceChat.Expr.ParseError
import DiceChat.Expr.Basic
import DiceChat.Text.Quoted
import DiceChat.Text.Unsigned

/-!
# What can go wrong with a message

Each error belongs to the message that caused it. Causes are data; the wording of each is one
function.
-/

namespace DiceChat

/-- Why the text between two brackets is no directive. -/
inductive DirectiveFault where
  | missingDiceSpec
  | missingSides
  | zeroValue
  | missingLabel
deriving DecidableEq, Repr

def DirectiveFault.message : DirectiveFault → String
  | missingDiceSpec => "No dice spec found, expected something like `2d6`"
  | missingSides => "Dice spec has no number of sides"
  | zeroValue => "Zero value is not accepted"
  | missingLabel => "Directive has no label"

/-- A number that does not fit. -/
inductive Overflow where
  /-- Sides as written, beyond 32 bits. -/
  | sides (digits : String)
  /-- Dice whose largest sum is beyond 32 bits. -/
  | sum (count sides : UInt32)
  /-- An expression whose value is infinite or undefined. -/
  | value (expression : String) (total : Float)
deriving DecidableEq, Repr

def Overflow.message : Overflow → String
  | .sides digits => s!"{digits} does not fit in a u32"
  | .sum count die => s!"{count}d{die} can exceed 4294967295"
  | .value expression total => s!"`{expression}` evaluates to {valueText total}"

/-- Why a setting is refused. -/
inductive SettingsFault where
  /-- A face bound, trimmed and in lower case, that has no meaning. -/
  | unknownFaceBound (text : String)
  | zeroLimit (name : String)
  | unreadableLimit (name value : String) (fault : UnsignedFault)
deriving DecidableEq, Repr

def SettingsFault.message : SettingsFault → String
  | unknownFaceBound text => s!"unknown face bound `{text}`, expected `inclusive` or `exclusive`"
  | zeroLimit name => s!"{name} must be at least 1"
  | unreadableLimit name value fault => s!"{name}={quote value}: {fault.message}"

/-- What a directive can have too many of. -/
inductive Limited where
  | dice
  | sides
deriving DecidableEq, Repr

def Limited.name : Limited → String
  | dice => "dice"
  | sides => "sides"

inductive RollError where
  | malformedDirective (fault : DirectiveFault)
  | invalidExpression (expression : String) (fault : ParseError)
  | numericOverflow (overflow : Overflow)
  | limitExceeded (what : Limited) (value limit : UInt32)
  | settings (fault : SettingsFault)
deriving DecidableEq, Repr

namespace RollError

def message : RollError → String
  | malformedDirective fault => s!"Malformed directive - {fault.message}"
  | invalidExpression expression fault => s!"Invalid expression `{expression}` - {fault.message}"
  | numericOverflow overflow => s!"Numeric overflow: {overflow.message}"
  | limitExceeded what value limit => s!"Too many {what.name}: {value}, the limit is {limit}"
  | settings fault => s!"Invalid configuration: {fault.message}"

/-- The texts of the faults behind an error, outermost first. -/
def causes : RollError → List String
  | malformedDirective fault => [fault.message]
  | invalidExpression _ fault => fault.message :: fault.cause?.toList
  | _ => []

end RollError
end DiceChat
