import DiceChat.Dice

/-!
# Settings

How a bot throws and what it accepts. Settings come from named variables; a variable that is not
set leaves its default.
-/

namespace DiceChat

structure Settings where
  faceBound : FaceBound := .inclusive
  /-- The most dice that a directive may ask for. -/
  maxDice : UInt32 := 100
  /-- The most sides that a die may have. -/
  maxSides : UInt32 := 1000
deriving DecidableEq, Repr

namespace Settings

def faceBoundVar : String := "ROLLBOT_FACE_BOUND"

def maxDiceVar : String := "ROLLBOT_MAX_DICE"

def maxSidesVar : String := "ROLLBOT_MAX_SIDES"

/-- Reads a limit of at least one, with blanks around it. -/
def readLimit (name value : String) : Except RollError UInt32 :=
  match readUnsigned (trim value.toList) with
  | .ok limit => if limit = 0 then .error (.settings (.zeroLimit name)) else .ok limit
  | .error fault => .error (.settings (.unreadableLimit name value fault))

/-- The value of a variable that is set, the default of one that is not. -/
def orDefault {α : Type} (read : String → Except RollError α) (default : α) :
    Option String → Except RollError α
  | none => .ok default
  | some value => read value

/-- Reads the three variables in order. -/
def ofVars (lookup : String → Option String) : Except RollError Settings := do
  let defaults : Settings := {}
  let faceBound ← orDefault FaceBound.read defaults.faceBound (lookup faceBoundVar)
  let maxDice ← orDefault (readLimit maxDiceVar) defaults.maxDice (lookup maxDiceVar)
  let maxSides ← orDefault (readLimit maxSidesVar) defaults.maxSides (lookup maxSidesVar)
  return { faceBound, maxDice, maxSides }

/-- Reads variables that hold raw bytes; one that is not UTF-8 counts as not set. -/
def ofEnvironment (lookup : String → Option ByteArray) : Except RollError Settings :=
  ofVars fun name => (lookup name).bind String.fromUTF8?

/-- Refuses dice beyond the limits, their number before their sides. -/
def check (settings : Settings) (dice : Dice) : Except RollError Unit :=
  if dice.count > settings.maxDice then
    .error (.limitExceeded .dice dice.count settings.maxDice)
  else if dice.sides > settings.maxSides then
    .error (.limitExceeded .sides dice.sides settings.maxSides)
  else
    .ok ()

end Settings
end DiceChat
