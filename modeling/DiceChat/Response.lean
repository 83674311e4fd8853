import DiceChat.Dice

/-!
# Responses

The answer to one directive, and the line that shows it in the chat, such as
`Alice → (4,5) +3 → "fire damage" → **12**`.
-/

namespace DiceChat

/-- The answer to one directive. -/
structure Response where
  actor : String
  dice : Dice
  throw : Throw
  modifier : String
  label : String
  /-- The sum of the faces with the modifier applied. -/
  total : Float
deriving DecidableEq, Repr

namespace Response

/-- The modifier behind a gap; an empty one leaves no gap. -/
def modifierText (r : Response) : String :=
  if r.modifier.isEmpty then "" else " " ++ r.modifier

/-- The line for the chat. -/
def text (r : Response) : String :=
  r.actor ++ " → (" ++ r.throw.text ++ ")" ++ r.modifierText ++ " → \"" ++ r.label ++ "\" → **" ++
    valueText r.total ++ "**"

end Response

end DiceChat
