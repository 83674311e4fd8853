import DiceChat.Source

/-!
# Scripted faces

A script replays a fixed list, so that a conversation can be repeated face by face.
-/

namespace DiceChat

/-- A fixed list of faces and the number of draws so far, counted in 64 bits. -/
structure Script where
  faces : List UInt32
  drawn : UInt64 := 0
deriving DecidableEq, Repr

namespace Script

/-- Replays the list from its start whenever it runs out, whatever range is asked for; an empty
list gives the lowest face. -/
def draw (range : FaceRange) (script : Script) : UInt32 × Script :=
  match script.faces[script.drawn.toNat % script.faces.length]? with
  | none => (range.low, script)
  | some face => (face, { script with drawn := script.drawn + 1 })

def source : FaceSource Script where
  draw := draw

end Script

end DiceChat
