import DiceChat.Error
import DiceChat.Source
import DiceChat.Text.Blank

/-!
# Face bounds

A bound says which faces of a die can come up: all of them, or, as some tables play it, all but
the highest.
-/

namespace DiceChat

/-- Which faces of a die can come up. -/
inductive FaceBound where
  /-- All of them. -/
  | inclusive
  /-- All but the highest, unless it is the only one. -/
  | exclusive
deriving DecidableEq, Repr

namespace FaceBound

instance : Inhabited FaceBound := ⟨inclusive⟩

def faces (bound : FaceBound) (sides : UInt32) : FaceRange :=
  match bound with
  | inclusive => ⟨1, max sides 1⟩
  | exclusive => ⟨1, max (if sides = 0 then 0 else sides - 1) 1⟩

def name : FaceBound → String
  | inclusive => "inclusive"
  | exclusive => "exclusive"

def ofName? (name : String) : Option FaceBound :=
  [inclusive, exclusive].find? fun bound => bound.name == name

/-- Reads a name in any case of ASCII letters, with blanks around it. -/
def read (text : String) : Except RollError FaceBound :=
  let name := String.ofList ((trim text.toList).map Char.toLower)
  match ofName? name with
  | some bound => .ok bound
  | none => .error (.settings (.unknownFaceBound name))

end FaceBound

end DiceChat
