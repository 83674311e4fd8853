import DiceChat.Bot
import DiceChat.Json.Reader
import DiceChat.Json.Scalar

/-!
# Settings, dice and responses in JSON

How the values of a bot are stored, and read back. Settings may be given in part; everything else
is whole. Dice are taken as stored, even where they could not be thrown.
-/

namespace DiceChat

open Json

namespace FaceBound

def toJson (bound : FaceBound) : Json :=
  .ofText bound.name

/-- A name, alone or as the name of `null`. -/
def ofJson? : Json → Option FaceBound
  | .string marks => marks.toText?.bind ofName?
  | .object [(marks, .null)] => marks.toText?.bind ofName?
  | _ => none

end FaceBound

namespace Settings

def fieldNames : List String := ["face_bound", "max_dice", "max_sides"]

def toJson (settings : Settings) : Json :=
  .ofMembers
    [("face_bound", settings.faceBound.toJson), ("max_dice", .ofNat settings.maxDice.toNat),
     ("max_sides", .ofNat settings.maxSides.toNat)]

/-- A stored value, or the default of a field that is missing. -/
def field? {α : Type} (read : Json → Option α) (default : α) : Option Json → Option α
  | none => some default
  | some value => read value

/-- A missing field keeps its default. -/
def ofJson? (json : Json) : Option Settings := do
  let [faceBound, maxDice, maxSides] ← record? fieldNames json | none
  let defaults : Settings := {}
  return {
    faceBound := ← field? FaceBound.ofJson? defaults.faceBound faceBound
    maxDice := ← field? toUnsigned? defaults.maxDice maxDice
    maxSides := ← field? toUnsigned? defaults.maxSides maxSides }

end Settings

namespace Dice

def fieldNames : List String := ["sides", "count"]

def toJson (dice : Dice) : Json :=
  .ofMembers [("sides", .ofNat dice.sides.toNat), ("count", .ofNat dice.count.toNat)]

def ofJson? (json : Json) : Option Dice := do
  let [some sides, some count] ← record? fieldNames json | none
  return ⟨← toUnsigned? sides, ← toUnsigned? count⟩

end Dice

namespace Throw

def toJson (throw : Throw) : Json :=
  .array (throw.faces.map fun face => .ofNat face.toNat)

def ofJson? : Json → Option Throw
  | .array items => (items.mapM toUnsigned?).map Throw.mk
  | _ => none

end Throw

namespace Response

def fieldNames : List String := ["actor", "roll", "rolls", "modifier", "label", "total"]

/-- A value as it is written elsewhere, and `null` for one that is not a number in JSON. -/
def totalJson (total : Float) : Json :=
  match readNumber (valueStyle.writeChars total) with
  | some (n, []) => .number n
  | _ => .null

def toJson (r : Response) : Json :=
  .ofMembers
    [("actor", .ofText r.actor), ("roll", r.dice.toJson), ("rolls", r.throw.toJson),
     ("modifier", .ofText r.modifier), ("label", .ofText r.label), ("total", totalJson r.total)]

def ofJson? (json : Json) : Option Response := do
  let [some actor, some dice, some throw, some modifier, some label, some total] ←
    record? fieldNames json | none
  return {
    actor := ← toText? actor
    dice := ← Dice.ofJson? dice
    throw := ← Throw.ofJson? throw
    modifier := ← toText? modifier
    label := ← toText? label
    total := ← toFloat? total }

end Response
end DiceChat
