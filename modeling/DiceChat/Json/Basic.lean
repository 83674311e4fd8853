/-!
# Data in JSON

Values as they are written: numbers keep their digits, and strings keep an escape that names half
of a surrogate pair, since a value that nobody looks at may hold one.
-/

namespace DiceChat

namespace Json

/-- A number as written. `exponent` is `none` where none is written; no `fraction` is empty where
one is. -/
structure Number where
  negative : Bool
  whole : List Char
  fraction : List Char
  exponent : Option Int
deriving DecidableEq, Repr

/-- One piece of a string. -/
inductive Mark where
  | char (c : Char)
  /-- An escaped surrogate, high or low. -/
  | half (unit : Nat)
deriving DecidableEq, Repr

/-- A string as written. -/
abbrev Marks := List Mark

end Json

inductive Json where
  | null
  | bool (value : Bool)
  | number (value : Json.Number)
  | string (marks : Json.Marks)
  | array (items : List Json)
  | object (members : List (Json.Marks × Json))
deriving Repr

namespace Json

def isHighHalf (unit : Nat) : Bool :=
  decide (0xD800 ≤ unit) && decide (unit < 0xDC00)

def isLowHalf (unit : Nat) : Bool :=
  decide (0xDC00 ≤ unit) && decide (unit < 0xE000)

/-- The character of a surrogate pair. -/
def joinHalves (high low : Nat) : Char :=
  Char.ofNat (0x10000 + (high - 0xD800) * 0x400 + (low - 0xDC00))

/-- The text of a string whose surrogates all pair up. -/
def Marks.toChars? : Marks → Option (List Char)
  | [] => some []
  | .char c :: rest => (toChars? rest).map (c :: ·)
  | .half high :: .half low :: rest =>
    if isHighHalf high && isLowHalf low then (toChars? rest).map (joinHalves high low :: ·)
    else none
  | .half _ :: _ => none

def Marks.toText? (marks : Marks) : Option String :=
  (Marks.toChars? marks).map String.ofList

def ofText (text : String) : Json :=
  .string (text.toList.map .char)

def ofNat (n : Nat) : Json :=
  .number ⟨false, Nat.toDigits 10 n, [], none⟩

/-- An object with members in the given order. -/
def ofMembers (members : List (String × Json)) : Json :=
  .object (members.map fun (name, value) => (name.toList.map .char, value))

end Json
end DiceChat
