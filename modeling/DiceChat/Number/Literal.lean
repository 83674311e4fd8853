import DiceChat.Text.Digit

/-!
# Number literals

A literal is a run of decimal digits with at most one point and at least one digit. It stands for
the nearest binary value, and for infinity beyond the largest.
-/

namespace DiceChat.Number

def isLiteralChar (c : Char) : Bool :=
  c.isDigit || c == '.'

/-- Why a run of digits and points is no literal. -/
inductive LiteralFault where
  | empty
  | invalid
deriving DecidableEq, Repr

def LiteralFault.message : LiteralFault → String
  | .empty => "cannot parse float from empty string"
  | .invalid => "invalid float literal"

/-- The value of `whole.fraction`. -/
def ofParts (whole fraction : List Char) : Float :=
  Float.ofScientific (digitsValue (whole ++ fraction)) true fraction.length

/-- Reads a run of digits and points. -/
def readLiteral (run : List Char) : Except LiteralFault Float :=
  let whole := run.takeWhile Char.isDigit
  match run.dropWhile Char.isDigit with
  | [] => if whole.isEmpty then .error .empty else .ok (ofParts whole [])
  | point :: fraction =>
    if point == '.' && fraction.all Char.isDigit && !(whole.isEmpty && fraction.isEmpty) then
      .ok (ofParts whole fraction)
    else .error .invalid

end DiceChat.Number
