import DiceChat.Text.Digit

/-!
# Unsigned 32-bit numbers in text

Reading takes an optional `+` and decimal digits from left to right and stops at the first fault,
so a number that overflows before a stray character is reported as too large.
-/

namespace DiceChat

/-- Why a text is no unsigned 32-bit number. -/
inductive UnsignedFault where
  | empty
  | invalidDigit
  | tooLarge
deriving DecidableEq, Repr

def UnsignedFault.message : UnsignedFault → String
  | .empty => "cannot parse integer from empty string"
  | .invalidDigit => "invalid digit found in string"
  | .tooLarge => "number too large to fit in target type"

/-- Continues a number whose leading digits have the value `value`. -/
def readDigits (value : Nat) : List Char → Except UnsignedFault Nat
  | [] => .ok value
  | c :: rest =>
    if c.isDigit then
      let next := value * 10 + digitValue c
      if next < UInt32.size then readDigits next rest else .error .tooLarge
    else .error .invalidDigit

def readUnsigned (text : List Char) : Except UnsignedFault UInt32 :=
  match text with
  | [] => .error .empty
  | ['+'] => .error .invalidDigit
  | '+' :: digits => (readDigits 0 digits).map UInt32.ofNat
  | digits => (readDigits 0 digits).map UInt32.ofNat

end DiceChat
