import DiceChat.Number.Shortest

/-!
# Writing numbers

A number is written with its shortest digits, either positionally or with an exponent. Which of
the two, and whether an integral value keeps a fraction, is a matter of style.
-/

namespace DiceChat.Number

/-- How the shortest digits are laid out. -/
structure Style where
  /-- The powers of ten of the leading digit that are written positionally, all if `none`. -/
  positional : Option (Int × Int)
  /-- Whether an integral value ends in `.0`. -/
  pointed : Bool

def digitChars (n : Nat) : List Char :=
  Nat.toDigits 10 n

namespace Decimal

/-- The power of ten of the leading digit. -/
def magnitude (d : Decimal) : Int :=
  d.place + (digitChars d.digits).length - 1

/-- Digits with the point where it stands. -/
def positional (d : Decimal) (pointed : Bool) : List Char :=
  let digits := digitChars d.digits
  if 0 ≤ d.place then
    digits ++ List.replicate d.place.toNat '0' ++ (if pointed then ['.', '0'] else [])
  else
    let fraction := (-d.place).toNat
    if fraction < digits.length then
      digits.take (digits.length - fraction) ++ '.' :: digits.drop (digits.length - fraction)
    else
      ['0', '.'] ++ List.replicate (fraction - digits.length) '0' ++ digits

/-- One digit, the others after a point, and the power of ten of the first. -/
def scientific (d : Decimal) : List Char :=
  let mantissa := match digitChars d.digits with
    | first :: second :: rest => first :: '.' :: second :: rest
    | digits => digits
  mantissa ++ 'e' :: (toString d.magnitude).toList

end Decimal

namespace Style

def writeDecimal (style : Style) (d : Decimal) : List Char :=
  match style.positional with
  | none => d.positional style.pointed
  | some (least, greatest) =>
    if least ≤ d.magnitude ∧ d.magnitude ≤ greatest then d.positional style.pointed
    else d.scientific

def signChars : Float.Model.UnpackedFloat.Sign → List Char
  | .negative => ['-']
  | .positive => []

def writeChars (style : Style) (x : Float) : List Char :=
  match x.toModel.unpack with
  | .notANumber => ['N', 'a', 'N']
  | .infinity sign => signChars sign ++ ['i', 'n', 'f']
  | .zero sign => signChars sign ++ '0' :: (if style.pointed then ['.', '0'] else [])
  | .finite sign significand exponent _ =>
    signChars sign ++ style.writeDecimal (Binary.shortest ⟨significand, exponent⟩)

def write (style : Style) (x : Float) : String :=
  String.ofList (style.writeChars x)

end Style
end DiceChat.Number
