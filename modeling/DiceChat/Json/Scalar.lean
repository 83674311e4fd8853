import DiceChat.Json.Basic
import DiceChat.Text.Digit

/-!
# Numbers and records in JSON

An unsigned number is written as a plain integer. A floating point number is read in two steps:
its leading digits are gathered while they fit in 64 bits, and the result is scaled by one power
of ten, so the last bit may differ from the nearest value.

A record is an object in which each of its fields occurs at most once and other names are ignored,
or an array of its fields in order.
-/

namespace DiceChat.Json

/-! ## Unsigned numbers -/

/-- A plain integer of 32 bits. -/
def toUnsigned? : Json → Option UInt32
  | .number ⟨false, whole, [], none⟩ =>
    if digitsValue whole < UInt32.size then some (UInt32.ofNat (digitsValue whole)) else none
  | _ => none

def toText? : Json → Option String
  | .string marks => marks.toText?
  | _ => none

/-! ## Floating point numbers -/

/-- Appends digits to a significand while it fits in 64 bits: the significand, the number of digits
taken, and the number of digits left. -/
def gather (significand : Nat) : List Char → Nat × Nat × Nat
  | [] => (significand, 0, 0)
  | c :: rest =>
    let next := significand * 10 + digitValue c
    if next < UInt64.size then
      let (significand, taken, left) := gather next rest
      (significand, taken + 1, left)
    else
      (significand, 0, rest.length + 1)

/-- The nearest value of `10 ^ n`. -/
def powerOfTen (n : Nat) : Float :=
  Float.ofScientific 1 false n

/-- Divides by `10 ^ n`, in two steps beyond the largest power that is finite. Two such powers
bring every significand of 64 bits to zero. -/
def scaleDown (x : Float) (n : Nat) : Float :=
  if n ≤ 308 then x / powerOfTen n
  else if n ≤ 616 then x / powerOfTen 308 / powerOfTen (n - 308)
  else 0

/-- `significand * 10 ^ exponent`, unless it is beyond the largest value. -/
def scale? (significand : Nat) (exponent : Int) : Option Float :=
  let x := Float.ofNat significand
  match exponent with
  | .negSucc n => some (scaleDown x (n + 1))
  | .ofNat n =>
    if n ≤ 308 then
      let y := x * powerOfTen n
      if y.isInf then none else some y
    else if x == 0 then some x else none

def Number.toFloat? (n : Number) : Option Float :=
  let (significand, _, left) := gather 0 n.whole
  let (significand, taken, _) := gather significand n.fraction
  let size := scale? significand (n.exponent.getD 0 + left - taken)
  if n.negative then size.map (- ·) else size

def toFloat? : Json → Option Float
  | .number n => n.toFloat?
  | _ => none

/-! ## Records -/

/-- The value of the field `name`: `none` where it is missing, no answer where it occurs twice. -/
def member? (members : List (String × Json)) (name : String) : Option (Option Json) :=
  match members.filter fun member => member.1 == name with
  | [] => some none
  | [member] => some (some member.2)
  | _ => none

/-- The fields of a record, each with its value if it is there. -/
def record? (names : List String) : Json → Option (List (Option Json))
  | .array items =>
    if items.length ≤ names.length then
      some (items.map some ++ List.replicate (names.length - items.length) none)
    else none
  | .object members => do
    let members ← members.mapM fun (name, value) => name.toText?.map (·, value)
    names.mapM (member? members)
  | _ => none

end DiceChat.Json
