import DiceChat.Dice
import DiceChat.Text.Letter

/-!
# Directives

A directive is the text between the first `[` of a message and the first `]` after it, such as
`[2d6+3 fire damage]`. It holds, in this order,

* a dice spec: the first digit that a `d` follows, and the digits after the `d`;
* a modifier: everything up to the first letter;
* a label: that letter and everything after it.

The number of dice is a single digit, so `12d6` throws two dice.
-/

namespace DiceChat

structure Directive where
  dice : Dice
  modifier : String
  label : String
deriving DecidableEq, Repr

namespace Directive

/-- The text between the first `[` and the first `]` after it. -/
def bracketed? (text : List Char) : Option (List Char) :=
  let body := (text.dropWhile (· != '[')).tail
  if body.contains ']' then some (body.takeWhile (· != ']')) else none

/-- The first digit that a `d` follows, and the text after the `d`. -/
def diceMark? : List Char → Option (Char × List Char)
  | [] => none
  | c :: rest =>
    if c.isDigit && rest.head? == some 'd' then some (c, rest.tail) else diceMark? rest

/-- The parts of a directive as written. -/
structure Parts where
  count : Char
  sides : List Char
  modifier : List Char
  label : List Char
deriving DecidableEq, Repr

/-- Splits what stands between the brackets. -/
def split (body : List Char) : Except DirectiveFault Parts :=
  match diceMark? body with
  | none => .error .missingDiceSpec
  | some (count, rest) =>
    let sides := rest.takeWhile Char.isDigit
    let tail := rest.dropWhile Char.isDigit
    let label := tail.dropWhile fun c => !isLetter c
    if sides.isEmpty then .error .missingSides
    else if label.isEmpty then .error .missingLabel
    else .ok ⟨count, sides, tail.takeWhile fun c => !isLetter c, label⟩

/-- The value of a run of digits. -/
def readCount (digits : List Char) : Except RollError UInt32 :=
  match readUnsigned digits with
  | .ok value => .ok value
  | .error .tooLarge => .error (.numericOverflow (.sides (String.ofList digits)))
  | .error _ => .error (.malformedDirective .missingSides)

/-- The directive with these parts. -/
def ofParts (parts : Parts) : Except RollError Directive := do
  let sides ← readCount parts.sides
  let count ← readCount [parts.count]
  let dice ← (DiceDraft.mk sides count).build
  return ⟨dice, String.ofList (trim parts.modifier), String.ofList (trimEnd parts.label)⟩

/-- The directive of a message, if it has one. -/
def find (text : String) : Except RollError (Option Directive) :=
  match bracketed? text.toList with
  | none => .ok none
  | some body =>
    match split body with
    | .error fault => .error (.malformedDirective fault)
    | .ok parts => (ofParts parts).map some

end Directive
end DiceChat
