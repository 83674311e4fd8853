import DiceChat.Number.Literal

/-!
# Errors in expressions

A fault is located at most once on its way out; the text of a located fault names the position in
characters.
-/

namespace DiceChat

inductive ParseError where
  | located (position : Nat) (fault : ParseError)
  /-- A character that begins no token. -/
  | token (c : Char)
  | number (fault : Number.LiteralFault)
  | identifier (word : String)
  | empty
  | unclosedParenthesis
  /-- A token that begins no operand. -/
  | operandExpected (found : String)
  /-- A token that joins no operands. -/
  | operatorExpected (found : String)
  | trailingInput (found : String)
  | tooDeep (limit : Nat)
deriving DecidableEq, Repr

namespace ParseError

def message : ParseError → String
  | located position fault => s!"At position {position} - " ++ fault.message
  | token c => s!"Invalid token: {c}"
  | number fault => s!"Invalid number: {fault.message}"
  | identifier word => s!"Invalid identifier: {word}"
  | empty => "Input string is empty"
  | unclosedParenthesis => "Parenthesis was not closed"
  | operandExpected found => s!"Unexpected prefix: {found}"
  | operatorExpected found => s!"Unexpected infix: {found}"
  | trailingInput found => s!"Unexpected trailing input: {found}"
  | tooDeep limit => s!"Expression nests deeper than {limit} levels"

/-- The fault under its location. -/
def bare : ParseError → ParseError
  | located _ fault => fault
  | fault => fault

def position? : ParseError → Option Nat
  | located position _ => some position
  | _ => none

/-- Locates a fault that has no location yet. -/
def atPosition (position : Nat) : ParseError → ParseError
  | located first fault => located first fault
  | fault => located position fault

/-- The text of the fault behind this one: only an unlocated number has one. -/
def cause? : ParseError → Option String
  | number fault => some fault.message
  | _ => none

end ParseError
end DiceChat
