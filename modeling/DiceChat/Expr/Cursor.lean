import DiceChat.Expr.ParseError
import DiceChat.Expr.Token
import DiceChat.Text.Blank
import DiceChat.Text.Numeral

/-!
# Reading tokens

A cursor stands in a text and reads one token at a time. Blanks before a token are skipped. A
malformed number or a word is read whole before it is refused; a character that begins no token is
refused where it stands.
-/

namespace DiceChat

/-- What is left of a text, and how many characters have been read. -/
structure Cursor where
  rest : List Char
  position : Nat
deriving DecidableEq, Repr

namespace Cursor

def ofText (text : String) : Cursor :=
  ⟨text.toList, 0⟩

/-- Reads on while `p` holds. -/
def skipWhile (p : Char → Bool) (c : Cursor) : Cursor :=
  ⟨c.rest.dropWhile p, c.position + (c.rest.takeWhile p).length⟩

/-- The token at a character that is no blank. -/
def tokenAt (c : Cursor) (first : Char) : EStateM.Result ParseError Cursor Token :=
  match Token.ofSymbol? first with
  | some token => .ok token ⟨c.rest.tail, c.position + 1⟩
  | none =>
    if Number.isLiteralChar first then
      match Number.readLiteral (c.rest.takeWhile Number.isLiteralChar) with
      | .ok value => .ok (.number value) (c.skipWhile Number.isLiteralChar)
      | .error fault => .error (.number fault) (c.skipWhile Number.isLiteralChar)
    else if isLetter first then
      .error (.identifier (String.ofList (c.rest.takeWhile isWordChar))) (c.skipWhile isWordChar)
    else
      .error (.token first) c

def next (c : Cursor) : EStateM.Result ParseError Cursor Token :=
  let c := c.skipWhile isBlank
  match c.rest with
  | [] => .ok .endOfInput c
  | first :: _ => c.tokenAt first

end Cursor
end DiceChat
