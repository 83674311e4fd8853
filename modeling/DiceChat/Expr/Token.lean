import DiceChat.Expr.Basic

/-!
# Tokens of an expression
-/

namespace DiceChat

inductive Token where
  | number (value : Float)
  | plus
  | minus
  | times
  | divide
  | modulo
  | leftParenthesis
  | rightParenthesis
  | endOfInput
deriving DecidableEq, Repr

/-- How tightly an operator binds its operands. -/
inductive Precedence where
  | lowest
  | sum
  | product
  | sign
deriving DecidableEq, Repr

def Precedence.rank : Precedence → Nat
  | lowest => 1
  | sum => 2
  | product => 3
  | sign => 4

def BinaryOp.precedence : BinaryOp → Precedence
  | add | sub => .sum
  | mul | div | rem => .product

/-- A number in a message keeps its fraction and takes an exponent when it is very small or
very large. -/
def tokenStyle : Number.Style where
  positional := some (-4, 15)
  pointed := true

namespace Token

/-- The token that a character stands for on its own. -/
def ofSymbol? : Char → Option Token
  | '+' => some plus
  | '-' => some minus
  | '*' => some times
  | '/' => some divide
  | '%' => some modulo
  | '(' => some leftParenthesis
  | ')' => some rightParenthesis
  | _ => none

/-- The operator that a token stands for between two operands. -/
def operator? : Token → Option BinaryOp
  | plus => some .add
  | minus => some .sub
  | times => some .mul
  | divide => some .div
  | modulo => some .rem
  | _ => none

def precedence (t : Token) : Precedence :=
  match t.operator? with
  | some op => op.precedence
  | none => .lowest

/-- The name of a token in messages. -/
def name : Token → String
  | number value => "Number(" ++ tokenStyle.write value ++ ")"
  | plus => "Plus"
  | minus => "Minus"
  | times => "Multiply"
  | divide => "Divide"
  | modulo => "Modulo"
  | leftParenthesis => "LeftParenthesis"
  | rightParenthesis => "RightParenthesis"
  | endOfInput => "Eof"

end Token
end DiceChat
