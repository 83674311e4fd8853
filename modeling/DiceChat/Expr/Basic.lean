import DiceChat.Number.Remainder
import DiceChat.Number.Style

/-!
# Arithmetic expressions

Trees of literals, signs and the five operators, their values in binary floating point, and their
fully parenthesised text.
-/

namespace DiceChat

inductive Sign where
  | plus
  | minus
deriving DecidableEq, Repr

namespace Sign

def symbol : Sign → Char
  | plus => '+'
  | minus => '-'

def apply : Sign → Float → Float
  | plus, x => x
  | minus, x => -x

end Sign

inductive BinaryOp where
  | add
  | sub
  | mul
  | div
  | rem
deriving DecidableEq, Repr

namespace BinaryOp

def symbol : BinaryOp → Char
  | add => '+'
  | sub => '-'
  | mul => '*'
  | div => '/'
  | rem => '%'

def apply : BinaryOp → Float → Float → Float
  | add, x, y => x + y
  | sub, x, y => x - y
  | mul, x, y => x * y
  | div, x, y => x / y
  | rem, x, y => Number.remainder x y

end BinaryOp

/-- Two trees are equal under `==` when they have one shape and their literals are equal numbers. -/
inductive Expr where
  | literal (value : Float)
  | signed (sign : Sign) (operand : Expr)
  | binary (op : BinaryOp) (left right : Expr)
deriving BEq, DecidableEq, Repr

/-- Values are written positionally and without a needless point. -/
def valueStyle : Number.Style where
  positional := none
  pointed := false

def valueText (x : Float) : String :=
  valueStyle.write x

namespace Expr

/-- A literal for an unsigned number, always exact. -/
def ofUnsigned (n : UInt32) : Expr :=
  literal n.toFloat

def eval : Expr → Float
  | literal value => value
  | signed sign operand => sign.apply operand.eval
  | binary op left right => op.apply left.eval right.eval

/-- Every operator in parentheses, signs bare. -/
def chars : Expr → List Char
  | literal value => valueStyle.writeChars value
  | signed sign operand => sign.symbol :: operand.chars
  | binary op left right =>
    '(' :: left.chars ++ [' ', op.symbol, ' '] ++ right.chars ++ [')']

def text (e : Expr) : String :=
  String.ofList e.chars

/-- Nodes on the longest path from the root. -/
def height : Expr → Nat
  | literal _ => 1
  | signed _ operand => operand.height + 1
  | binary _ left right => max left.height right.height + 1

end Expr
end DiceChat
