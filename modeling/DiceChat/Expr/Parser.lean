import DiceChat.Expr.Cursor

/-!
# Parsing expressions

`*`, `/` and `%` bind tighter than `+` and `-`, operators associate to the left, and signs bind
tightest. A parser looks one token ahead and may be asked again after an answer or an error; it
goes on from where it stands.

Nesting is bounded: a parenthesis, a sign and an operator each take one of `maxDepth` levels, and
the recursion is on the levels left.
-/

namespace DiceChat

/-- Levels to which an expression may nest. -/
def maxDepth : Nat := 256

structure Parser where
  cursor : Cursor
  current : Token
  peek : Token
deriving DecidableEq, Repr

abbrev ParserM := EStateM ParseError Parser

namespace Parser

/-- Steps to the next token. If none can be read, the step to the token ahead has been made and
the token ahead stays. -/
def advance : ParserM Unit := fun p =>
  match p.cursor.next with
  | .ok token cursor => .ok () ⟨cursor, p.peek, token⟩
  | .error fault cursor => .error fault ⟨cursor, p.peek, p.peek⟩

/-- Whether the token ahead binds tighter than `precedence`. -/
def bindsTighter (precedence : Precedence) (p : Parser) : Bool :=
  p.peek != .endOfInput && decide (precedence.rank < p.peek.precedence.rank)

/-- The operand that starts at the current token; `nested` parses what a sign or a parenthesis
holds. -/
def operand (nested : Precedence → ParserM Expr) : ParserM Expr := do
  match (← get).current with
  | .number value => return .literal value
  | .minus =>
    advance
    return .signed .minus (← nested .sign)
  | .plus =>
    advance
    return .signed .plus (← nested .sign)
  | .leftParenthesis =>
    advance
    let inner ← nested .lowest
    if (← get).peek = .rightParenthesis then
      advance
      return inner
    else
      throw .unclosedParenthesis
  | other => throw (.operandExpected other.name)

/-- The operator at the current token joins `left` to what `nested` parses after it. -/
def operation (nested : Precedence → ParserM Expr) (left : Expr) : ParserM Expr := do
  let current := (← get).current
  match current.operator? with
  | some op =>
    advance
    return .binary op left (← nested op.precedence)
  | none => throw (.operatorExpected current.name)

mutual

/-- An operand and all operations after it that bind tighter than `precedence`. -/
def chain : Nat → Precedence → ParserM Expr
  | 0, _ => throw (.tooDeep maxDepth)
  | levels + 1, precedence => do
    let first ← operand (chain levels)
    operations levels precedence first

/-- All operations on `left` that bind tighter than `precedence`, each one level deeper than the
one before. -/
def operations : Nat → Precedence → Expr → ParserM Expr
  | 0, precedence, left => do
    if bindsTighter precedence (← get) then throw (.tooDeep maxDepth) else return left
  | levels + 1, precedence, left => do
    if bindsTighter precedence (← get) then
      advance
      let joined ← operation (chain levels) left
      operations levels precedence joined
    else
      return left

end

/-- An expression with nothing after it. -/
def whole : ParserM Expr := do
  let e ← chain maxDepth .lowest
  let ahead := (← get).peek
  if ahead = .endOfInput then return e else throw (.trailingInput ahead.name)

/-- Parses from where the parser stands; an error is located where the cursor has come to. -/
def parse : ParserM Expr := fun p =>
  match whole p with
  | .ok e q => .ok e q
  | .error fault q => .error (fault.atPosition q.cursor.position) q

/-- The answers of successive calls, each with the parser that it leaves behind. -/
def calls : Nat → Parser → List (Except ParseError Expr × Parser)
  | 0, _ => []
  | count + 1, p =>
    match parse p with
    | .ok e q => (.ok e, q) :: calls count q
    | .error fault q => (.error fault, q) :: calls count q

/-- Reads the first two tokens; their errors have no location. -/
def ofText (text : String) : Except ParseError Parser :=
  match (Cursor.ofText text).next with
  | .error fault _ => .error fault
  | .ok .endOfInput _ => .error .empty
  | .ok current cursor =>
    match cursor.next with
    | .error fault _ => .error fault
    | .ok peek cursor => .ok ⟨cursor, current, peek⟩

end Parser

namespace Expr

def parse (text : String) : Except ParseError Expr :=
  match Parser.ofText text with
  | .error fault => .error fault
  | .ok parser =>
    match parser.parse with
    | .ok e _ => .ok e
    | .error fault _ => .error fault

/-- The value of the expression that a text spells. -/
def evaluate (text : String) : Except ParseError Float :=
  (parse text).map eval

end Expr
end DiceChat
