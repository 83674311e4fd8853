import DiceChat.Proofs.Expr.Steps

/-!
# Counting levels

The parser is given the levels that it may use, and recursion is on those that are left. Here is
the parser that counts the levels it is in instead: it steps in by one level for every operand and
for every operation, gives up beyond `maxDepth`, and is back on its level when an expression is
over, whatever came of it. Nothing in it bounds the recursion, so it is run with a number of
expressions that may be under way at once, and of rounds that a loop over operations may take.

## Main results

* `Counting.parse_eq`: with `maxDepth + 1` expressions and `maxDepth` rounds, and with any number
  beyond them, the counting parser comes to an end, gives the answer of the parser, and is back on
  its level.
-/

namespace DiceChat

/-- A parser with the number of levels that it is in. -/
structure Counting where
  parser : Parser
  depth : Nat

/-- Programs on a counting parser. One that is not over, or comes where nothing is foreseen, has no
outcome. -/
abbrev CountingM := ExceptT ParseError (StateT Counting Option)

namespace Counting

variable {α β : Type}

/-! ### The counting parser -/

def stuck : CountingM α := fun _ => none

/-- What the parser does on one level. -/
def lift (x : ParserM α) : CountingM α := fun c =>
  match x c.parser with
  | .ok a p => some (.ok a, ⟨p, c.depth⟩)
  | .error fault p => some (.error fault, ⟨p, c.depth⟩)

def advance : CountingM Unit := lift Parser.advance

/-- Steps in by one level, if there is one. -/
def descend : CountingM Unit := fun c =>
  if c.depth + 1 ≤ maxDepth then some (.ok (), ⟨c.parser, c.depth + 1⟩)
  else some (.error (.tooDeep maxDepth), ⟨c.parser, c.depth + 1⟩)

/-- Goes back to the level of the start, also after a fault. -/
def restoring (x : CountingM α) : CountingM α := fun c =>
  (x c).map fun (answer, after) => (answer, ⟨after.parser, c.depth⟩)

/-- The operand that starts at the current token. -/
def operand (nested : Precedence → CountingM Expr) : CountingM Expr := do
  match (← get).parser.current with
  | .number value => return .literal value
  | .minus =>
    advance
    return .signed .minus (← nested .sign)
  | .plus =>
    advance
    return .signed .plus (← nested .sign)
  | .leftParenthesis =>
    advance
    let inner ← nested .lowest
    if (← get).parser.peek = .rightParenthesis then
      advance
      return inner
    else
      throw .unclosedParenthesis
  | other => throw (.operandExpected other.name)

/-- The tree for the token between two operands. Only operators are foreseen. -/
def join (token : Token) (left right : Expr) : CountingM Expr :=
  match token.operator? with
  | some op => return .binary op left right
  | none => stuck

/-- The operator at the current token joins `left` to what comes after it. -/
def operation (nested : Precedence → CountingM Expr) (left : Expr) : CountingM Expr := do
  let current := (← get).parser.current
  if current.operator?.isSome then
    advance
    let right ← nested current.precedence
    join current left right
  else
    throw (.operatorExpected current.name)

/-- Joins operations on `left`, one level further in for each, in no more than `rounds` rounds. -/
def operations (nested : Precedence → CountingM Expr) (precedence : Precedence) :
    Nat → Expr → CountingM Expr
  | 0, left => do
    if Parser.bindsTighter precedence (← get).parser then stuck else return left
  | rounds + 1, left => do
    if Parser.bindsTighter precedence (← get).parser then
      descend
      advance
      let joined ← operation nested left
      operations nested precedence rounds joined
    else
      return left

/-- An operand with its operations. No more than `alive` such expressions may be under way. -/
def chain (rounds : Nat) : Nat → Precedence → CountingM Expr
  | 0, _ => stuck
  | alive + 1, precedence => restoring do
    descend
    let first ← operand (chain rounds alive)
    operations (chain rounds alive) precedence rounds first

/-- An expression with nothing after it. -/
def whole (rounds alive : Nat) : CountingM Expr := do
  let e ← chain rounds alive .lowest
  let ahead := (← get).parser.peek
  if ahead = .endOfInput then return e else throw (.trailingInput ahead.name)

/-- Parses from where the parser stands; an error is located where the cursor has come to. -/
def parse (rounds alive : Nat) : CountingM Expr := fun c =>
  (whole rounds alive c).map fun (answer, after) =>
    match answer with
    | .ok e => (.ok e, after)
    | .error fault => (.error (fault.atPosition after.parser.cursor.position), after)

/-! ### Programs side by side -/

/-- The outcome of a program of the parser, as one that is on a level. -/
def outcome (depth : Nat) :
    EStateM.Result ParseError Parser α → Option (Except ParseError α × Counting)
  | .ok a p => some (.ok a, ⟨p, depth⟩)
  | .error fault p => some (.error fault, ⟨p, depth⟩)

variable {p : Parser} {depth : Nat} {x : CountingM α} {y : ParserM α} {f : α → CountingM β}
  {g : α → ParserM β}

/-- From `p` on a level, both programs do the same, and the counting one stays on the level. -/
def Stays (depth : Nat) (p : Parser) (x : CountingM α) (y : ParserM α) : Prop :=
  x ⟨p, depth⟩ = outcome depth (y p)

/-- From `p` on a level, both programs do the same, whatever level the counting one ends on. -/
def Agrees (depth : Nat) (p : Parser) (x : CountingM α) (y : ParserM α) : Prop :=
  ∃ after, x ⟨p, depth⟩ = outcome after (y p)

theorem Stays.agrees (stays : Stays depth p x y) : Agrees depth p x y :=
  ⟨depth, stays⟩

theorem Agrees.restoring (agrees : Agrees depth p x y) : Stays depth p (restoring x) y := by
  obtain ⟨after, same⟩ := agrees
  rw [Stays, Counting.restoring, same]
  cases y p <;> rfl

theorem get_bind (f : Counting → CountingM α) (c : Counting) : (get >>= f) c = f c c :=
  rfl

/-- Behind a program that stays on the level, the next one starts on it. -/
theorem Stays.bind_eq (first : Stays depth p x y) :
    (x >>= f) ⟨p, depth⟩ = match y p with
      | .ok a q => f a ⟨q, depth⟩
      | .error fault q => some (.error fault, ⟨q, depth⟩) := by
  change (x ⟨p, depth⟩ >>= _) = _
  rw [first]
  cases y p <;> rfl

theorem Stays.bind (first : Stays depth p x y) (behind : ∀ a q, Stays depth q (f a) (g a)) :
    Stays depth p (x >>= f) (y >>= g) := by
  have right : (y >>= g) p = EStateM.bind y g p := rfl
  rw [Stays, first.bind_eq, right, EStateM.bind]
  cases y p with
  | ok a q => exact behind a q
  | error fault q => rfl

theorem Stays.bind_agrees (first : Stays depth p x y)
    (behind : ∀ a q, Agrees depth q (f a) (g a)) : Agrees depth p (x >>= f) (y >>= g) := by
  have right : (y >>= g) p = EStateM.bind y g p := rfl
  rw [Agrees, first.bind_eq, right, EStateM.bind]
  cases y p with
  | ok a q => exact behind a q
  | error fault q => exact ⟨depth, rfl⟩

theorem stays_pure (a : α) : Stays depth p (pure a) (pure a) :=
  rfl

theorem stays_throw (fault : ParseError) :
    Stays depth p (throw fault : CountingM α) (throw fault) :=
  rfl

theorem stays_advance : Stays depth p advance Parser.advance := by
  rw [Stays, advance, lift]
  cases Parser.advance p <;> rfl

theorem descend_bind (c : Counting) (f : Unit → CountingM α) :
    (descend >>= f) c = if c.depth + 1 ≤ maxDepth then f () ⟨c.parser, c.depth + 1⟩
      else some (.error (.tooDeep maxDepth), ⟨c.parser, c.depth + 1⟩) := by
  change (descend c >>= _) = _
  rw [descend]
  split <;> rfl

/-! ### One function after the other -/

variable {nested : Precedence → CountingM Expr} {inner : Precedence → ParserM Expr}

theorem stays_operand (expressions : ∀ precedence q, Stays depth q (nested precedence)
    (inner precedence)) : Stays depth p (operand nested) (Parser.operand inner) := by
  unfold operand Parser.operand
  rw [Stays, get_bind, Parser.get_bind]
  have signed (sign : Sign) : Stays depth p
      (advance >>= fun _ => do return Expr.signed sign (← nested .sign))
      (Parser.advance >>= fun _ => do return Expr.signed sign (← inner .sign)) :=
    stays_advance.bind fun _ q => (expressions .sign q).bind fun _ _ => stays_pure _
  cases p.current with
  | number value => exact stays_pure _
  | minus => exact signed .minus
  | plus => exact signed .plus
  | leftParenthesis =>
    refine stays_advance.bind fun _ q => (expressions .lowest q).bind fun e r => ?_
    rw [Stays, get_bind, Parser.get_bind]
    dsimp only
    split
    · exact stays_advance.bind fun _ _ => stays_pure _
    · exact stays_throw _
  | times | divide | modulo | rightParenthesis | endOfInput => exact stays_throw _

/-- Only operators come between two operands. -/
theorem stays_operation (expressions : ∀ precedence q, Stays depth q (nested precedence)
    (inner precedence)) (left : Expr) :
    Stays depth p (operation nested left) (Parser.operation inner left) := by
  unfold operation Parser.operation
  rw [Stays, get_bind, Parser.get_bind]
  dsimp only
  cases found : p.current.operator? with
  | none => exact stays_throw _
  | some op =>
    have precedence : p.current.precedence = op.precedence := by rw [Token.precedence, found]
    rw [precedence]
    refine stays_advance.bind fun _ q => (expressions _ q).bind fun right r => ?_
    rw [join, found]
    exact stays_pure _

/-- The loop has rounds for all levels that are left, and one to find that there are no more. -/
theorem agrees_operations {depth rounds : Nat} {precedence : Precedence}
    (expressions : ∀ level, depth < level → level ≤ maxDepth → ∀ precedence q,
      Stays level q (nested precedence) (Parser.chain (maxDepth - level) precedence))
    (within : depth ≤ maxDepth) (enough : maxDepth < rounds + depth) (left : Expr) (p : Parser) :
    Agrees depth p (operations nested precedence rounds left)
      (Parser.operations (maxDepth - depth) precedence left) := by
  induction rounds generalizing depth left p with
  | zero => omega
  | succ rounds ih =>
    cases ahead : Parser.bindsTighter precedence p with
    | false =>
      refine ⟨depth, ?_⟩
      rw [Parser.operations_stop ahead, operations, get_bind, if_neg (by rw [ahead]; decide)]
      rfl
    | true =>
      rw [Agrees, operations, get_bind, if_pos ahead, descend_bind]
      dsimp only
      by_cases room : depth + 1 ≤ maxDepth
      · obtain ⟨levels, fewer⟩ : ∃ levels, maxDepth - depth = levels + 1 :=
          ⟨maxDepth - (depth + 1), by omega⟩
        obtain rfl : levels = maxDepth - (depth + 1) := by omega
        rw [if_pos room, fewer, Parser.operations, Parser.get_bind, if_pos ahead]
        -- One level further in, the loop and what it joins on have one level less.
        refine stays_advance.bind_agrees fun _ q =>
          (stays_operation (expressions _ (Nat.lt_succ_self _) room) left).bind_agrees
            fun joined r => ?_
        exact ih (fun level further => expressions level (by omega)) room (by omega) joined r
      · have none : maxDepth - depth = 0 := by omega
        rw [if_neg room, none, Parser.operations, Parser.get_bind, if_pos ahead]
        exact ⟨depth + 1, rfl⟩

theorem stays_chain {depth rounds alive : Nat} (rounded : maxDepth ≤ rounds)
    (within : depth ≤ maxDepth) (enough : maxDepth < alive + depth) (precedence : Precedence)
    (p : Parser) :
    Stays depth p (chain rounds alive precedence)
      (Parser.chain (maxDepth - depth) precedence) := by
  induction alive generalizing depth precedence p with
  | zero => omega
  | succ alive ih =>
    rw [chain]
    apply Agrees.restoring
    rw [Agrees, descend_bind]
    dsimp only
    by_cases room : depth + 1 ≤ maxDepth
    · obtain ⟨levels, fewer⟩ : ∃ levels, maxDepth - depth = levels + 1 :=
        ⟨maxDepth - (depth + 1), by omega⟩
      obtain rfl : levels = maxDepth - (depth + 1) := by omega
      rw [if_pos room, fewer, Parser.chain]
      have expressions (level : Nat) (further : depth < level) (within : level ≤ maxDepth) :=
        ih within (show maxDepth < alive + level by omega)
      exact (stays_operand (expressions (depth + 1) (Nat.lt_succ_self _) room)).bind_agrees
        fun first q => agrees_operations
          (fun level further => expressions level (by omega)) room (by omega) first q
    · have none : maxDepth - depth = 0 := by omega
      rw [if_neg room, none, Parser.chain]
      exact ⟨depth + 1, rfl⟩

theorem stays_whole {rounds alive : Nat} (rounded : maxDepth ≤ rounds) (enough : maxDepth < alive)
    (p : Parser) : Stays 0 p (whole rounds alive) Parser.whole := by
  unfold whole Parser.whole
  refine (stays_chain rounded (Nat.zero_le _) enough .lowest p).bind fun e q => ?_
  rw [Stays, get_bind, Parser.get_bind]
  dsimp only
  split
  · exact stays_pure _
  · exact stays_throw _

/-- With enough expressions under way at once and enough rounds, the counting parser comes to an
end, answers as the parser does and is back on its level, whether it succeeds or fails. -/
theorem parse_eq {rounds alive : Nat} (rounded : maxDepth ≤ rounds) (enough : maxDepth < alive)
    (p : Parser) : parse rounds alive ⟨p, 0⟩ = outcome 0 p.parse := by
  have same := stays_whole rounded enough p
  rw [Stays] at same
  rw [parse, same, Parser.parse]
  cases p.whole <;> rfl

end Counting
end DiceChat
