import DiceChat.Proofs.Expr.Calls

/-!
# The stack of a parse

The parser calls itself for every operand that a sign, a parenthesis or an operator asks for. Here
is the machine that it runs on: it keeps the activations that wait for such an operand on a stack,
each with the rounds that its loop over operations has begun, and it counts the levels that it is
in as the counting parser does.

## Main results

* `CallStack.Bounded.step`: what every step keeps, and `CallStack.bounded_run` from it for all runs.
* `CallStack.leads_halted`: the machine comes to an end, with the answer of the parser.
* `CallStack.recursion_bounded`: how many activations and rounds a parse takes at most.

## Proof strategy

An activation is one level further in than it was entered on, and one more for each round. So the
levels of the uppermost activation count all rounds and all activations below it, and they are no
more than there are.
-/

namespace DiceChat

/-- One expression under way. -/
structure Activation where
  /-- The level that it was entered on, and goes back to. -/
  entry : Nat
  precedence : Precedence
  /-- The rounds that its loop over operations has begun. -/
  rounds : Nat
deriving DecidableEq, Repr

/-- What an activation does with the operand that it waits for. -/
inductive Pending where
  | signed (sign : Sign)
  | group
  | joined (op : BinaryOp) (left : Expr)
deriving DecidableEq, Repr

structure Frame where
  activation : Activation
  pending : Pending
deriving DecidableEq, Repr

/-- What the uppermost activation does next. -/
inductive Phase where
  | enter
  | operand
  /-- Looks whether an operation is to be joined on. -/
  | look (left : Expr)
  /-- Begins the round for the operation ahead. -/
  | round (left : Expr)
  | operation (left : Expr)
deriving DecidableEq, Repr

/-- The machine: an activation with those that wait for it, the answer of one that is over for
those that have waited, or the answer of the whole parse. -/
inductive CallStack where
  | running (c : Counting) (phase : Phase) (top : Activation) (below : List Frame)
  | returned (answer : Except ParseError Expr) (c : Counting) (below : List Frame)
  | halted (answer : Except ParseError Expr) (c : Counting)

namespace CallStack

variable {α β : Type}

/-- The activations that are not over. -/
def activations : CallStack → List Activation
  | running _ _ top below => top :: below.map Frame.activation
  | returned _ _ below => below.map Frame.activation
  | halted _ _ => []

def start (p : Parser) : CallStack :=
  running ⟨p, 0⟩ .enter ⟨0, .lowest, 0⟩ []

/-! ### Steps -/

/-- The uppermost activation is over, and the parser is back on the level that it came from. -/
def leave (answer : Except ParseError Expr) (p : Parser) (entry : Nat) (below : List Frame) :
    CallStack :=
  returned answer ⟨p, entry⟩ below

/-- The uppermost activation waits for an operand. -/
def call (c : Counting) (precedence : Precedence) (waiting : Frame) (below : List Frame) :
    CallStack :=
  running c .enter ⟨c.depth, precedence, 0⟩ (waiting :: below)

/-- One level further in, if there is one. -/
def descending (c : Counting) (entry : Nat) (below : List Frame)
    (next : Counting → CallStack) : CallStack :=
  if c.depth + 1 ≤ maxDepth then next ⟨c.parser, c.depth + 1⟩
  else leave (.error (.tooDeep maxDepth)) c.parser entry below

def advancing (c : Counting) (entry : Nat) (below : List Frame)
    (next : Counting → CallStack) : CallStack :=
  match Parser.advance c.parser with
  | .ok () p => next ⟨p, c.depth⟩
  | .error fault p => leave (.error fault) p entry below

/-- A tree has to be all of the input, and faults are located. -/
def conclude (p : Parser) : Except ParseError Expr → Except ParseError Expr
  | .ok e =>
    if p.peek = .endOfInput then .ok e
    else .error (.located p.cursor.position (.trailingInput p.peek.name))
  | .error fault => .error (fault.atPosition p.cursor.position)

/-- A frame goes on with the operand that it has waited for. -/
def resume (e : Expr) (c : Counting) (below : List Frame) : Frame → CallStack
  | ⟨top, .signed sign⟩ => running c (.look (.signed sign e)) top below
  | ⟨top, .joined op left⟩ => running c (.look (.binary op left e)) top below
  | ⟨top, .group⟩ =>
    if c.parser.peek = .rightParenthesis then
      advancing c top.entry below fun c => running c (.look e) top below
    else leave (.error .unclosedParenthesis) c.parser top.entry below

def step : CallStack → CallStack
  | running c .enter top below =>
    descending c top.entry below fun c => running c .operand top below
  | running c .operand top below =>
    match c.parser.current with
    | .number value => running c (.look (.literal value)) top below
    | .minus => advancing c top.entry below fun c => call c .sign ⟨top, .signed .minus⟩ below
    | .plus => advancing c top.entry below fun c => call c .sign ⟨top, .signed .plus⟩ below
    | .leftParenthesis => advancing c top.entry below fun c => call c .lowest ⟨top, .group⟩ below
    | other => leave (.error (.operandExpected other.name)) c.parser top.entry below
  | running c (.look left) top below =>
    if Parser.bindsTighter top.precedence c.parser then
      running c (.round left) { top with rounds := top.rounds + 1 } below
    else leave (.ok left) c.parser top.entry below
  | running c (.round left) top below =>
    descending c top.entry below fun c =>
      advancing c top.entry below fun c => running c (.operation left) top below
  | running c (.operation left) top below =>
    match c.parser.current.operator? with
    | some op =>
      advancing c top.entry below fun c => call c op.precedence ⟨top, .joined op left⟩ below
    | none => leave (.error (.operatorExpected c.parser.current.name)) c.parser top.entry below
  | returned (.ok e) c (frame :: below) => resume e c below frame
  | returned (.error fault) c (frame :: below) =>
    leave (.error fault) c.parser frame.activation.entry below
  | returned answer c [] => halted (conclude c.parser answer) c
  | halted answer c => halted answer c

/-! ### What every step keeps -/

/-- The frames below an activation that was entered on a level: each is one level further in than
it was entered on, and one more for each round. -/
def Nested : Nat → List Frame → Prop
  | _, [] => True
  | entry, ⟨a, _⟩ :: below => entry = a.entry + a.rounds + 1 ∧ Nested a.entry below

/-- The levels of an activation, the rounds apart. -/
def Phase.levels : Phase → Nat
  | .enter | .round _ => 0
  | .operand | .look _ | .operation _ => 1

/-- The level counts what is on the stack, and there is such a level. -/
def Bounded : CallStack → Prop
  | running c phase top below =>
    c.depth ≤ maxDepth ∧ c.depth = top.entry + top.rounds + Phase.levels phase ∧
      Nested top.entry below
  | returned _ c below => c.depth ≤ maxDepth ∧ Nested c.depth below
  | halted _ _ => True

variable {p : Parser} {c : Counting} {precedence : Precedence} {pending : Pending}
  {top : Activation} {below : List Frame} {next : Counting → CallStack}
  {answer : Except ParseError Expr} {entry : Nat}

theorem Nested.length_le (nested : Nested entry below) : below.length ≤ entry := by
  induction below generalizing entry with
  | nil => exact Nat.zero_le _
  | cons frame below ih =>
    obtain ⟨level, further⟩ := nested
    have fewer := ih further
    rw [List.length_cons]
    omega

theorem Nested.rounds_le (nested : Nested entry below) {a : Activation}
    (waits : a ∈ below.map Frame.activation) : a.rounds ≤ entry := by
  induction below generalizing entry with
  | nil => cases waits
  | cons frame below ih =>
    obtain ⟨level, further⟩ := nested
    rcases List.mem_cons.mp waits with rfl | waits
    · omega
    · have fewer := ih further waits
      omega

theorem Bounded.activations_le {s : CallStack} (bounded : Bounded s) :
    s.activations.length ≤ maxDepth + 1 := by
  cases s with
  | running c phase top below =>
    obtain ⟨within, level, nested⟩ := bounded
    have waiting := nested.length_le
    rw [activations, List.length_cons, List.length_map]
    omega
  | returned answer c below =>
    obtain ⟨within, nested⟩ := bounded
    have waiting := nested.length_le
    rw [activations, List.length_map]
    omega
  | halted answer c => exact Nat.zero_le _

theorem Bounded.rounds_le {s : CallStack} (bounded : Bounded s) {a : Activation}
    (alive : a ∈ s.activations) : a.rounds ≤ maxDepth := by
  cases s with
  | running c phase top below =>
    obtain ⟨within, level, nested⟩ := bounded
    rcases List.mem_cons.mp alive with rfl | waits
    · omega
    · have fewer := nested.rounds_le waits
      omega
  | returned answer c below =>
    obtain ⟨within, nested⟩ := bounded
    exact (nested.rounds_le alive).trans within
  | halted answer c => cases alive

theorem Bounded.descending (entered : entry ≤ maxDepth) (nested : Nested entry below)
    (further : c.depth + 1 ≤ maxDepth → Bounded (next ⟨c.parser, c.depth + 1⟩)) :
    Bounded (descending c entry below next) := by
  rw [CallStack.descending]
  split
  · exact further ‹_›
  · exact ⟨entered, nested⟩

theorem Bounded.advancing (entered : entry ≤ maxDepth) (nested : Nested entry below)
    (further : ∀ p, Bounded (next ⟨p, c.depth⟩)) : Bounded (advancing c entry below next) := by
  rw [CallStack.advancing]
  split
  · exact further _
  · exact ⟨entered, nested⟩

/-- The level of a new activation counts the one that waits for it. -/
theorem Bounded.call (within : c.depth ≤ maxDepth) (level : c.depth = top.entry + top.rounds + 1)
    (nested : Nested top.entry below) : Bounded (call c precedence ⟨top, pending⟩ below) :=
  ⟨within, rfl, level, nested⟩

theorem Bounded.resume {e : Expr} (within : c.depth ≤ maxDepth)
    (level : c.depth = top.entry + top.rounds + 1) (nested : Nested top.entry below) :
    Bounded (resume e c below ⟨top, pending⟩) := by
  cases pending with
  | signed sign => exact ⟨within, level, nested⟩
  | joined op left => exact ⟨within, level, nested⟩
  | group =>
    have entered : top.entry ≤ maxDepth := by omega
    rw [CallStack.resume]
    split
    · exact Bounded.advancing entered nested fun p => ⟨within, level, nested⟩
    · exact ⟨entered, nested⟩

theorem Bounded.step {s : CallStack} (bounded : Bounded s) : Bounded (step s) := by
  cases s with
  | halted answer c => trivial
  | returned answer c below =>
    obtain ⟨within, nested⟩ := bounded
    cases below with
    | nil => cases answer <;> trivial
    | cons frame below =>
      obtain ⟨top, pending⟩ := frame
      -- The level that is gone back to is the one that the frame has waited on.
      obtain ⟨level, further⟩ := nested
      have entered : top.entry ≤ maxDepth := by omega
      cases answer with
      | ok e => exact Bounded.resume within level further
      | error fault => exact ⟨entered, further⟩
  | running c phase top below =>
    obtain ⟨within, level, nested⟩ := bounded
    have entered : top.entry ≤ maxDepth := by omega
    cases phase with
    | enter =>
      rw [CallStack.step]
      refine Bounded.descending entered nested fun room => ?_
      exact ⟨room, congrArg (· + 1) level, nested⟩
    | operand =>
      have calls (precedence : Precedence) (pending : Pending) : Bounded
          (CallStack.advancing c top.entry below fun c =>
            CallStack.call c precedence ⟨top, pending⟩ below) := by
        refine Bounded.advancing entered nested fun p => ?_
        exact Bounded.call within level nested
      rw [CallStack.step]
      split
      · exact ⟨within, level, nested⟩
      · exact calls _ _
      · exact calls _ _
      · exact calls _ _
      · exact ⟨entered, nested⟩
    | look left =>
      rw [CallStack.step]
      split
      · exact ⟨within, level, nested⟩
      · exact ⟨entered, nested⟩
    | round left =>
      rw [CallStack.step]
      refine Bounded.descending entered nested fun room => ?_
      refine Bounded.advancing entered nested fun p => ?_
      exact ⟨room, congrArg (· + 1) level, nested⟩
    | operation left =>
      rw [CallStack.step]
      split
      · exact Bounded.advancing entered nested fun p => Bounded.call within level nested
      · exact ⟨entered, nested⟩

theorem bounded_run (p : Parser) (n : Nat) : Bounded (step^[n] (start p)) := by
  induction n with
  | zero => exact ⟨Nat.zero_le _, rfl, trivial⟩
  | succ n ih =>
    rw [Function.iterate_succ_apply']
    exact ih.step

/-! ### Where the machine comes to -/

def Leads (s t : CallStack) : Prop :=
  ∃ n, step^[n] s = t

theorem Leads.refl (s : CallStack) : Leads s s :=
  ⟨0, rfl⟩

theorem Leads.behind {s t : CallStack} (leads : Leads (step s) t) : Leads s t := by
  obtain ⟨n, rfl⟩ := leads
  exact ⟨n + 1, rfl⟩

theorem Leads.trans {s t u : CallStack} (first : Leads s t) (second : Leads t u) : Leads s u := by
  obtain ⟨n, rfl⟩ := first
  obtain ⟨m, rfl⟩ := second
  exact ⟨m + n, Function.iterate_add_apply step m n s⟩

/-- From `s` on, the machine comes to what is next after a result, or leaves the activation if it
is a fault. -/
def Runs (s : CallStack) (entry : Nat) (below : List Frame) (next : α → Parser → CallStack) :
    EStateM.Result ParseError Parser α → Prop
  | .ok a q => Leads s (next a q)
  | .error fault q => Leads s (leave (.error fault) q entry below)

theorem Leads.runs {s t : CallStack} {next : α → Parser → CallStack}
    {result : EStateM.Result ParseError Parser α} (leads : Leads s t)
    (runs : Runs t entry below next result) : Runs s entry below next result := by
  cases result with
  | ok a q => exact leads.trans runs
  | error fault q => exact leads.trans runs

theorem Runs.behind {s : CallStack} {next : α → Parser → CallStack}
    {result : EStateM.Result ParseError Parser α}
    (runs : Runs (step s) entry below next result) : Runs s entry below next result :=
  Leads.runs (Leads.refl _).behind runs

theorem Runs.further {s : CallStack} {entry' : Nat} {below' : List Frame}
    {next next' : α → Parser → CallStack} {result : EStateM.Result ParseError Parser α}
    (runs : Runs s entry below next result) (done : ∀ a q, Leads (next a q) (next' a q))
    (left : ∀ fault q, Leads (leave (.error fault) q entry below)
      (leave (.error fault) q entry' below')) : Runs s entry' below' next' result := by
  cases result with
  | ok a q => exact Leads.trans runs (done a q)
  | error fault q => exact Leads.trans runs (left fault q)

theorem Runs.bind {s : CallStack} {x : ParserM α} {f : α → ParserM β}
    {between : α → Parser → CallStack} {next : β → Parser → CallStack}
    (first : Runs s entry below between (x p))
    (behind : ∀ a q, Runs (between a q) entry below next (f a q)) :
    Runs s entry below next ((x >>= f) p) := by
  have inRow : (x >>= f) p = EStateM.bind x f p := rfl
  rw [inRow, EStateM.bind]
  cases ran : x p with
  | error fault q =>
    rw [ran] at first
    exact first
  | ok a q =>
    rw [ran] at first
    exact Leads.runs first (behind a q)

theorem runs_advancing : Runs (advancing c entry below next) entry below
    (fun _ q => next ⟨q, c.depth⟩) (Parser.advance c.parser) := by
  rw [advancing]
  cases Parser.advance c.parser with
  | ok a q => exact .refl _
  | error fault q => exact .refl _

/-- From every parser on a level, the machine comes to the answer of a program and is back on the
level. -/
def Comes (depth : Nat) (precedence : Precedence) (x : ParserM Expr) : Prop :=
  ∀ p below, Runs (running ⟨p, depth⟩ .enter ⟨depth, precedence, 0⟩ below) depth below
    (fun e q => leave (.ok e) q depth below) (x p)

variable {depth : Nat} {inner : Precedence → ParserM Expr} {x : ParserM Expr}

/-- The activation that waits gets the operand, or is left with the same fault. -/
theorem Comes.runs_call (comes : Comes depth precedence x) (p : Parser) : Runs
    (call ⟨p, depth⟩ precedence ⟨top, pending⟩ below) top.entry below
    (fun e q => resume e ⟨q, depth⟩ below ⟨top, pending⟩) (x p) :=
  (comes p (⟨top, pending⟩ :: below)).further (fun _ _ => (Leads.refl _).behind)
    fun _ _ => (Leads.refl _).behind

theorem runs_operand (expressions : ∀ precedence, Comes depth precedence (inner precedence))
    (p : Parser) : Runs (running ⟨p, depth⟩ .operand top below) top.entry below
      (fun e q => running ⟨q, depth⟩ (.look e) top below) (Parser.operand inner p) := by
  apply Runs.behind
  unfold Parser.operand
  rw [Parser.get_bind, step]
  have signed (sign : Sign) : Runs
      (advancing ⟨p, depth⟩ top.entry below fun c => call c .sign ⟨top, .signed sign⟩ below)
      top.entry below (fun e q => running ⟨q, depth⟩ (.look e) top below)
      ((Parser.advance >>= fun _ => do return Expr.signed sign (← inner .sign)) p) :=
    runs_advancing.bind fun _ q => ((expressions .sign).runs_call q).bind fun _ _ => .refl _
  cases p.current with
  | number value => exact .refl _
  | minus => exact signed .minus
  | plus => exact signed .plus
  | leftParenthesis =>
    refine runs_advancing.bind fun _ q => ((expressions .lowest).runs_call q).bind fun e r => ?_
    rw [Parser.get_bind, resume]
    dsimp only
    split
    · exact runs_advancing.bind fun _ _ => .refl _
    · exact .refl _
  | times | divide | modulo | rightParenthesis | endOfInput => exact .refl _

theorem runs_operation (expressions : ∀ precedence, Comes depth precedence (inner precedence))
    (left : Expr) (p : Parser) :
    Runs (running ⟨p, depth⟩ (.operation left) top below) top.entry below
      (fun e q => running ⟨q, depth⟩ (.look e) top below) (Parser.operation inner left p) := by
  apply Runs.behind
  unfold Parser.operation
  rw [Parser.get_bind, step]
  dsimp only
  cases p.current.operator? with
  | some op =>
    exact runs_advancing.bind fun _ q => ((expressions _).runs_call q).bind fun _ _ => .refl _
  | none => exact .refl _

/-- With the levels that are left, the machine comes to what the parser answers. -/
theorem runs_chain {levels depth : Nat} (all : levels + depth = maxDepth) :
    (∀ precedence, Comes depth precedence (Parser.chain levels precedence)) ∧
      ∀ top below left p, Runs (running ⟨p, depth⟩ (.look left) top below) top.entry below
        (fun e q => leave (.ok e) q top.entry below)
        (Parser.operations levels top.precedence left p) := by
  induction levels generalizing depth with
  | zero =>
    have full : ¬depth + 1 ≤ maxDepth := by omega
    constructor
    · intro precedence p below
      apply Runs.behind
      rw [Parser.chain, step, descending, if_neg full]
      exact .refl _
    · intro top below left p
      apply Runs.behind
      rw [Parser.operations, Parser.get_bind, step]
      cases ahead : Parser.bindsTighter top.precedence p with
      | false => exact .refl _
      | true =>
        -- The round begins, and there is no level for it.
        apply Runs.behind
        rw [if_pos rfl, if_pos rfl, step, descending, if_neg full]
        exact .refl _
  | succ levels ih =>
    have room : depth + 1 ≤ maxDepth := by omega
    -- Operands and the rest of the loop are one level further in, and have one level less.
    obtain ⟨chains, loops⟩ := @ih (depth + 1) (by omega)
    constructor
    · intro precedence p below
      apply Runs.behind
      rw [Parser.chain, step, descending, if_pos room]
      exact (runs_operand chains p).bind fun first q => loops _ below first q
    · intro top below left p
      apply Runs.behind
      rw [Parser.operations, Parser.get_bind, step]
      cases ahead : Parser.bindsTighter top.precedence p with
      | false => exact .refl _
      | true =>
        apply Runs.behind
        rw [if_pos rfl, if_pos rfl, step, descending, if_pos room]
        refine runs_advancing.bind fun _ q => ?_
        exact (runs_operation chains left q).bind fun joined r =>
          loops { top with rounds := top.rounds + 1 } below joined r

theorem answered_eq (p : Parser) : p.answered = match Parser.chain maxDepth .lowest p with
    | .ok e q => (conclude q (.ok e), q)
    | .error fault q => (conclude q (.error fault), q) := by
  have inRow : p.whole = EStateM.bind (Parser.chain maxDepth .lowest) _ p := rfl
  rw [Parser.answered, Parser.parse, inRow, EStateM.bind]
  cases Parser.chain maxDepth .lowest p with
  | error fault q => rfl
  | ok e q =>
    dsimp only
    rw [Parser.get_bind, conclude]
    by_cases ended : q.peek = .endOfInput
    · rw [if_pos ended, if_pos ended]
      rfl
    · rw [if_neg ended, if_neg ended]
      rfl

/-- The machine comes to an end, with the answer of the parser and back on its level. -/
theorem leads_halted (p : Parser) : Leads (start p) (halted p.answered.1 ⟨p.answered.2, 0⟩) := by
  have runs := (runs_chain (Nat.add_zero maxDepth)).1 .lowest p []
  rw [answered_eq]
  cases ran : Parser.chain maxDepth .lowest p with
  | ok e q =>
    rw [ran] at runs
    exact Leads.trans runs (Leads.refl _).behind
  | error fault q =>
    rw [ran] at runs
    exact Leads.trans runs (Leads.refl _).behind

/-- From whatever calls before have left, a parse has at most `maxDepth + 1` activations at once,
and at most `maxDepth` rounds in each. The machine comes to an end with the answer of the parser,
and so does the recursive parser with these numbers of them, or with any larger ones. -/
theorem recursion_bounded (p : Parser) :
    (∀ n, (step^[n] (start p)).activations.length ≤ maxDepth + 1 ∧
      ∀ a ∈ (step^[n] (start p)).activations, a.rounds ≤ maxDepth) ∧
    (∃ n, step^[n] (start p) = halted p.answered.1 ⟨p.answered.2, 0⟩) ∧
    ∀ rounds alive, maxDepth ≤ rounds → maxDepth + 1 ≤ alive →
      Counting.parse rounds alive ⟨p, 0⟩ = Counting.parse maxDepth (maxDepth + 1) ⟨p, 0⟩ ∧
      Counting.parse rounds alive ⟨p, 0⟩ = some (p.answered.1, ⟨p.answered.2, 0⟩) := by
  refine ⟨fun n => ⟨(bounded_run p n).activations_le, fun a => (bounded_run p n).rounds_le⟩,
    leads_halted p, fun rounds alive rounded enough => ?_⟩
  have outcome : Counting.outcome 0 p.parse = some (p.answered.1, ⟨p.answered.2, 0⟩) := by
    rw [Parser.answered]
    cases p.parse <;> rfl
  rw [Counting.parse_eq rounded enough, Counting.parse_eq (Nat.le_refl _) (Nat.lt_succ_self _)]
  exact ⟨rfl, outcome⟩

/-- Three hundred parentheses take as many activations as there can be. -/
theorem recursion_bounded_parentheses :
    let p : Parser := ⟨⟨List.replicate 298 '(', 2⟩, .leftParenthesis, .leftParenthesis⟩
    Parser.ofText (String.ofList (List.replicate 300 '(')) = .ok p ∧
      (step^[512] (start p)).activations.length = maxDepth + 1 ∧
      (∀ n, (step^[n] (start p)).activations.length ≤ maxDepth + 1) ∧
      Counting.parse 1000 2000 ⟨p, 0⟩ =
        some (.error (.located 258 (.tooDeep maxDepth)),
          ⟨⟨⟨List.replicate 42 '(', 258⟩, .leftParenthesis, .leftParenthesis⟩, 0⟩) := by
  intro p
  obtain ⟨bounded, -, answers⟩ := recursion_bounded p
  have answered : p.answered = (.error (.located 258 (.tooDeep maxDepth)),
      ⟨⟨List.replicate 42 '(', 258⟩, .leftParenthesis, .leftParenthesis⟩) := by decide +kernel
  refine ⟨by decide +kernel, by decide +kernel, fun n => (bounded n).1, ?_⟩
  rw [(answers 1000 2000 (by decide) (by decide)).2, answered]

end CallStack
end DiceChat
