import Mathlib.Logic.Function.Iterate
import DiceChat.Proofs.Expr.Counting
import DiceChat.Proofs.Expr.Faults

/-!
# Calling a parser again

A parser may be called again after an answer or a fault, and a call starts from whatever window the
call before has left. What holds of a parser that was just put on a text does not hold of all these
windows, so the invariants here are those that faults keep as well.

## Main results

* `Parser.Stands.called`: every call goes forward in the text and does not leave it.
* `Parser.parse_settled`: what later calls answer once a call has succeeded.
* `Parser.Stuck.called`: no call gets beyond a character that begins no token.
* `Parser.calls_stay_sane`: all of it, for any number of calls.
-/

namespace DiceChat

/-! ### The end of a derivation -/

/-- The literal furthest to the right. -/
def Expr.rightmost : Expr → Float
  | literal value => value
  | signed _ operand => operand.rightmost
  | binary _ _ right => right.rightmost

namespace Grammar

/-- The last token is the rightmost literal of the tree, or it closes a parenthesis. -/
def EndsLike (tokens : List Token) (e : Expr) : Prop :=
  tokens.getLast? = some (.number e.rightmost) ∨ tokens.getLast? = some .rightParenthesis

variable {tokens : List Token} {e : Expr}

theorem EndsLike.behind (ends : EndsLike tokens e) (front : List Token) :
    EndsLike (front ++ tokens) e := by
  rcases ends with last | last
  · left
    rw [List.getLast?_append, last, Option.some_or]
  · right
    rw [List.getLast?_append, last, Option.some_or]

theorem EndsLike.joined {right : Expr} (ends : EndsLike tokens right) (op : BinaryOp)
    (front : List Token) (left : Expr) :
    EndsLike (front ++ op.token :: tokens) (.binary op left right) := by
  rw [List.append_cons]
  exact EndsLike.behind (e := .binary op left right) ends _

theorem Unary.ends (u : Unary) : EndsLike u.tokens u.tree := by
  cases u with
  | number value => exact .inl rfl
  | signed sign operand =>
    exact EndsLike.behind (e := .signed sign operand.tree) operand.ends [sign.token]
  | group inner =>
    right
    rw [Unary.tokens, ← List.cons_append, List.getLast?_concat]
termination_by structural u

theorem Factors.ends (factors : Factors) {front : List Token} {left : Expr}
    (before : EndsLike front left) : EndsLike (front ++ factors.tokens) (factors.tree left) := by
  cases factors with
  | none => rwa [Factors.tokens, List.append_nil, Factors.tree]
  | more op tight next rest =>
    have joined := rest.ends (next.ends.joined op front left)
    rwa [List.append_assoc] at joined
termination_by structural factors

theorem Product.ends (product : Product) : EndsLike product.tokens product.tree := by
  obtain ⟨first, rest⟩ := product
  exact rest.ends first.ends

theorem Terms.ends (terms : Terms) {front : List Token} {left : Expr}
    (before : EndsLike front left) : EndsLike (front ++ terms.tokens) (terms.tree left) := by
  cases terms with
  | none => rwa [Terms.tokens, List.append_nil, Terms.tree]
  | more op loose next rest =>
    have joined := rest.ends (next.ends.joined op front left)
    rwa [List.append_assoc] at joined
termination_by structural terms

theorem Sum.ends (sum : Sum) : EndsLike sum.tokens sum.tree := by
  obtain ⟨first, rest⟩ := sum
  exact rest.ends first.ends

end Grammar

/-! ### Where a cursor stands -/

namespace Cursor

variable {text : List Char} {c after : Cursor}

/-- The cursor stands in the text where its position says. -/
structure StandsIn (text : List Char) (c : Cursor) : Prop where
  within : c.position ≤ text.length
  rest : c.rest = text.drop c.position

theorem standsIn_ofText (text : String) : (ofText text).StandsIn text.toList :=
  ⟨Nat.zero_le _, rfl⟩

/-- A reading from where the cursor stands, with the part of the text that it passes. -/
theorem StandsIn.piece (stands : StandsIn text c) :
    ∃ blanks piece result after, c.next = reading after result ∧
      (∀ b ∈ blanks, isBlank b = true) ∧ Piece piece after.rest result ∧
      c.rest = blanks ++ piece ++ after.rest ∧ StandsIn text after ∧
      text.take after.position = text.take c.position ++ (blanks ++ piece) ∧
      c.position ≤ after.position := by
  obtain ⟨blanks, piece, rest, result, same, all, -, taken, read⟩ := c.next_piece
  rw [← List.append_assoc] at same
  have passed : (blanks ++ piece).length = blanks.length + piece.length := List.length_append
  have whole : text.drop c.position = blanks ++ piece ++ rest := by rw [← stands.rest, same]
  refine ⟨blanks, piece, result, _, read, all, taken, same, ⟨?_, ?_⟩, ?_, Nat.le_add_right _ _⟩
  · have size := congrArg List.length whole
    have within := stands.within
    rw [List.length_drop, List.length_append, passed] at size
    dsimp only
    omega
  · dsimp only
    rw [← List.drop_drop, whole, ← passed, List.drop_left]
  · dsimp only
    rw [List.take_add, whole, ← passed, List.take_left]

theorem StandsIn.next {result : Except ParseError Token} (stands : StandsIn text c)
    (read : c.next = reading after result) :
    StandsIn text after ∧ c.position ≤ after.position := by
  obtain ⟨blanks, piece, result', after', read', -, -, -, there, -, forward⟩ := stands.piece
  obtain rfl : after = after' := by
    rw [read'] at read
    cases result <;> cases result' <;> cases read <;> rfl
  exact ⟨there, forward⟩

theorem StandsIn.token {token : Token} (stands : StandsIn text c)
    (read : c.next = .ok token after) : StandsIn text after ∧ c.position ≤ after.position :=
  @StandsIn.next text c after (.ok token) stands read

theorem StandsIn.fault {fault : ParseError} (stands : StandsIn text c)
    (read : c.next = .error fault after) : StandsIn text after ∧ c.position ≤ after.position :=
  @StandsIn.next text c after (.error fault) stands read

theorem StandsIn.position_of_end (stands : StandsIn text c) (ended : c.rest = []) :
    c.position = text.length := by
  have within := stands.within
  have all := stands.rest
  rw [ended, eq_comm, List.drop_eq_nil_iff] at all
  omega

theorem next_of_rest_nil (ended : c.rest = []) : c.next = .ok .endOfInput c := by
  obtain ⟨rest, position⟩ := c
  subst ended
  rfl

theorem rest_of_next_end (read : c.next = .ok .endOfInput after) : after.rest = [] := by
  obtain ⟨blanks, piece, rest, result, -, -, -, taken, read'⟩ := c.next_piece
  rw [read'] at read
  cases taken with
  | ended =>
    cases read
    rfl
  | symbol symbol =>
    cases read
    cases symbol
  | number | malformed | word | stray => cases read

/-- A character that begins no token is met again. -/
theorem next_of_token {x : Char} (read : c.next = .error (.token x) after) :
    after.next = .error (.token x) after := by
  obtain ⟨blanks, piece, rest, result, -, -, -, taken, read'⟩ := c.next_piece
  rw [read'] at read
  cases taken with
  | stray visible symbol literal letter =>
    cases read
    rw [next_cons visible]
    exact tokenAt_stray symbol literal letter _ _
  | ended | symbol | number | malformed | word => cases read

end Cursor

/-- A fault of the cursor: a text that is no token. -/
def ParseError.Lexical : ParseError → Prop
  | .token _ | .number _ | .identifier _ => True
  | .located _ _ | .empty | .unclosedParenthesis | .operandExpected _ | .operatorExpected _
  | .trailingInput _ | .tooDeep _ => False

/-- The faults that calls come to. They have no location yet, and none of them says that a text is
empty or that an operator was expected. -/
def ParseError.Raised : ParseError → Prop
  | .token _ | .number _ | .identifier _ | .unclosedParenthesis | .operandExpected _
  | .trailingInput _ | .tooDeep _ => True
  | .located _ _ | .empty | .operatorExpected _ => False

theorem ParseError.Lexical.raised {fault : ParseError} (lexical : fault.Lexical) :
    fault.Raised := by
  cases fault <;> first | exact lexical | trivial

theorem lexical_of_next {c after : Cursor} {fault : ParseError}
    (read : c.next = .error fault after) : fault.Lexical := by
  obtain ⟨blanks, piece, rest, result, -, -, -, taken, read'⟩ := c.next_piece
  rw [read'] at read
  cases taken with
  | malformed | word | stray =>
    cases read
    trivial
  | ended | symbol | number => cases read

/-! ### Calls -/

namespace Parser

variable {text : List Char} {p q r : Parser} {e : Expr} {fault : ParseError}

/-- The answer of a call, and the parser that it leaves behind. -/
def answered (p : Parser) : Except ParseError Expr × Parser :=
  match p.parse with
  | .ok e q => (.ok e, q)
  | .error fault q => (.error fault, q)

def called (p : Parser) : Parser :=
  p.answered.2

/-- The parser after a number of calls. -/
def after (p : Parser) (count : Nat) : Parser :=
  called^[count] p

theorem called_of_ok (parsed : p.parse = .ok e q) : p.called = q := by
  rw [called, answered, parsed]

theorem called_of_error (failed : p.parse = .error fault q) : p.called = q := by
  rw [called, answered, failed]

theorem after_succ (p : Parser) (count : Nat) : p.after (count + 1) = (p.after count).called :=
  Function.iterate_succ_apply' called count p

theorem after_add (p : Parser) (first count : Nat) :
    p.after (count + first) = (p.after first).after count :=
  Function.iterate_add_apply called count first p

theorem calls_succ (count : Nat) (p : Parser) :
    calls (count + 1) p = p.answered :: calls count p.called := by
  rw [calls, called, answered]
  cases p.parse <;> rfl

theorem calls_eq (count : Nat) (p : Parser) :
    calls count p = (List.range count).map fun i => (p.after i).answered := by
  induction count generalizing p with
  | zero => rfl
  | succ count ih =>
    rw [calls_succ, ih, List.range_succ_eq_map, List.map_cons, List.map_map]
    rfl

theorem Fails.raised (fails : Fails p fault q) : fault.Raised := by
  cases fails with
  | unread _ read => exact (lexical_of_next read).raised
  | tooDeep | operandExpected | unclosed | trailing => trivial

/-- From `p` on, some token could not be read. The step to the token ahead had been made, and no
other token came ahead: the window of `q` has moved halfway. -/
def Halfway (p : Parser) (fault : ParseError) (q : Parser) : Prop :=
  ∃ r after, Reaches p r ∧ r.cursor.next = .error fault after ∧ q = ⟨after, r.peek, r.peek⟩

/-- Only the faults of the cursor leave a window that has moved halfway. -/
theorem Fails.left (fails : Fails p fault q) :
    fault.Lexical ∧ Halfway p fault q ∨ ¬fault.Lexical ∧ Reaches p q := by
  cases fails with
  | unread reaches read => exact .inl ⟨lexical_of_next read, _, _, reaches, read, rfl⟩
  | tooDeep reaches => exact .inr ⟨id, reaches⟩
  | operandExpected reaches => exact .inr ⟨id, reaches⟩
  | unclosed reaches _ => exact .inr ⟨id, reaches⟩
  | trailing reaches _ => exact .inr ⟨id, reaches⟩

theorem reaches_of_parse (parsed : p.parse = .ok e q) : Reaches p q :=
  reaches_of_chain (whole_eq_ok_iff.mp (parse_eq_ok_iff_whole.mp parsed)).1

/-- All that a call can do to its parser. -/
theorem reaches_called (p : Parser) : Reaches p p.called ∨ ∃ fault, Halfway p fault p.called := by
  cases parsed : p.parse with
  | ok e q =>
    rw [called_of_ok parsed]
    exact .inl (reaches_of_parse parsed)
  | error fault q =>
    obtain ⟨kind, fails, -⟩ := parse_eq_error parsed
    rw [called_of_error parsed]
    rcases fails.left with ⟨-, halfway⟩ | ⟨-, reaches⟩
    · exact .inr ⟨kind, halfway⟩
    · exact .inl reaches

/-! ### Where a parser stands -/

/-- The cursor stands in the text, and at its end if the token ahead is the end. -/
structure Stands (text : List Char) (p : Parser) : Prop where
  cursor : p.cursor.StandsIn text
  ended : p.peek = .endOfInput → p.cursor.rest = []

theorem stands_ofText {text : String} (started : ofText text = .ok p) :
    p.Stands text.toList := by
  obtain ⟨between, read, -, ahead⟩ := ofText_eq_ok_iff.mp started
  refine ⟨(((Cursor.standsIn_ofText text).token read).1.token ahead).1, ?_⟩
  intro ended
  rw [ended] at ahead
  exact Cursor.rest_of_next_end ahead

theorem Stands.advance (stands : p.Stands text) (moved : advance p = .ok () q) :
    q.Stands text ∧ p.cursor.position ≤ q.cursor.position := by
  obtain ⟨token, after, read, rfl⟩ := advance_eq_ok_iff.mp moved
  obtain ⟨cursor, forward⟩ := stands.cursor.token read
  refine ⟨⟨cursor, ?_⟩, forward⟩
  intro ended
  dsimp only at ended
  subst ended
  exact Cursor.rest_of_next_end read

theorem Stands.reaches (stands : p.Stands text) (reaches : Reaches p q) :
    q.Stands text ∧ p.cursor.position ≤ q.cursor.position := by
  refine reaches.keeps ⟨stands, Nat.le_refl _⟩ ?_
  rintro m r ⟨there, forward⟩ moved
  obtain ⟨ahead, further⟩ := there.advance moved
  exact ⟨ahead, Nat.le_trans forward further⟩

/-- Where no token can be read, the token ahead is not the end. -/
theorem Stands.more (stands : p.Stands text) {after : Cursor}
    (read : p.cursor.next = .error fault after) : p.peek ≠ .endOfInput := by
  intro ended
  rw [Cursor.next_of_rest_nil (stands.ended ended)] at read
  cases read

theorem Stands.halfway (stands : p.Stands text) (halfway : Halfway p fault q) :
    q.Stands text ∧ p.cursor.position ≤ q.cursor.position := by
  obtain ⟨r, after, reaches, read, rfl⟩ := halfway
  obtain ⟨there, forward⟩ := stands.reaches reaches
  obtain ⟨cursor, further⟩ := there.cursor.fault read
  -- The window has the token ahead twice now, and it is not the end.
  exact ⟨⟨cursor, fun ended => absurd ended (there.more read)⟩, Nat.le_trans forward further⟩

/-- A call goes forward in the text and does not leave it. -/
theorem Stands.called (stands : p.Stands text) :
    p.called.Stands text ∧ p.cursor.position ≤ p.called.cursor.position := by
  rcases reaches_called p with reaches | ⟨fault, halfway⟩
  · exact stands.reaches reaches
  · exact stands.halfway halfway

theorem Stands.after (stands : p.Stands text) (count : Nat) : (p.after count).Stands text := by
  induction count with
  | zero => exact stands
  | succ count ih =>
    rw [after_succ]
    exact ih.called.1

/-! ### After a success -/

theorem current_of_spans {tokens : List Token} (spans : Spans p tokens q) :
    tokens.getLast? = some q.current := by
  obtain ⟨ahead, rfl, reads⟩ := spans
  induction ahead generalizing p with
  | nil =>
    obtain rfl := reads
    rfl
  | cons t ahead ih =>
    obtain ⟨m, moved, rfl, reads⟩ := reads
    rw [List.getLast?_cons_cons]
    exact ih reads

/-- In front of the end, a number is all there is. -/
theorem parse_number {value : Float} (current : p.current = .number value)
    (ended : p.peek = .endOfInput) : p.parse = .ok (.literal value) p := by
  have within : (1 : Nat) ≤ maxDepth := by decide
  exact parse_eq_ok_iff_whole.mpr (whole_eq_ok_iff_derivation.mpr
    ⟨.mk (.mk (.number value) .none) .none, spans_singleton.mpr ⟨current, rfl⟩, ended, within, rfl⟩)

theorem parse_rightParenthesis (current : p.current = .rightParenthesis) :
    p.parse = .error (.located p.cursor.position (.operandExpected "RightParenthesis")) p := by
  have operand : operand (chain 255) p = .error (.operandExpected "RightParenthesis") p := by
    unfold operand
    rw [get_bind, current]
    rfl
  have chain : chain maxDepth .lowest p = .error (.operandExpected "RightParenthesis") p := by
    rw [show maxDepth = 255 + 1 from rfl, chain]
    exact bind_eq_error_iff.mpr (.inl operand)
  have whole : whole p = .error (.operandExpected "RightParenthesis") p :=
    bind_eq_error_iff.mpr (.inl chain)
  rw [parse, whole]
  rfl

/-- What calls answer after a success: the token that the parser stands on is the last one of the
tree, and it is parsed once more. -/
theorem parse_settled (stands : p.Stands text) (parsed : p.parse = .ok e q) :
    (∃ front, Spans p (front ++ [q.current]) q) ∧
      (q.current = .number e.rightmost ∧ q.parse = .ok (.literal e.rightmost) q ∨
        q.current = .rightParenthesis ∧
          q.parse = .error (.located text.length (.operandExpected "RightParenthesis")) q) := by
  obtain ⟨sum, spans, ended, -, rfl⟩ :=
    whole_eq_ok_iff_derivation.mp (parse_eq_ok_iff_whole.mp parsed)
  have last := current_of_spans spans
  obtain ⟨front, written⟩ := List.getLast?_eq_some_iff.mp last
  refine ⟨⟨front, written ▸ spans⟩, ?_⟩
  rcases sum.ends with number | closing
  · left
    have current : q.current = .number sum.tree.rightmost :=
      Option.some.inj (last.symm.trans number)
    exact ⟨current, parse_number current ended⟩
  · right
    have current : q.current = .rightParenthesis := Option.some.inj (last.symm.trans closing)
    -- The cursor has come to the end of the text.
    have there := (stands.reaches (reaches_of_parse parsed)).1
    have position := there.cursor.position_of_end (there.ended ended)
    refine ⟨current, ?_⟩
    rw [← position]
    exact parse_rightParenthesis current

/-- A call that leaves its parser as it is is the last one that does anything. -/
theorem after_of_unchanged {i j : Nat} (same : (p.after (i + 1)).called = p.after (i + 1))
    (later : i < j) : p.after j = p.after (i + 1) := by
  obtain ⟨count, rfl⟩ : ∃ count, j = count + (i + 1) := ⟨j - (i + 1), by omega⟩
  rw [after_add]
  exact Function.iterate_fixed same count

/-! ### In front of a character that begins no token -/

/-- Nothing can be read any more, and the end is not reached. -/
structure Stuck (p : Parser) : Prop where
  more : p.peek ≠ .endOfInput
  refused : ∃ c, p.cursor.next = .error (.token c) p.cursor

theorem Stands.stuck (stands : p.Stands text) {c : Char} (fails : Fails p (.token c) q) :
    q.Stuck := by
  cases fails with
  | unread reaches read =>
    exact ⟨(stands.reaches reaches).1.more read, c, Cursor.next_of_token read⟩

theorem Stuck.reaches (stuck : p.Stuck) (reaches : Reaches p q) : q = p := by
  obtain ⟨tokens, reads⟩ := reaches
  cases tokens with
  | nil => exact reads
  | cons t tokens =>
    obtain ⟨m, moved, -⟩ := reads
    obtain ⟨token, after, read, -⟩ := advance_eq_ok_iff.mp moved
    obtain ⟨c, refused⟩ := stuck.refused
    rw [refused] at read
    cases read

theorem Stuck.not_parsed (stuck : p.Stuck) : p.parse ≠ .ok e q := by
  intro parsed
  have ended := (whole_eq_ok_iff.mp (parse_eq_ok_iff_whole.mp parsed)).2
  rw [stuck.reaches (reaches_of_parse parsed)] at ended
  exact stuck.more ended

theorem Stuck.called (stuck : p.Stuck) : p.called.Stuck := by
  rcases reaches_called p with reaches | ⟨fault, r, after, reaches, read, same⟩
  · rwa [stuck.reaches reaches]
  · obtain rfl := stuck.reaches reaches
    obtain ⟨c, refused⟩ := stuck.refused
    rw [refused] at read
    cases read
    rw [same]
    exact ⟨stuck.more, c, refused⟩

theorem Stuck.after (stuck : p.Stuck) (count : Nat) : (p.after count).Stuck := by
  induction count with
  | zero => exact stuck
  | succ count ih =>
    rw [after_succ]
    exact ih.called

/-! ### Any number of calls -/

/-- What holds of a parser on a text through any number of calls. -/
structure Sane (text : List Char) (p : Parser) : Prop where
  calls : ∀ count, calls count p = (List.range count).map fun i => (p.after i).answered
  /-- The counting parser comes to an end with the same answer, and back to its level. -/
  ends : ∀ rounds alive, maxDepth ≤ rounds → maxDepth < alive → ∀ i,
    Counting.parse rounds alive ⟨p.after i, 0⟩ = Counting.outcome 0 (p.after i).parse
  forward : ∀ i, (p.after i).cursor.position ≤ (p.after (i + 1)).cursor.position
  within : ∀ i, (p.after i).cursor.position ≤ text.length
  faults : ∀ i fault q, (p.after i).parse = .error fault q →
    ∃ kind, kind.Raised ∧ fault = .located q.cursor.position kind
  /-- After a success nothing changes any more, and the last token that was taken decides what
  every later call answers. -/
  settled : ∀ i e q, (p.after i).parse = .ok e q →
    (∃ front, Spans (p.after i) (front ++ [q.current]) q) ∧ (∀ j, i < j → p.after j = q) ∧
      (q.current = .number e.rightmost ∧ q.parse = .ok (.literal e.rightmost) q ∨
        q.current = .rightParenthesis ∧
          q.parse = .error (.located text.length (.operandExpected "RightParenthesis")) q)
  stuck : ∀ i position c q, (p.after i).parse = .error (.located position (.token c)) q →
    ∀ j, i < j → ∃ fault r, (p.after j).parse = .error fault r

theorem Stands.settled (stands : p.Stands text) {i : Nat}
    (parsed : (p.after i).parse = .ok e q) {j : Nat} (later : i < j) : p.after j = q := by
  have next : p.after (i + 1) = q := by rw [after_succ, called_of_ok parsed]
  have same : q.called = q := by
    rcases (parse_settled (stands.after i) parsed).2 with ⟨-, again⟩ | ⟨-, again⟩
    · exact called_of_ok again
    · exact called_of_error again
  rw [← next] at same ⊢
  exact after_of_unchanged same later

theorem Stands.stuck_after (stands : p.Stands text) {i position : Nat} {c : Char}
    (failed : (p.after i).parse = .error (.located position (.token c)) q) {j : Nat}
    (later : i < j) : (p.after j).Stuck := by
  obtain ⟨count, rfl⟩ : ∃ count, j = count + (i + 1) := ⟨j - (i + 1), by omega⟩
  obtain ⟨kind, fails, located⟩ := parse_eq_error failed
  cases located
  rw [after_add, after_succ, called_of_error failed]
  exact ((stands.after i).stuck fails).after count

/-- Whatever the calls before have come to, a call comes to an end and is back on its level, goes
forward in the text, and fails only in the ways that are told. After a success later calls repeat
its last token, and after a character that begins no token there is no success. -/
theorem calls_stay_sane {text : String} (started : ofText text = .ok p) : p.Sane text.toList := by
  have stands := stands_ofText started
  constructor
  case calls => exact fun count => calls_eq count p
  case ends => exact fun rounds alive rounded enough i => Counting.parse_eq rounded enough _
  case forward =>
    intro i
    rw [after_succ]
    exact (stands.after i).called.2
  case within => exact fun i => (stands.after i).cursor.within
  case faults =>
    intro i fault q failed
    obtain ⟨kind, fails, located⟩ := parse_eq_error failed
    exact ⟨kind, fails.raised, located⟩
  case settled =>
    intro i e q parsed
    obtain ⟨last, again⟩ := parse_settled (stands.after i) parsed
    exact ⟨last, fun j later => stands.settled parsed later, again⟩
  case stuck =>
    intro i position c q failed j later
    cases parsed : (p.after j).parse with
    | ok e r => exact absurd parsed (stands.stuck_after failed later).not_parsed
    | error fault r => exact ⟨fault, r, rfl⟩

/-- A word, a success behind it, and the parenthesis that the success has ended with. -/
theorem calls_stay_sane_word :
    let p : Parser := ⟨⟨"x (2)".toList, 2⟩, .number 1, .minus⟩
    ofText "1-x (2)" = .ok p ∧ p.Sane "1-x (2)".toList ∧
      (calls 3 p).map Prod.fst =
        [.error (.located 3 (.identifier "x")), .ok (.signed .minus (.signed .minus (.literal 2))),
          .error (.located 7 (.operandExpected "RightParenthesis"))] := by
  intro p
  have started : ofText "1-x (2)" = .ok p := by decide +kernel
  exact ⟨started, calls_stay_sane started, by decide +kernel⟩

end Parser
end DiceChat
