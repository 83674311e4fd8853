import DiceChat.Proofs.Expr.Positions
import DiceChat.Proofs.Expr.Programs
import DiceChat.Proofs.Expr.Taken

/-!
# Blanks between tokens

A parser sees the tokens that are read from its text, and nothing else of the text. Blanks end a
number and are no token, so where they stand between two texts, the tokens of the second follow
those of the first, and where no number goes on without them, they can be left out.

## Main results

* `Cursor.lexed_spaced`: what is read from two texts with blanks between them.
* `Parser.Alike.sameAnswer`: parsers with the same tokens in front of them answer the same.
* `parse_of_lexed`: both, for texts.

## Proof strategy

Two parsers are alike if they show the same window and what is left to read is the same for both.
Reading a token keeps this, and a look at the window shows no difference, so everything that is put
together from these steps runs the same on both.
-/

namespace DiceChat

/-! ### Reading -/

namespace Cursor

variable {c d after : Cursor} {front blanks rest : List Char} {tokens : List Token}

theorem cut_of_blanks (all : ∀ b ∈ blanks, isBlank b = true) (front : List Char) :
    Cut front blanks := by
  intro c _ _
  cases blanks with
  | nil => exact stops_nil
  | cons b blanks => exact stops_cons.mpr (isLiteralChar_of_isBlank (all b List.mem_cons_self))

/-- Behind blanks, no number goes on. -/
theorem cut_behind_blanks (all : ∀ b ∈ blanks, isBlank b = true) (filled : blanks ≠ [])
    (front rest : List Char) : Cut (front ++ blanks) rest := by
  intro c last literal
  rw [List.getLast?_append, List.getLast?_eq_some_getLast filled, Option.some_or,
    Option.mem_some_iff] at last
  have blank := all c (last ▸ List.getLast_mem filled)
  simp [isLiteralChar_of_isBlank blank] at literal

/-- Two texts with blanks between them are read one after the other. If there are no blanks, no
number may go on from one to the other. -/
theorem lexed_spaced (spells : Spells front tokens) (all : ∀ b ∈ blanks, isBlank b = true)
    (apart : blanks ≠ [] ∨ Cut front rest) :
    lexed ⟨front ++ blanks ++ rest, 0⟩ = (tokens ++ (lexed ⟨rest, 0⟩).1, (lexed ⟨rest, 0⟩).2) := by
  have none : Spells blanks [] := spells_nil_iff_blank.mpr all
  have spaced : Spells (front ++ blanks) tokens := by
    simpa using spells.append none (cut_of_blanks all front)
  refine spaced.lexed_append ?_ 0
  by_cases filled : blanks = []
  · simpa [filled] using apart
  · exact cut_behind_blanks all filled front rest

/-- What is read at the end of a text is the end, again and again. -/
theorem lexed_behind_end (read : c.next = .ok .endOfInput after) : after.lexed = ([], none) :=
  lexed_of_end (next_of_rest_nil (rest_of_next_end read))

/-- Where the same is left to read, the next reading answers the same. -/
inductive SameReading : EStateM.Result ParseError Cursor Token →
    EStateM.Result ParseError Cursor Token → Prop where
  | token {t : Token} {c d : Cursor} : c.lexed = d.lexed → SameReading (.ok t c) (.ok t d)
  | fault {fault : ParseError} {c d : Cursor} : SameReading (.error fault c) (.error fault d)

theorem sameReading (same : c.lexed = d.lexed) : SameReading c.next d.next := by
  cases read : c.next with
  | error fault after =>
    rw [lexed_of_error read, eq_comm, lexed_eq_fault_iff] at same
    obtain ⟨after', read'⟩ := same
    rw [read']
    exact .fault
  | ok token after =>
    by_cases ended : token = .endOfInput
    · subst ended
      rw [lexed_of_end read, eq_comm, ← spells_iff_lexed, spells_nil_iff] at same
      obtain ⟨after', read'⟩ := same
      rw [read']
      exact .token (by rw [lexed_behind_end read, lexed_behind_end read'])
    · rw [lexed_of_token read ended] at same
      cases read' : d.next with
      | error fault' after' => simp [lexed_of_error read'] at same
      | ok token' after' =>
        by_cases ended' : token' = .endOfInput
        · subst ended'
          simp [lexed_of_end read'] at same
        · simp only [lexed_of_token read' ended', Prod.mk.injEq, List.cons.injEq] at same
          obtain ⟨⟨rfl, tokens⟩, fault⟩ := same
          exact .token (Prod.ext tokens fault)

end Cursor

/-! ### Parsing -/

namespace Parser

variable {α β : Type} {p q : Parser} {x : ParserM α} {f : α → ParserM β}

/-- The same window, and the same tokens behind it. -/
structure Alike (p q : Parser) : Prop where
  current : p.current = q.current
  peek : p.peek = q.peek
  lexed : p.cursor.lexed = q.cursor.lexed

/-- The same answer, and alike behind it, or the same fault. -/
inductive SameOutcome : EStateM.Result ParseError Parser α →
    EStateM.Result ParseError Parser α → Prop where
  | answer {a : α} {p q : Parser} : Alike p q → SameOutcome (.ok a p) (.ok a q)
  | fault {fault : ParseError} {p q : Parser} : SameOutcome (.error fault p) (.error fault q)

/-- A program that runs the same on parsers that are alike. -/
def SameRun (x : ParserM α) : Prop :=
  ∀ p q, Alike p q → SameOutcome (x p) (x q)

theorem SameRun.bind (first : SameRun x) (behind : ∀ a, SameRun (f a)) : SameRun (x >>= f) := by
  intro p q alike
  have bound (p : Parser) : (x >>= f) p = EStateM.bind x f p := rfl
  have outcome := first p q alike
  rw [bound, bound, EStateM.bind, EStateM.bind]
  cases ran : x p <;> cases ran' : x q <;> rw [ran, ran'] at outcome <;> cases outcome
  case answer later => exact behind _ _ _ later
  case fault => exact .fault

theorem sameRun_advance : SameRun advance := by
  intro p q alike
  have reading := Cursor.sameReading alike.lexed
  unfold advance
  cases reading' : p.cursor.next <;> cases reading'' : q.cursor.next <;>
    rw [reading', reading''] at reading <;> cases reading
  case token same => exact .answer ⟨alike.peek, rfl, same⟩
  case fault => exact .fault

theorem sameRun_compositional : Compositional SameRun where
  pure a _ _ alike := .answer alike
  throw fault _ _ _ := .fault
  advance := sameRun_advance
  bind := SameRun.bind
  look each same p q alike := by
    have seen := same p q alike.current alike.peek
    rw [get_bind, get_bind, seen]
    exact each q p q alike

end Parser

/-- The same tree or value, or the same fault, wherever it is located. -/
def SameAnswer {α : Type} (one other : Except ParseError α) : Prop :=
  one.mapError ParseError.bare = other.mapError ParseError.bare

theorem ParseError.bare_atPosition (fault : ParseError) (n k : Nat) :
    (fault.atPosition n).bare = (fault.atPosition k).bare := by
  cases fault <;> rfl

theorem SameAnswer.map {α β : Type} {one other : Except ParseError α} (same : SameAnswer one other)
    (f : α → β) : SameAnswer (one.map f) (other.map f) := by
  unfold SameAnswer at *
  cases one <;> cases other <;> simp_all [Except.map, Except.mapError]

namespace Parser

variable {p q : Parser} {text other : String}

/-- Alike parsers may stand at different positions, which shows in the location of a fault only. -/
theorem Alike.sameAnswer (alike : Alike p q) : SameAnswer p.answered.1 q.answered.1 := by
  have outcome := sameRun_compositional.whole p q alike
  unfold answered parse
  cases ran : whole p <;> cases ran' : whole q <;> rw [ran, ran'] at outcome <;> cases outcome
  case answer => rfl
  case fault fault r s => exact congrArg Except.error (fault.bare_atPosition _ _)

/-- On texts that are read alike, parsers start alike, or none does and the fault is the same. -/
theorem ofText_alike (same : (Cursor.ofText text).lexed = (Cursor.ofText other).lexed) :
    (∃ fault, ofText text = .error fault ∧ ofText other = .error fault) ∨
      ∃ p q, ofText text = .ok p ∧ ofText other = .ok q ∧ Alike p q := by
  have first := Cursor.sameReading same
  unfold ofText
  cases read : (Cursor.ofText text).next <;> cases read' : (Cursor.ofText other).next <;>
    rw [read, read'] at first <;> cases first
  case fault fault _ _ => exact .inl ⟨fault, rfl, rfl⟩
  case token current c d left =>
    by_cases ended : current = .endOfInput
    · subst ended
      exact .inl ⟨.empty, rfl, rfl⟩
    · -- The second reading is the one of what the first has left.
      have second := Cursor.sameReading left
      cases ahead : c.next <;> cases ahead' : d.next <;> rw [ahead, ahead'] at second <;>
        cases second
      case fault fault _ _ => exact .inl ⟨fault, by simp [ahead], by simp [ahead']⟩
      case token peek c d left =>
        exact .inr ⟨⟨c, current, peek⟩, ⟨d, current, peek⟩, by simp [ahead], by simp [ahead'],
          rfl, rfl, left⟩

end Parser

namespace Expr

variable {text other : String}

theorem parse_eq_answered (text : String) :
    parse text = (Parser.ofText text).bind fun p => p.answered.1 := by
  unfold parse Parser.answered Except.bind
  cases Parser.ofText text with
  | error fault => rfl
  | ok p => dsimp only; cases p.parse <;> rfl

theorem sameAnswer_of_lexed (same : (Cursor.ofText text).lexed = (Cursor.ofText other).lexed) :
    SameAnswer (parse text) (parse other) := by
  rw [parse_eq_answered, parse_eq_answered]
  rcases Parser.ofText_alike same with ⟨fault, failed, failed'⟩ | ⟨p, q, started, started', alike⟩
  · rw [failed, failed']
    rfl
  · rw [started, started']
    exact alike.sameAnswer

end Expr

/-- With blanks between them, texts are read one after the other if the first has no fault. What is
read from a text decides what it is parsed as and its value, up to where a fault is located. So
blanks between texts of which no number goes on from one to the other change nothing. -/
theorem parse_of_lexed :
    (∀ a w b : String, (Cursor.ofText a).lexed.2 = none → w ≠ "" →
      (∀ c ∈ w.toList, isBlank c = true) →
        (Cursor.ofText (a ++ w ++ b)).lexed =
          ((Cursor.ofText a).lexed.1 ++ (Cursor.ofText b).lexed.1, (Cursor.ofText b).lexed.2)) ∧
    (∀ text other : String, (Cursor.ofText text).lexed = (Cursor.ofText other).lexed →
      SameAnswer (Expr.parse text) (Expr.parse other) ∧
        SameAnswer (Expr.evaluate text) (Expr.evaluate other)) ∧
    ∀ a w b : String, (Cursor.ofText a).lexed.2 = none → (∀ c ∈ w.toList, isBlank c = true) →
      Cut a.toList b.toList →
        SameAnswer (Expr.parse (a ++ w ++ b)) (Expr.parse (a ++ b)) ∧
          SameAnswer (Expr.evaluate (a ++ w ++ b)) (Expr.evaluate (a ++ b)) := by
  have spaced (a w b : String) (clean : (Cursor.ofText a).lexed.2 = none)
      (all : ∀ c ∈ w.toList, isBlank c = true) (apart : w ≠ "" ∨ Cut a.toList b.toList) :
      (Cursor.ofText (a ++ w ++ b)).lexed =
        ((Cursor.ofText a).lexed.1 ++ (Cursor.ofText b).lexed.1, (Cursor.ofText b).lexed.2) := by
    have spells : Spells a.toList (Cursor.ofText a).lexed.1 :=
      (@Cursor.spells_iff_lexed (Cursor.ofText a) _).mpr (Prod.ext rfl clean)
    have filled : w.toList ≠ [] ∨ Cut a.toList b.toList := by simpa using apart
    simpa [Cursor.ofText] using Cursor.lexed_spaced spells all filled
  have answers {text other : String}
      (same : (Cursor.ofText text).lexed = (Cursor.ofText other).lexed) :
      SameAnswer (Expr.parse text) (Expr.parse other) ∧
        SameAnswer (Expr.evaluate text) (Expr.evaluate other) :=
    ⟨Expr.sameAnswer_of_lexed same, (Expr.sameAnswer_of_lexed same).map Expr.eval⟩
  refine ⟨fun a w b clean filled all => spaced a w b clean all (.inl filled),
    fun text other same => answers same, fun a w b clean all cut => answers ?_⟩
  -- No blanks at all are blanks as well.
  have unspaced := spaced a "" b clean (by simp) (.inr cut)
  rw [String.append_empty] at unspaced
  rw [spaced a w b clean all (.inr cut), unspaced]

/-- A tab and an ideographic space in front of a point that is no number. -/
theorem parse_of_lexed_point :
    let a := "(1.5*"
    let w := "\t\u3000"
    let b := ".5)+."
    (Cursor.ofText a).lexed.2 = none ∧ w ≠ "" ∧ (∀ c ∈ w.toList, isBlank c = true) ∧
      Cut a.toList b.toList ∧
      (Cursor.ofText (a ++ w ++ b)).lexed =
        ((Cursor.ofText a).lexed.1 ++ (Cursor.ofText b).lexed.1, (Cursor.ofText b).lexed.2) ∧
      SameAnswer (Expr.parse (a ++ w ++ b)) (Expr.parse (a ++ b)) ∧
      Expr.parse (a ++ b) = .error (.located 10 (.number .invalid)) ∧
      Expr.parse (a ++ w ++ b) = .error (.located 12 (.number .invalid)) := by
  intro a w b
  have one : (Cursor.ofText a).next = .ok .leftParenthesis ⟨"1.5*".toList, 1⟩ := by decide +kernel
  have two : Cursor.next ⟨"1.5*".toList, 1⟩ = .ok (.number 1.5) ⟨['*'], 4⟩ := by decide +kernel
  have three : Cursor.next ⟨['*'], 4⟩ = .ok .times ⟨[], 5⟩ := by decide +kernel
  have ended : Cursor.next ⟨[], 5⟩ = .ok .endOfInput ⟨[], 5⟩ := rfl
  have clean : (Cursor.ofText a).lexed.2 = none := by
    rw [Cursor.lexed_of_token one nofun, Cursor.lexed_of_token two nofun,
      Cursor.lexed_of_token three nofun, Cursor.lexed_of_end ended]
  have filled : w ≠ "" := by decide
  have all : ∀ c ∈ w.toList, isBlank c = true := List.all_eq_true.mp (by decide +kernel)
  have cut : Cut a.toList b.toList := by
    intro c last literal
    have star : a.toList.getLast? = some '*' := by decide
    rw [star, Option.mem_some_iff] at last
    exact absurd (last ▸ literal) (by decide)
  obtain ⟨joined, -, unchanged⟩ := parse_of_lexed
  exact ⟨clean, filled, all, cut, joined a w b clean filled all, (unchanged a w b clean all cut).1,
    by decide +kernel, by decide +kernel⟩

end DiceChat
