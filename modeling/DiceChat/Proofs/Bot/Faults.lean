import Mathlib
import DiceChat.Proofs.Bot.Answers
import DiceChat.Proofs.Expr.Faults
import DiceChat.Proofs.Number.Quotient

/-!
# The sum in front of the modifier

The expression for a throw is the sum of the faces, a blank and the modifier. Whatever the modifier
is, the sum is read as a number of its own, and the modifier behind it as it would be read alone.
Since neither holds a letter, an expression that cannot be parsed has no word in it, and it is not
empty.

## Main results

* `Bot.evaluating_keeps_sum`: the tokens of every expression that is evaluated, and the faults that
  it may have.

## Proof strategy

What is left of a text is an end of it, so a fault of reading is one of a text without letters, and
the other faults are those that the parser raises itself.
-/

namespace DiceChat

/-- The faults, under their location, that a sum with a modifier may have. -/
def ParseError.OfModifier : ParseError → Prop
  | .token _ | .number .invalid => True
  | .unclosedParenthesis | .operandExpected _ | .trailingInput _ => True
  | .tooDeep limit => limit = maxDepth
  | _ => False

/-- Without a location, the fault itself is one of these. -/
theorem ParseError.OfModifier.bare {fault : ParseError} (ofModifier : fault.OfModifier) :
    fault.bare.OfModifier := by
  cases fault with
  | located position inner => cases ofModifier
  | _ => exact ofModifier

/-! ### Texts without letters -/

def Letterless (text : List Char) : Prop :=
  ∀ c ∈ text, isLetter c = false

theorem Letterless.suffix {text rest : List Char} (letterless : Letterless text)
    (suffix : rest <:+ text) : Letterless rest :=
  fun c member => letterless c (suffix.mem member)

theorem isLetter_of_isDigit {c : Char} (digit : c.isDigit = true) : isLetter c = false := by
  have disjoint : CodeRange.Disjoint [⟨48, 57⟩] letterRanges := by decide +kernel
  refine disjoint.anyContains_eq_false (CodeRange.anyContains_iff.mpr ?_)
  exact ⟨_, List.mem_singleton_self _, isDigit_iff_toNat.mp digit⟩

variable {fault : ParseError}

theorem Cursor.ofModifier_of_next {c after : Cursor} (letterless : Letterless c.rest)
    (read : c.next = .error fault after) : fault.OfModifier := by
  obtain ⟨blanks, piece, rest, result, same, -, -, taken, read'⟩ := c.next_piece
  rw [read'] at read
  cases taken with
  | ended | symbol | number => cases read
  | malformed | stray =>
    cases read
    trivial
  | @word letter run behind isWord =>
    -- A word starts with a letter.
    have none := letterless letter (by simp [same])
    rw [isWord] at none
    cases none

theorem Parser.Fails.ofModifier {p q : Parser} (letterless : Letterless p.cursor.rest)
    (fails : Fails p fault q) : fault.OfModifier := by
  cases fails with
  | unread reaches read =>
    exact Cursor.ofModifier_of_next (letterless.suffix (rest_suffix_of_reaches reaches)) read
  | tooDeep => rfl
  | operandExpected | unclosed | trailing => trivial

/-- A text without letters whose first token is a number has no other faults. -/
theorem ofModifier_of_parse {text : String} {value : Float} {tokens : List Token}
    {stopped : Option ParseError} (letterless : Letterless text.toList)
    (lexed : (Cursor.ofText text).lexed = (.number value :: tokens, stopped))
    (failed : Expr.parse text = .error fault) : fault.bare.OfModifier := by
  have later {between : Cursor} {token : Token}
      (read : (Cursor.ofText text).next = .ok token between) : Letterless between.rest :=
    letterless.suffix (Cursor.rest_suffix_of_token read)
  rcases parse_fails failed with unstarted | ⟨p, kind, q, started, fails, rfl⟩
  · rcases Parser.ofText_fails unstarted with
      ⟨after, read⟩ | ⟨-, after, read⟩ | ⟨current, between, after, read, ahead⟩
    · -- The first token is the number.
      rw [Cursor.lexed_of_error read] at lexed
      cases lexed
    · rw [Cursor.lexed_of_end read] at lexed
      cases lexed
    · exact (Cursor.ofModifier_of_next (later read) ahead).bare
  · obtain ⟨between, read, -, ahead⟩ := Parser.ofText_eq_ok_iff.mp started
    exact fails.ofModifier ((later read).suffix (Cursor.rest_suffix_of_token ahead))

namespace Bot

variable {σ : Type}

/-! ### The expression of a throw -/

theorem letterless_expression {directive : Directive} (normal : directive.Normal) (throw : Throw) :
    Letterless (expression throw directive.modifier).toList := by
  have blank : isLetter ' ' = false := by decide +kernel
  rw [toList_expression]
  intro c member
  rcases List.mem_append.mp member with digit | behind
  · exact isLetter_of_isDigit (isDigit_of_mem_toDigits c digit)
  · rcases List.mem_cons.mp behind with rfl | inside
    · exact blank
    · exact (normal.modifier c inside).1

theorem literalValue_total {directive : Directive} (normal : directive.Normal) {throw : Throw}
    (enough : throw.faces.length = directive.dice.count.toNat) :
    Number.literalValue (Nat.toDigits 10 throw.total.toNat) = throw.total.toFloat := by
  have small : throw.total.toNat < 2 ^ 53 := by
    have most := throw.sum_le
    have few := normal.count
    rw [total_toNat_of_normal normal throw enough]
    omega
  have same : throw.total.toNat.toUInt64 = throw.total := UInt64.ofNat_toNat
  rw [Number.literalValue_digits isDigit_of_mem_toDigits, Number.ofParts, List.append_nil,
    digitsValue_toDigits, List.length_nil, Number.ofScientific_integer small, same]

theorem respond_eq_invalidExpression {directive : Directive} {throw : Throw} {actor shown : String}
    (failed : respond directive throw actor = .error (.invalidExpression shown fault)) :
    shown = expression throw directive.modifier ∧ Expr.parse shown = .error fault := by
  cases evaluated : Expr.evaluate (expression throw directive.modifier) with
  | error found =>
    simp only [respond, evaluated, Except.error.injEq, RollError.invalidExpression.injEq] at failed
    obtain ⟨rfl, rfl⟩ := failed
    exact ⟨rfl, Expr.evaluate_eq_error_iff.mp evaluated⟩
  | ok total =>
    simp only [respond, evaluated] at failed
    split at failed <;> cases failed

/-- What is evaluated has been admitted. -/
theorem admitted_of_evaluating (bot : Bot σ) {text actor expression : String} {state : σ}
    (evaluating : .evaluating expression ∈ (bot.answer text actor state).log) :
    ∃ directive, bot.settings.admitted? text = some directive := by
  cases found : Directive.find text with
  | error error =>
    simp only [answer, found, List.not_mem_nil] at evaluating
  | ok directive? =>
    cases directive? with
    | none => simp only [answer, found, List.mem_singleton, reduceCtorEq] at evaluating
    | some directive =>
      cases checked : bot.settings.check directive.dice with
      | error error => simp only [answer, found, checked, List.not_mem_nil] at evaluating
      | ok passed =>
        have within := Settings.check_eq_ok_iff.mp checked
        exact ⟨directive, Settings.admitted?_eq_some_iff.mpr ⟨found, within⟩⟩

/-- Of every expression that is evaluated, the sum of the faces is read first, exactly and as one
token, and then what is read from the modifier alone. If it cannot be parsed, it is shown with a
fault that is neither a word nor an empty text nor an operator out of place. -/
theorem evaluating_keeps_sum (bot : Bot σ) {text actor expression : String} {state : σ}
    (evaluating : .evaluating expression ∈ (bot.answer text actor state).log) :
    ∃ (directive : Directive) (throw : Throw), Directive.find text = .ok (some directive) ∧
      throw.faces = (bot.source.drawEach (bot.settings.asks text) state).1 ∧
      throw.total.toNat = throw.sum ∧
      expression = toString throw.sum ++ " " ++ directive.modifier ∧
      (Cursor.ofText expression).lexed =
        (.number throw.total.toFloat :: (Cursor.ofText directive.modifier).lexed.1,
          (Cursor.ofText directive.modifier).lexed.2) ∧
      ∀ shown fault,
        (bot.answer text actor state).answer = .error (.invalidExpression shown fault) →
          shown = expression ∧ fault.bare.OfModifier := by
  obtain ⟨directive, admitted⟩ := bot.admitted_of_evaluating evaluating
  obtain ⟨found, -⟩ := Settings.admitted?_eq_some_iff.mp admitted
  have normal := Directive.normal_of_find found
  have enough := bot.length_drawn state admitted
  rw [bot.answer_of_admitted actor state admitted] at evaluating ⊢
  generalize (bot.source.drawEach (bot.settings.asks text) state).1 = faces at *
  have exact := total_toNat_of_normal normal ⟨faces⟩ enough
  -- One event of a turn is about evaluating, and it names the expression of the throw.
  obtain rfl : expression = Bot.expression ⟨faces⟩ directive.modifier := by
    rcases List.mem_cons.mp evaluating with same | behind
    · exact Event.evaluating.inj same
    · split at behind <;> simp at behind
  have lexed := lexed_expression ⟨faces⟩ directive.modifier
  rw [literalValue_total normal enough] at lexed
  refine ⟨directive, ⟨faces⟩, found, rfl, exact, expression_eq exact _, lexed, ?_⟩
  intro shown fault failed
  have responded : respond directive ⟨faces⟩ actor = .error (.invalidExpression shown fault) := by
    cases result : respond directive ⟨faces⟩ actor with
    | error error =>
      rw [result] at failed
      cases failed
      rfl
    | ok response =>
      rw [result] at failed
      cases failed
  obtain ⟨rfl, parsed⟩ := respond_eq_invalidExpression responded
  exact ⟨rfl, ofModifier_of_parse (letterless_expression normal _) lexed parsed⟩

/-- A modifier that opens a parenthesis and ends in a character that begins no token. -/
theorem evaluating_keeps_sum_euro :
    let bot : Bot (List UInt32) := ⟨FaceSource.dealt, {}⟩
    let turn := bot.answer "[2d6*(2 € blast]" "Bo" [5, 6]
    .evaluating "11 *(2 €" ∈ turn.log ∧
      turn.answer = .error (.invalidExpression "11 *(2 €" (.located 7 (.token '€'))) ∧
      ParseError.OfModifier (.token '€') ∧
      ∃ throw : Throw, throw.faces = [5, 6] ∧ throw.total.toNat = throw.sum ∧
        (Cursor.ofText "11 *(2 €").lexed =
          (.number throw.total.toFloat :: (Cursor.ofText "*(2 €").lexed.1,
            (Cursor.ofText "*(2 €").lexed.2) := by
  intro bot turn
  have evaluating : .evaluating "11 *(2 €" ∈ turn.log := by decide +kernel
  have answered : turn.answer =
      .error (.invalidExpression "11 *(2 €" (.located 7 (.token '€'))) := by
    decide +kernel
  have parts : Directive.find "[2d6*(2 € blast]" = .ok (some ⟨⟨6, 2⟩, "*(2 €", "blast"⟩) := by
    decide +kernel
  obtain ⟨directive, throw, found, faces, exact, -, lexed, faults⟩ :=
    bot.evaluating_keeps_sum evaluating
  rw [parts] at found
  cases found
  exact ⟨evaluating, answered, (faults _ _ answered).2, throw, faces.trans (by decide +kernel),
    exact, lexed⟩

end Bot
end DiceChat
