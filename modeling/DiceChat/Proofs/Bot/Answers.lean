import Mathlib
import DiceChat.Proofs.Bot.Draws
import DiceChat.Proofs.Bot.Expression
import DiceChat.Proofs.Directive.Normal

/-!
# Answers

What every response of every bot has in common, whatever the settings, the source and the message
are: dice within the limits, a face for every die, a label, a modifier that is an expression's end,
and the finite value of the sum with that modifier.

## Main results

* `Bot.answer_wellFormed`: every response is well formed, and a source that keeps to its ranges
  gives it faces and a sum that are possible.
-/

namespace DiceChat

/-- A response as every bot with these settings gives them. -/
structure Response.WellFormed (settings : Settings) (r : Response) : Prop where
  count : 1 ≤ r.dice.count.toNat ∧ r.dice.count.toNat ≤ min 9 settings.maxDice.toNat
  sides : 1 ≤ r.dice.sides.toNat ∧ r.dice.sides.toNat ≤ settings.maxSides.toNat
  faces : r.throw.faces.length = r.dice.count.toNat
  label : ∃ c rest, r.label.toList = c :: rest ∧ isLetter c = true
  /-- The modifier is empty or starts with an operator. -/
  operator : ∀ c ∈ r.modifier.toList.head?, c ∈ ['+', '-', '*', '/', '%']
  modifier : ∀ c ∈ r.modifier.toList, isBlank c = true ∨ c.isDigit = true ∨ c = '.' ∨
    c ∈ ['+', '-', '*', '/', '%', '(', ')']
  finite : r.total.isFinite = true
  value : Expr.evaluate (toString r.throw.sum ++ " " ++ r.modifier) = .ok r.total

/-- Faces and a sum that the dice can have under a bound. -/
structure Response.Possible (bound : FaceBound) (r : Response) : Prop where
  faces : ∀ face ∈ r.throw.faces, (r.dice.faces bound).contains face = true
  sum : (r.dice.possibleSums bound).1.toNat ≤ r.throw.total.toNat ∧
    r.throw.total.toNat ≤ (r.dice.possibleSums bound).2.toNat

namespace Bot

variable {σ : Type} {directive : Directive} {throw : Throw} {actor : String} {r : Response}

/-- A response repeats what it answers, and its total is the finite value of the expression. -/
theorem respond_eq_ok_iff : respond directive throw actor = .ok r ↔
    ∃ total, Expr.evaluate (expression throw directive.modifier) = .ok total ∧
      total.isFinite = true ∧
      r = ⟨actor, directive.dice, throw, directive.modifier, directive.label, total⟩ := by
  cases value : Expr.evaluate (expression throw directive.modifier) with
  | error fault =>
    simp only [respond, value, reduceCtorEq, false_and, exists_false]
  | ok total =>
    by_cases finite : total.isFinite = true
    · simp only [respond, value, finite, if_true, Except.ok.injEq, exists_eq_left', true_and]
      exact eq_comm
    · simp only [respond, value, finite, Bool.false_eq_true, if_false, reduceCtorEq,
        Except.ok.injEq, exists_eq_left', false_and]

/-- A response comes from the directive of a message within the limits, and from the faces that were
drawn for it. -/
theorem answer_eq_some (bot : Bot σ) {text : String} {state : σ}
    (answered : (bot.answer text actor state).answer = .ok (some r)) :
    ∃ directive, bot.settings.admitted? text = some directive ∧
      respond directive ⟨(bot.source.drawEach (bot.settings.asks text) state).1⟩ actor = .ok r := by
  cases admitted : bot.settings.admitted? text with
  | none =>
    obtain ⟨passed, log, free⟩ := answer_of_not_admitted actor admitted
    rw [free] at answered
    cases passed <;> cases answered
  | some directive =>
    rw [bot.answer_of_admitted actor state admitted] at answered
    refine ⟨directive, rfl, ?_⟩
    cases result : respond directive
        ⟨(bot.source.drawEach (bot.settings.asks text) state).1⟩ actor with
    | error error =>
      rw [result] at answered
      cases answered
    | ok found =>
      rw [result] at answered
      cases answered
      rfl

theorem asks_of_admitted {settings : Settings} {text : String}
    (admitted : settings.admitted? text = some directive) :
    settings.asks text =
      List.replicate directive.dice.count.toNat (directive.dice.faces settings.faceBound) := by
  rw [Settings.asks, Settings.cost, admitted]
  rfl

/-- Every die of an admitted directive gets a face. -/
theorem length_drawn (bot : Bot σ) {text : String} (state : σ)
    (admitted : bot.settings.admitted? text = some directive) :
    (bot.source.drawEach (bot.settings.asks text) state).1.length =
      directive.dice.count.toNat := by
  rw [FaceSource.length_drawEach, asks_of_admitted admitted, List.length_replicate]

theorem total_toNat_of_normal (normal : directive.Normal) (throw : Throw)
    (enough : throw.faces.length = directive.dice.count.toNat) :
    throw.total.toNat = throw.sum := by
  have few := normal.count
  exact Throw.total_toNat (by omega)

theorem expression_eq (exact : throw.total.toNat = throw.sum) (modifier : String) :
    expression throw modifier = toString throw.sum ++ " " ++ modifier := by
  rw [← exact]
  rfl

theorem respond_wellFormed {settings : Settings} (normal : directive.Normal)
    (within : directive.dice.count ≤ settings.maxDice ∧ directive.dice.sides ≤ settings.maxSides)
    (enough : throw.faces.length = directive.dice.count.toNat)
    (responded : respond directive throw actor = .ok r) : r.WellFormed settings := by
  obtain ⟨total, value, finite, rfl⟩ := respond_eq_ok_iff.mp responded
  obtain ⟨e, parsed, -⟩ := Expr.evaluate_eq_ok_iff.mp value
  obtain ⟨operator, chars⟩ := modifier_of_parse normal.modifierStarts parsed
  obtain ⟨count, sides, -⟩ := normal.valid
  constructor
  case count =>
    refine ⟨count, Nat.le_min.mpr ⟨normal.count, ?_⟩⟩
    exact UInt32.le_iff_toNat_le.mp within.1
  case sides => exact ⟨sides, UInt32.le_iff_toNat_le.mp within.2⟩
  case faces => exact enough
  case label => exact normal.label
  case operator =>
    intro c member
    obtain ⟨op, rfl⟩ := operator c member
    cases op <;> decide
  case modifier => exact chars
  case finite => exact finite
  case value => rw [← expression_eq (total_toNat_of_normal normal throw enough), value]

theorem wellFormed_of_answer (bot : Bot σ) {text : String} {state : σ}
    (answered : (bot.answer text actor state).answer = .ok (some r)) :
    r.WellFormed bot.settings := by
  obtain ⟨directive, admitted, responded⟩ := bot.answer_eq_some answered
  obtain ⟨found, within⟩ := Settings.admitted?_eq_some_iff.mp admitted
  exact respond_wellFormed (Directive.normal_of_find found) within
    (bot.length_drawn state admitted) responded

/-- Every response is well formed. If the source answers every range from inside, the faces and the
sum are possible for the dice. -/
theorem answer_wellFormed (bot : Bot σ) {text actor : String} {state : σ} {r : Response}
    (answered : (bot.answer text actor state).answer = .ok (some r)) :
    r.WellFormed bot.settings ∧
      (bot.source.Honest → r.Possible bot.settings.faceBound) := by
  obtain ⟨directive, admitted, responded⟩ := bot.answer_eq_some answered
  obtain ⟨found, -⟩ := Settings.admitted?_eq_some_iff.mp admitted
  have normal := Directive.normal_of_find found
  have enough := bot.length_drawn state admitted
  refine ⟨bot.wellFormed_of_answer answered, ?_⟩
  intro honest
  obtain ⟨total, -, -, rfl⟩ := respond_eq_ok_iff.mp responded
  have filled : (directive.dice.faces bot.settings.faceBound).low ≤
      (directive.dice.faces bot.settings.faceBound).high := by
    obtain ⟨low, high, -⟩ := bot.settings.faceBound.faces_within normal.valid.2.1
    rw [Dice.faces, low]
    exact high
  have faces : ∀ face ∈ (bot.source.drawEach (bot.settings.asks text) state).1,
      (directive.dice.faces bot.settings.faceBound).contains face = true := by
    rw [asks_of_admitted admitted]
    exact honest.drawEach filled _ state
  refine ⟨faces, ?_⟩
  rw [total_toNat_of_normal normal ⟨_⟩ enough]
  exact Dice.sum_within normal.valid _ enough faces

/-- Two highest faces under the bound that leaves the highest one out. -/
theorem answer_wellFormed_blast :
    let bot : Bot Unit := ⟨FaceSource.highest, { faceBound := .exclusive }⟩
    let r : Response := ⟨"Bo", ⟨6, 2⟩, ⟨[5, 5]⟩, "* (2 - .5)", "blast", 15⟩
    (bot.answer "Take [2d6 * (2 - .5) blast]" "Bo" ()).answer = .ok (some r) ∧
      r.WellFormed bot.settings ∧ bot.source.Honest ∧ r.Possible bot.settings.faceBound := by
  intro bot r
  have answered : (bot.answer "Take [2d6 * (2 - .5) blast]" "Bo" ()).answer = .ok (some r) := by
    decide +kernel
  have honest : bot.source.Honest := fun range _ filled =>
    FaceRange.contains_iff.mpr ⟨filled, UInt32.le_refl _⟩
  obtain ⟨wellFormed, possible⟩ := bot.answer_wellFormed answered
  exact ⟨answered, wellFormed, honest, possible honest⟩

end Bot
end DiceChat
