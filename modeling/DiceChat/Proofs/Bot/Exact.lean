import Mathlib
import DiceChat.Proofs.Bot.Answers
import DiceChat.Proofs.Expr.Integers

/-!
# Exact answers

The faces of an answer are summed up without overflow, and the sum is written down and read again
without loss. So the total of an answer with a modifier in integers is what integer arithmetic makes
of it.

## Main results

* `Bot.answer_exact`: the totals of all bots, sources and messages.
-/

namespace DiceChat

open Number (Exactly)

namespace IntExpr

/-- Digits with a blank behind them write a literal. -/
theorem writtenIn_digits (n : Nat) : WrittenIn (Nat.toDigits 10 n ++ [' ']) (.literal n) := by
  have all : ∀ c ∈ Nat.toDigits 10 n, c.isDigit = true := isDigit_of_mem_toDigits
  have filled : Nat.toDigits 10 n ≠ [] := Nat.toDigits_ne_nil
  constructor
  case derived =>
    refine ⟨.mk (.mk (.number (Number.literalValue (Nat.toDigits 10 n))) .none) .none,
      .number (Number.isLiteral_toDigits n) (stops_cons.mpr rfl) (.blank rfl .done), ?_⟩
    have value : Number.literalValue (Nat.toDigits 10 n) = Float.ofScientific n true 0 := by
      rw [Number.literalValue_digits all, Number.ofParts, List.append_nil, digitsValue_toDigits]
      rfl
    exact congrArg Expr.literal value
  case literals =>
    rw [integersIn_digits filled all (stops_cons.mpr rfl), digitsValue_toDigits]
    rfl

end IntExpr

namespace Bot

variable {σ : Type}

/-- The sum of an answer is exact. Without a modifier it is the total, and with one that has no
points, the total is the value in integers, if no part of the expression exceeds `2 ^ 53`. -/
theorem answer_exact (bot : Bot σ) {text actor : String} {state : σ} {r : Response}
    (answered : (bot.answer text actor state).answer = .ok (some r)) :
    r.throw.total.toNat = r.throw.sum ∧
    (r.throw.sum ≤ 9 * (2 ^ 32 - 1) ∧ 9 * (2 ^ 32 - 1) < 2 ^ 53) ∧
    (r.modifier = "" → Exactly r.total r.throw.sum) ∧
    ('.' ∉ r.modifier.toList → ∃ t : IntExpr,
      (∀ other, IntExpr.WrittenIn (toString r.throw.sum ++ " " ++ r.modifier).toList other ↔
        other = t) ∧
      ∀ v, t.value? = some v → Exactly r.total v) := by
  have wellFormed := bot.wellFormed_of_answer answered
  have few : r.throw.faces.length ≤ 9 := by
    have count := wellFormed.count.2
    rw [wellFormed.faces]
    omega
  have total : r.throw.total.toNat = r.throw.sum := Throw.total_toNat (by omega)
  have bound : r.throw.sum ≤ 9 * (2 ^ 32 - 1) := by
    have most := Nat.mul_le_mul_right (2 ^ 32 - 1) few
    exact r.throw.sum_le.trans most
  have small : 9 * (2 ^ 32 - 1) < 2 ^ 53 := by norm_num
  have chars : (toString r.throw.sum ++ " " ++ r.modifier).toList =
      Nat.toDigits 10 r.throw.sum ++ ' ' :: r.modifier.toList := by
    rw [← expression_eq total, toList_expression, total]
  have integers : '.' ∉ r.modifier.toList → ∃ t : IntExpr,
      (∀ other, IntExpr.WrittenIn (toString r.throw.sum ++ " " ++ r.modifier).toList other ↔
        other = t) ∧
      ∀ v, t.value? = some v → Exactly r.total v := by
    intro pointless
    refine Expr.exactly_evaluate wellFormed.value ?_
    rw [chars, List.mem_append, List.mem_cons, not_or, not_or]
    exact ⟨Number.point_not_mem isDigit_of_mem_toDigits, by decide, pointless⟩
  refine ⟨total, ⟨bound, small⟩, fun none => ?_, integers⟩
  -- Without a modifier, the expression is the sum alone.
  obtain ⟨t, unique, exactly⟩ := integers (by rw [none]; exact List.not_mem_nil)
  have written := IntExpr.writtenIn_digits r.throw.sum
  rw [chars, none] at unique
  obtain rfl := (unique _).mp written
  refine exactly _ (exactInteger?_eq_some_iff.mpr ⟨?_, rfl⟩)
  rw [Int.natAbs_natCast]
  omega

/-- The remainder of a negative number is negative, and is taken away. -/
theorem answer_exact_remainder :
    let bot : Bot Unit := ⟨FaceSource.highest, {}⟩
    let r : Response := ⟨"Bo", ⟨6, 2⟩, ⟨[6, 6]⟩, "- (3 - 20) % 5", "claw", 14⟩
    let t : IntExpr := .binary .sub (.literal 12)
      (.binary .rem (.binary .sub (.literal 3) (.literal 20)) (.literal 5))
    (bot.answer "A [2d6 - (3 - 20) % 5 claw]" "Bo" ()).answer = .ok (some r) ∧
      '.' ∉ r.modifier.toList ∧
      t.WrittenIn (toString r.throw.sum ++ " " ++ r.modifier).toList ∧
      t.value? = some 14 ∧ Exactly r.total 14 := by
  intro bot r t
  have answered : (bot.answer "A [2d6 - (3 - 20) % 5 claw]" "Bo" ()).answer = .ok (some r) := by
    decide +kernel
  have pointless : '.' ∉ r.modifier.toList := by decide +kernel
  have parsed : Expr.parse (toString r.throw.sum ++ " " ++ r.modifier) = .ok t.tree := by
    decide +kernel
  obtain ⟨sum, spells, -, tree⟩ := parse_eq_ok_iff_derivation.mp parsed
  have written : t.WrittenIn (toString r.throw.sum ++ " " ++ r.modifier).toList :=
    ⟨⟨sum, spells, tree⟩, by decide +kernel⟩
  have value : t.value? = some 14 := by decide
  obtain ⟨-, -, -, integers⟩ := bot.answer_exact answered
  obtain ⟨t', unique, exactly⟩ := integers pointless
  obtain rfl := (unique t).mp written
  exact ⟨answered, pointless, written, value, exactly 14 value⟩

end Bot
end DiceChat
