import Mathlib
import DiceChat.Bot
import DiceChat.Proofs.Expr.Lexed
import DiceChat.Proofs.Expr.Text
import DiceChat.Proofs.Source.Sums

/-!
# The expression for a throw

The sum of a throw and the modifier behind it are read apart, whatever the modifier is. So a
modifier that can be evaluated is empty or starts with an operator, and it holds nothing but what
expressions are made of.

## Main results

* `Bot.lexed_expression`: what is read from the expression for a throw.
* `Bot.modifier_of_parse`: what a modifier looks like when its expression is parsed.
-/

namespace DiceChat

/-! ### What is spelled -/

/-- A text that spells tokens holds nothing but blanks, digits, points, operators and
parentheses. -/
theorem Spells.chars {text : List Char} {tokens : List Token} (spells : Spells text tokens) :
    ∀ c ∈ text, isBlank c = true ∨ c.isDigit = true ∨ c = '.' ∨
      c ∈ ['+', '-', '*', '/', '%', '(', ')'] := by
  induction spells with
  | done => exact nofun
  | blank blank _ ih => exact List.forall_mem_cons.mpr ⟨.inl blank, ih⟩
  | @symbol c token text tokens written _ ih =>
    refine List.forall_mem_cons.mpr ⟨?_, ih⟩
    right; right; right
    cases token <;> cases written <;> decide
  | number literal _ _ ih =>
    intro c member
    rcases List.mem_append.mp member with inside | behind
    · rcases literal.chars c inside with digit | point
      · exact .inr (.inl digit)
      · exact .inr (.inr (.inl point))
    · exact ih c behind

/-- A text that does not start with a blank starts with the operator that it spells first. -/
theorem Spells.symbol_of_head {text : List Char} {tokens : List Token} (spells : Spells text tokens)
    (starts : Stops isBlank text) (operator : ∀ t ∈ tokens.head?, ∃ op : BinaryOp, t = op.token) :
    ∀ c ∈ text.head?, ∃ op : BinaryOp, c = op.symbol := by
  cases spells with
  | done => exact nofun
  | blank blank _ =>
    rw [stops_cons.mp starts] at blank
    cases blank
  | symbol written _ =>
    intro c member
    obtain ⟨op, rfl⟩ := operator _ rfl
    rw [symbol?_token, Option.some.injEq] at written
    rw [List.head?_cons, Option.mem_some] at member
    exact ⟨op, member.symm.trans written.symm⟩
  | number _ _ _ =>
    -- A number is no operator.
    obtain ⟨op, same⟩ := operator _ rfl
    cases op <;> cases same

theorem Grammar.Terms.head_operator (terms : Grammar.Terms) :
    ∀ t ∈ terms.tokens.head?, ∃ op : BinaryOp, t = op.token := by
  intro t member
  cases terms with
  | none => cases member
  | more op loose next rest =>
    rw [tokens, List.head?_cons, Option.mem_some] at member
    exact ⟨op, member.symm⟩

/-- Behind the number that a sum starts with stands an operator, if anything. -/
theorem Grammar.Sum.operator_of_number {sum : Grammar.Sum} {value : Float} {rest : List Token}
    (same : sum.tokens = .number value :: rest) :
    ∀ t ∈ rest.head?, ∃ op : BinaryOp, t = op.token := by
  obtain ⟨⟨first, factors⟩, terms⟩ := sum
  cases first with
  | number x =>
    simp only [Sum.tokens, Product.tokens, Unary.tokens, List.cons_append, List.nil_append,
      List.cons.injEq] at same
    obtain ⟨-, rfl⟩ := same
    intro t member
    cases factors with
    | none => exact terms.head_operator t member
    | more op tight next more =>
      rw [Factors.tokens, List.cons_append, List.head?_cons, Option.mem_some] at member
      exact ⟨op, member.symm⟩
  | signed sign operand => cases sign <;> cases same
  | group inner => cases same

/-! ### Sums and modifiers -/

theorem Number.isLiteral_toDigits (n : Nat) : IsLiteral (Nat.toDigits 10 n) :=
  (isLiteral_digits_iff isDigit_of_mem_toDigits).mpr Nat.toDigits_ne_nil

namespace Bot

theorem toList_expression (throw : Throw) (modifier : String) :
    (expression throw modifier).toList =
      Nat.toDigits 10 throw.total.toNat ++ ' ' :: modifier.toList := by
  have written : expression throw modifier = toString throw.total ++ " " ++ modifier := rfl
  rw [written, String.toList_append, String.toList_append, toList_toString_uint64,
    List.append_assoc]
  rfl

/-- From the expression for a throw, the sum is read, and then what is read from the modifier
alone. -/
theorem lexed_expression (throw : Throw) (modifier : String) :
    (Cursor.ofText (expression throw modifier)).lexed =
      (.number (Number.literalValue (Nat.toDigits 10 throw.total.toNat)) ::
          (Cursor.ofText modifier).lexed.1,
        (Cursor.ofText modifier).lexed.2) := by
  have blank : isBlank ' ' = true := rfl
  -- The blank ends the digits, and the modifier behind it starts anew.
  rw [Cursor.ofText, toList_expression,
    Cursor.lexed_number (Number.isLiteral_toDigits _) (stops_cons.mpr rfl),
    Cursor.lexed_blank blank, Cursor.ofText]

/-- A modifier whose expression is parsed spells tokens, of which the first is an operator. -/
theorem spells_of_parse {throw : Throw} {modifier : String} {e : Expr}
    (parsed : Expr.parse (expression throw modifier) = .ok e) :
    ∃ tokens, Spells modifier.toList tokens ∧
      ∀ t ∈ tokens.head?, ∃ op : BinaryOp, t = op.token := by
  obtain ⟨sum, spells, -, -⟩ := parse_eq_ok_iff_derivation.mp parsed
  have lexed := Cursor.spells_iff_lexed (c := Cursor.ofText (expression throw modifier)).mp spells
  rw [lexed_expression, Prod.mk.injEq] at lexed
  obtain ⟨tokens, clean⟩ := lexed
  refine ⟨(Cursor.ofText modifier).lexed.1, ?_, Grammar.Sum.operator_of_number tokens.symm⟩
  exact Cursor.spells_iff_lexed (c := Cursor.ofText modifier).mpr (Prod.ext rfl clean)

/-- A trimmed modifier whose expression is parsed is empty or starts with an operator, and it holds
nothing but what expressions are made of. -/
theorem modifier_of_parse {throw : Throw} {modifier : String} {e : Expr}
    (starts : Stops isBlank modifier.toList)
    (parsed : Expr.parse (expression throw modifier) = .ok e) :
    (∀ c ∈ modifier.toList.head?, ∃ op : BinaryOp, c = op.symbol) ∧
      ∀ c ∈ modifier.toList, isBlank c = true ∨ c.isDigit = true ∨ c = '.' ∨
        c ∈ ['+', '-', '*', '/', '%', '(', ')'] := by
  obtain ⟨tokens, spells, operator⟩ := spells_of_parse parsed
  exact ⟨spells.symbol_of_head starts operator, spells.chars⟩

end Bot
end DiceChat
