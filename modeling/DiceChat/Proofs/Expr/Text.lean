import Mathlib.Data.Set.Subsingleton
import DiceChat.Proofs.Expr.Acceptance

/-!
# Parsing whole texts

A parser looks one token ahead of the tokens that it stands on. Here that window is related to the
tokens that a text spells, and what the parser accepts is said of texts.

## Main results

* `Parser.spells_iff_spans`: the tokens of a text are those that a parser on it passes on the way to
  the end.
* `parse_eq_ok_iff_derivation`: a text is parsed exactly when its tokens have a derivation that
  needs no more levels than there are, and the answer is the tree of that derivation.
* `derivation_unique`: no text has two derivations.
-/

namespace DiceChat

open Grammar

/-! ### Symbols -/

theorem symbol?_token (op : BinaryOp) : op.token.symbol? = some op.symbol := by
  cases op <;> rfl

theorem symbol?_sign (sign : Sign) : sign.token.symbol? = some sign.symbol := by
  cases sign <;> rfl

/-! ### The window of a parser -/

/-- With `peek` read already, `tokens` are still to come. -/
def Ahead (peek : Token) (cursor : Cursor) : List Token → Prop
  | [] => peek = .endOfInput
  | t :: tokens => peek = t ∧ t ≠ .endOfInput ∧ Spells cursor.rest tokens

theorem spells_iff_ahead {c : Cursor} {tokens : List Token} :
    Spells c.rest tokens ↔ ∃ t after, c.next = .ok t after ∧ Ahead t after tokens := by
  cases tokens with
  | nil =>
    rw [Cursor.spells_nil_iff]
    constructor
    · rintro ⟨after, read⟩
      exact ⟨_, after, read, rfl⟩
    · rintro ⟨_, after, read, rfl⟩
      exact ⟨after, read⟩
  | cons t tokens =>
    rw [Cursor.spells_cons_iff]
    constructor
    · rintro ⟨more, after, read, rest⟩
      exact ⟨t, after, read, rfl, more, rest⟩
    · rintro ⟨_, after, read, rfl, more, rest⟩
      exact ⟨more, after, read, rest⟩

namespace Parser

theorem ahead_cons_iff {p : Parser} {t : Token} {tokens : List Token} :
    Ahead p.peek p.cursor (t :: tokens) ↔ t ≠ .endOfInput ∧
      ∃ m, advance p = .ok () m ∧ m.current = t ∧ Ahead m.peek m.cursor tokens := by
  rw [Ahead, spells_iff_ahead]
  constructor
  · rintro ⟨peek, more, found, after, read, rest⟩
    exact ⟨more, _, advance_eq_ok_iff.mpr ⟨found, after, read, rfl⟩, peek, rest⟩
  · rintro ⟨more, m, moved, rfl, rest⟩
    obtain ⟨found, after, read, rfl⟩ := advance_eq_ok_iff.mp moved
    exact ⟨rfl, more, found, after, read, rest⟩

/-- What is still to come is what the parser passes on its way to the end. -/
theorem ahead_iff_reads {p : Parser} {tokens : List Token} :
    Ahead p.peek p.cursor tokens ↔
      .endOfInput ∉ tokens ∧ ∃ q, Reads p tokens q ∧ q.peek = .endOfInput := by
  induction tokens generalizing p with
  | nil => simp [Ahead, reads_nil]
  | cons t tokens ih =>
    rw [ahead_cons_iff]
    simp only [ih, reads_cons, List.mem_cons, not_or]
    constructor
    · rintro ⟨more, m, moved, current, absent, q, reads, ended⟩
      exact ⟨⟨more.symm, absent⟩, q, ⟨m, moved, current, reads⟩, ended⟩
    · rintro ⟨⟨more, absent⟩, q, ⟨m, moved, current, reads⟩, ended⟩
      exact ⟨Ne.symm more, m, moved, current, absent, q, reads, ended⟩

theorem ofText_eq_ok_iff {text : String} {p : Parser} :
    ofText text = .ok p ↔ ∃ between, (Cursor.ofText text).next = .ok p.current between ∧
      p.current ≠ .endOfInput ∧ between.next = .ok p.peek p.cursor := by
  unfold ofText
  constructor
  · intro started
    cases read : (Cursor.ofText text).next with
    | error fault after =>
      rw [read] at started
      cases started
    | ok current between =>
      rw [read] at started
      by_cases ended : current = .endOfInput
      · -- A text without tokens is refused at once.
        subst ended
        cases started
      · cases ahead : between.next with
        | error fault after =>
          simp only [ahead] at started
          cases started
        | ok peek after =>
          simp only [ahead] at started
          cases started
          exact ⟨between, rfl, ended, ahead⟩
  · rintro ⟨between, read, more, ahead⟩
    simp only [read, ahead]

/-- A text that spells at least one token is one that a parser can be put on, and the parser then
passes those tokens on its way to the end. -/
theorem spells_iff_spans {text : String} {tokens : List Token} (filled : tokens ≠ []) :
    Spells text.toList tokens ↔ .endOfInput ∉ tokens ∧
      ∃ p q, ofText text = .ok p ∧ Spans p tokens q ∧ q.peek = .endOfInput := by
  obtain ⟨t, tokens, rfl⟩ := List.exists_cons_of_ne_nil filled
  change Spells (Cursor.ofText text).rest (t :: tokens) ↔ _
  rw [Cursor.spells_cons_iff]
  simp only [spells_iff_ahead, ofText_eq_ok_iff, List.mem_cons, not_or]
  constructor
  · rintro ⟨more, between, read, peek, after, ahead, rest⟩
    obtain ⟨absent, q, reads, ended⟩ := ahead_iff_reads (p := ⟨after, t, peek⟩).mp rest
    exact ⟨⟨more.symm, absent⟩, _, q, ⟨between, read, more, ahead⟩, ⟨tokens, rfl, reads⟩, ended⟩
  · rintro ⟨⟨more, absent⟩, p, q, ⟨between, read, _, ahead⟩, ⟨_, same, reads⟩, ended⟩
    cases same
    exact ⟨Ne.symm more, between, read, p.peek, p.cursor, ahead,
      ahead_iff_reads.mpr ⟨absent, q, reads, ended⟩⟩

theorem whole_eq_ok_iff {p q : Parser} {e : Expr} :
    whole p = .ok e q ↔ chain maxDepth .lowest p = .ok e q ∧ q.peek = .endOfInput := by
  unfold whole
  rw [bind_eq_ok_iff]
  constructor
  · rintro ⟨_, m, parsed, done⟩
    rw [get_bind] at done
    split at done
    next ended =>
      obtain ⟨rfl, rfl⟩ := pure_eq_ok_iff.mp done
      exact ⟨parsed, ended⟩
    · exact absurd done throw_ne_ok
  · rintro ⟨parsed, ended⟩
    -- Nothing is left behind the tree, so the check at the end passes.
    refine ⟨e, q, parsed, ?_⟩
    rw [get_bind, if_pos ended]
    rfl

theorem parse_eq_ok_iff_whole {p q : Parser} {e : Expr} :
    parse p = .ok e q ↔ whole p = .ok e q := by
  unfold parse
  cases whole p with
  | ok e' q' => exact Iff.rfl
  | error fault q' => exact ⟨nofun, nofun⟩

/-- On its whole input, a parser finds the derivations that have their levels. -/
theorem whole_eq_ok_iff_derivation {p q : Parser} {e : Expr} :
    whole p = .ok e q ↔ ∃ sum : Grammar.Sum,
      Spans p sum.tokens q ∧ q.peek = .endOfInput ∧ sum.need ≤ maxDepth ∧ sum.tree = e := by
  rw [whole_eq_ok_iff]
  constructor
  · rintro ⟨parsed, ended⟩
    -- The outermost loop folds factors and terms, which make up the sum.
    obtain ⟨first, factors, terms, spans, tree, needU, needF, needT, -, -⟩ :=
      (sound maxDepth).1 _ _ _ _ parsed
    refine ⟨.mk (.mk first factors) terms, ?_, ended, ?_, tree⟩
    · simpa only [Sum.tokens, Product.tokens, List.append_assoc] using spans
    · simp only [Sum.need, Product.need, Product.count]
      omega
  · rintro ⟨sum, spans, ended, need, rfl⟩
    exact ⟨sum.parsed spans need (bindsTighter_of_end ended), ended⟩

end Parser

theorem parse_eq_ok_iff_whole_text {text : String} {e : Expr} :
    Expr.parse text = .ok e ↔ ∃ p q, Parser.ofText text = .ok p ∧ Parser.whole p = .ok e q := by
  simp only [← Parser.parse_eq_ok_iff_whole]
  unfold Expr.parse
  cases Parser.ofText text with
  | error fault => simp
  | ok p =>
    cases parsed : p.parse with
    | ok e' q => simp [parsed]
    | error fault q => simp [parsed]

theorem parse_eq_ok_iff_derivation {text : String} {e : Expr} :
    Expr.parse text = .ok e ↔ ∃ sum : Grammar.Sum,
      Spells text.toList sum.tokens ∧ sum.need ≤ maxDepth ∧ sum.tree = e := by
  simp only [parse_eq_ok_iff_whole_text, Parser.whole_eq_ok_iff_derivation]
  constructor
  · rintro ⟨p, q, started, sum, spans, ended, need, tree⟩
    exact ⟨sum, (Parser.spells_iff_spans sum.tokens_ne_nil).mpr
      ⟨sum.endOfInput_not_mem, p, q, started, spans, ended⟩, need, tree⟩
  · rintro ⟨sum, spells, need, tree⟩
    obtain ⟨-, p, q, started, spans, ended⟩ :=
      (Parser.spells_iff_spans sum.tokens_ne_nil).mp spells
    exact ⟨p, q, started, sum, spans, ended, need, tree⟩

/-- The value of a text is the value of the tree that it is parsed to. -/
theorem Expr.evaluate_eq_ok_iff {text : String} {value : Float} :
    Expr.evaluate text = .ok value ↔ ∃ e, Expr.parse text = .ok e ∧ e.eval = value := by
  rw [Expr.evaluate]
  cases Expr.parse text with
  | error fault => exact ⟨nofun, nofun⟩
  | ok e =>
    constructor
    · intro same
      exact ⟨e, rfl, Except.ok.inj same⟩
    · rintro ⟨_, same, rfl⟩
      cases same
      rfl

theorem Expr.evaluate_eq_error_iff {text : String} {fault : ParseError} :
    Expr.evaluate text = .error fault ↔ Expr.parse text = .error fault := by
  rw [Expr.evaluate]
  cases Expr.parse text with
  | error found => rw [Except.map, Except.error.injEq, Except.error.injEq]
  | ok e => exact ⟨nofun, nofun⟩

theorem derivation_unique {text : List Char} {one other : Grammar.Sum}
    (spells : Spells text one.tokens) (spells' : Spells text other.tokens) : one = other :=
  Grammar.Sum.tokens_injective (spells.unique spells')

/-- The parser accepts exactly the texts that the grammar derives within `maxDepth` levels, and
answers with the tree of the derivation, which is the only one. -/
theorem parse_accepts_grammar (text : String) (e : Expr) :
    (Expr.parse text = .ok e ↔ ∃ sum : Grammar.Sum,
      Spells text.toList sum.tokens ∧ sum.need ≤ maxDepth ∧ sum.tree = e) ∧
    {sum : Grammar.Sum | Spells text.toList sum.tokens}.Subsingleton := by
  refine ⟨parse_eq_ok_iff_derivation, ?_⟩
  intro one spells other spells'
  exact derivation_unique spells spells'

end DiceChat
