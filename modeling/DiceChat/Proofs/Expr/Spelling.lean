import DiceChat.Expr.Cursor
import DiceChat.Proofs.Text.Digits
import DiceChat.Proofs.Text.Span

/-!
# How a text spells tokens

A text spells a list of tokens when it can be cut, from left to right, into blanks, symbols and
maximal runs of digits and points. This is said without the cursor.

## Main results

* `Cursor.spells_nil_iff`, `Cursor.spells_cons_iff`: the cursor reads exactly the tokens that the
  rest of its text spells, and then the end of the text.
* `Spells.unique`: no text spells two lists of tokens.
-/

namespace DiceChat

/-- The character that writes a token, unless the token is a number or the end. -/
def Token.symbol? : Token → Option Char
  | .plus => some '+'
  | .minus => some '-'
  | .times => some '*'
  | .divide => some '/'
  | .modulo => some '%'
  | .leftParenthesis => some '('
  | .rightParenthesis => some ')'
  | .number _ | .endOfInput => none

/-- A run that is a number: digits and points, at most one point and at least one digit. -/
structure Number.IsLiteral (run : List Char) : Prop where
  chars : ∀ c ∈ run, c.isDigit = true ∨ c = '.'
  points : run.count '.' ≤ 1
  digits : ∃ c ∈ run, c.isDigit = true

/-- All digits of a literal as one number, scaled down by the digits after the point. -/
def Number.literalValue (run : List Char) : Float :=
  .ofScientific (digitsValue (run.filter Char.isDigit)) true (run.dropWhile (· != '.')).tail.length

/-- `text` splits into blanks and the tokens of the list. -/
inductive Spells : List Char → List Token → Prop where
  | done : Spells [] []
  | blank {c text tokens} : isBlank c = true → Spells text tokens → Spells (c :: text) tokens
  | symbol {c token text tokens} : token.symbol? = some c → Spells text tokens →
      Spells (c :: text) (token :: tokens)
  /-- The run is maximal: what follows starts with neither a digit nor a point. -/
  | number {run text tokens} : Number.IsLiteral run →
      Stops Number.isLiteralChar text → Spells text tokens →
      Spells (run ++ text) (.number (Number.literalValue run) :: tokens)

/-! ### Classes of characters -/

theorem isLiteralChar_iff {c : Char} :
    Number.isLiteralChar c = true ↔ c.isDigit = true ∨ c = '.' := by
  simp [Number.isLiteralChar]

theorem Token.symbol?_eq_some_iff {token : Token} {c : Char} :
    token.symbol? = some c ↔ Token.ofSymbol? c = some token := by
  constructor
  · intro written
    cases token <;> simp only [symbol?, reduceCtorEq, Option.some.injEq] at written <;>
      subst written <;> rfl
  · intro read
    unfold ofSymbol? at read
    split at read <;> cases read <;> rfl

theorem isLiteralChar_of_isBlank {c : Char} (blank : isBlank c = true) :
    Number.isLiteralChar c = false := by
  rw [Bool.eq_false_iff, ne_eq, isLiteralChar_iff, isDigit_iff_toNat]
  simp only [isBlank, blankRanges, CodeRange.anyContains_iff, List.mem_cons, List.not_mem_nil,
    or_false, exists_eq_or_imp, exists_eq_left] at blank
  rintro (digit | rfl)
  · omega
  · revert blank; decide

theorem ofSymbol?_of_isBlank {c : Char} (blank : isBlank c = true) : Token.ofSymbol? c = none := by
  unfold Token.ofSymbol?
  split <;> first | rfl | (revert blank; decide)

theorem ofSymbol?_of_isLiteralChar {c : Char} (literal : Number.isLiteralChar c = true) :
    Token.ofSymbol? c = none := by
  unfold Token.ofSymbol?
  split <;> first | rfl | (revert literal; decide)

/-! ### Literals -/

namespace Number

theorem point_not_mem {digits : List Char} (all : ∀ c ∈ digits, c.isDigit = true) :
    '.' ∉ digits := by
  intro point
  have digit := all '.' point
  revert digit; decide

private theorem all_digits_iff {run : List Char} (chars : ∀ c ∈ run, c.isDigit = true ∨ c = '.') :
    (∀ c ∈ run, c.isDigit = true) ↔ run.count '.' = 0 := by
  constructor
  · exact fun all => List.count_eq_zero.mpr (point_not_mem all)
  · intro none c member
    rcases chars c member with digit | rfl
    · exact digit
    · exact absurd member (List.count_eq_zero.mp none)

theorem isLiteral_digits_iff {digits : List Char} (all : ∀ c ∈ digits, c.isDigit = true) :
    IsLiteral digits ↔ digits ≠ [] := by
  constructor
  · rintro ⟨_, _, c, member, _⟩
    exact List.ne_nil_of_mem member
  · intro filled
    obtain ⟨c, member⟩ := List.exists_mem_of_ne_nil digits filled
    refine ⟨fun c member => .inl (all c member), ?_, c, member, all c member⟩
    rw [List.count_eq_zero.mpr (point_not_mem all)]
    exact Nat.zero_le 1

theorem isLiteral_point_iff {whole fraction : List Char}
    (all : ∀ c ∈ whole, c.isDigit = true) (chars : ∀ c ∈ fraction, c.isDigit = true ∨ c = '.') :
    IsLiteral (whole ++ '.' :: fraction) ↔
      (∀ c ∈ fraction, c.isDigit = true) ∧ ¬(whole = [] ∧ fraction = []) := by
  have points : (whole ++ '.' :: fraction).count '.' = fraction.count '.' + 1 := by
    rw [List.count_append, List.count_cons_self, List.count_eq_zero.mpr (point_not_mem all),
      Nat.zero_add]
  constructor
  · rintro ⟨_, atMostOne, c, member, digit⟩
    -- The point between the parts is the one that may occur, so the fraction has none.
    rw [points] at atMostOne
    refine ⟨(all_digits_iff chars).mpr (by omega), ?_⟩
    -- Without digits on either side, the only character is the point.
    rintro ⟨rfl, rfl⟩
    rw [List.nil_append, List.mem_singleton] at member
    subst member
    revert digit; decide
  · rintro ⟨fractionAll, filled⟩
    refine ⟨?_, ?_, ?_⟩
    · intro c member
      rcases List.mem_append.mp member with before | after
      · exact .inl (all c before)
      · rcases List.mem_cons.mp after with rfl | behind
        · exact .inr rfl
        · exact .inl (fractionAll c behind)
    · have none := (all_digits_iff chars).mp fractionAll
      omega
    · by_cases empty : whole = []
      · obtain ⟨c, member⟩ := List.exists_mem_of_ne_nil fraction fun none => filled ⟨empty, none⟩
        exact ⟨c, by simp [member], fractionAll c member⟩
      · obtain ⟨c, member⟩ := List.exists_mem_of_ne_nil whole empty
        exact ⟨c, by simp [member], all c member⟩

private theorem dropWhile_digits {digits : List Char} (all : ∀ c ∈ digits, c.isDigit = true)
    (rest : List Char) : (digits ++ rest).dropWhile (· != '.') = rest.dropWhile (· != '.') := by
  apply List.dropWhile_append_of_pos
  intro c member
  rw [bne_iff_ne]
  rintro rfl
  exact point_not_mem all member

theorem literalValue_digits {digits : List Char} (all : ∀ c ∈ digits, c.isDigit = true) :
    literalValue digits = ofParts digits [] := by
  have behind := dropWhile_digits all []
  rw [List.append_nil, List.dropWhile_nil] at behind
  rw [literalValue, ofParts, behind, List.filter_eq_self.mpr all, List.append_nil]
  rfl

theorem literalValue_point {whole fraction : List Char}
    (all : ∀ c ∈ whole, c.isDigit = true) (fractionAll : ∀ c ∈ fraction, c.isDigit = true) :
    literalValue (whole ++ '.' :: fraction) = ofParts whole fraction := by
  have behind : ((whole ++ '.' :: fraction).dropWhile (· != '.')).tail = fraction := by
    rw [dropWhile_digits all]; rfl
  have digits : (whole ++ '.' :: fraction).filter Char.isDigit = whole ++ fraction := by
    rw [List.filter_append, List.filter_cons_of_neg (by decide), List.filter_eq_self.mpr all,
      List.filter_eq_self.mpr fractionAll]
  rw [literalValue, ofParts, behind, digits]

/-- Reading takes a run of digits and points for a number exactly when it is a literal. -/
theorem readLiteral_eq_ok_iff {run : List Char} (chars : ∀ c ∈ run, c.isDigit = true ∨ c = '.')
    {x : Float} : readLiteral run = .ok x ↔ IsLiteral run ∧ literalValue run = x := by
  obtain ⟨whole, after, rfl, all, stops, taken, dropped⟩ := exists_span Char.isDigit run
  unfold readLiteral
  rw [taken, dropped]
  cases after with
  | nil =>
    rw [List.append_nil, isLiteral_digits_iff all, literalValue_digits all]
    cases whole <;> simp
  | cons point fraction =>
    -- What ends the digits is no digit, so it is the point.
    obtain rfl : point = '.' := by
      rcases chars point (by simp) with digit | same
      · rw [stops_cons.mp stops] at digit
        cases digit
      · exact same
    have fractionChars : ∀ c ∈ fraction, c.isDigit = true ∨ c = '.' :=
      fun c member => chars c (by simp [member])
    rw [isLiteral_point_iff all fractionChars]
    simp only [beq_self_eq_true, Bool.true_and, Bool.and_eq_true, List.all_eq_true,
      Bool.not_eq_true', Bool.and_eq_false_imp, List.isEmpty_iff]
    split
    next good =>
      rw [Except.ok.injEq, literalValue_point all good.1]
      refine ⟨fun same => ⟨⟨good.1, ?_⟩, same⟩, And.right⟩
      rintro ⟨rfl, rfl⟩
      exact absurd (good.2 rfl) (by decide)
    next bad =>
      refine ⟨nofun, fun ⟨⟨fractionAll, filled⟩, _⟩ => absurd ⟨fractionAll, fun empty => ?_⟩ bad⟩
      rw [List.isEmpty_eq_false_iff]
      exact fun none => filled ⟨empty, none⟩

end Number

/-! ### Reading -/

namespace Cursor

theorem next_blank {c : Char} (blank : isBlank c = true) (text : List Char) (n : Nat) :
    next ⟨c :: text, n⟩ = next ⟨text, n + 1⟩ := by
  have positions : n + ((text.takeWhile isBlank).length + 1) =
      n + 1 + (text.takeWhile isBlank).length := by omega
  simp only [next, skipWhile, List.dropWhile_cons_of_pos blank, List.takeWhile_cons_of_pos blank,
    List.length_cons, positions]

theorem next_cons {c : Char} (visible : isBlank c = false) (text : List Char) (n : Nat) :
    next ⟨c :: text, n⟩ = tokenAt ⟨c :: text, n⟩ c := by
  have stays : ¬isBlank c = true := by rw [visible]; decide
  simp only [next, skipWhile, List.dropWhile_cons_of_neg stays, List.takeWhile_cons_of_neg stays,
    List.length_nil, Nat.add_zero]

theorem tokenAt_symbol {c : Char} {token : Token} (symbol : Token.ofSymbol? c = some token)
    (text : List Char) (n : Nat) : tokenAt ⟨c :: text, n⟩ c = .ok token ⟨text, n + 1⟩ := by
  simp only [tokenAt, symbol, List.tail_cons]

/-- A span of digits and points is read as one number or refused. -/
theorem tokenAt_run {c : Char} {run text : List Char}
    (chars : ∀ d ∈ c :: run, Number.isLiteralChar d = true)
    (stops : Stops Number.isLiteralChar text) (n : Nat) :
    tokenAt ⟨c :: run ++ text, n⟩ c =
      match Number.readLiteral (c :: run) with
      | .ok value => .ok (.number value) ⟨text, n + (c :: run).length⟩
      | .error fault => .error (.number fault) ⟨text, n + (c :: run).length⟩ := by
  have first : Number.isLiteralChar c = true := chars c (by simp)
  cases read : Number.readLiteral (c :: run) <;>
    simp only [tokenAt, ofSymbol?_of_isLiteralChar first, first, if_true, skipWhile,
      takeWhile_append_stops chars stops, dropWhile_append_stops chars stops, read]

theorem tokenAt_other {c : Char} (symbol : Token.ofSymbol? c = none)
    (literal : Number.isLiteralChar c = false) (text : List Char) (n : Nat) :
    ∃ fault after, tokenAt ⟨c :: text, n⟩ c = .error fault after := by
  simp only [tokenAt, symbol, literal, Bool.false_eq_true, if_false]
  split
  · exact ⟨_, _, rfl⟩
  · exact ⟨_, _, rfl⟩

/-- A token that starts at a visible character is not the end, and it is spelled in front of
whatever the rest spells. -/
theorem spells_of_next_visible {c : Char} {text : List Char} {n : Nat} {token : Token}
    {after : Cursor} (visible : isBlank c = false)
    (read : next ⟨c :: text, n⟩ = .ok token after) :
    token ≠ .endOfInput ∧
      ∀ tokens, Spells after.rest tokens → Spells (c :: text) (token :: tokens) := by
  rw [next_cons visible] at read
  cases symbol : Token.ofSymbol? c with
  | some found =>
    have written := Token.symbol?_eq_some_iff.mpr symbol
    rw [tokenAt_symbol symbol] at read
    cases read
    refine ⟨?_, fun tokens rest => .symbol written rest⟩
    rintro rfl
    cases written
  | none =>
    cases literal : Number.isLiteralChar c with
    | false =>
      -- No token starts with any other character.
      obtain ⟨fault, stuck, refused⟩ := tokenAt_other symbol literal text n
      rw [refused] at read
      cases read
    | true =>
      -- The cursor takes the whole span, and what is left does not go on with it.
      obtain ⟨run, behind, rfl, chars, stops, -⟩ := exists_span Number.isLiteralChar text
      have all : ∀ d ∈ c :: run, Number.isLiteralChar d = true :=
        List.forall_mem_cons.mpr ⟨literal, chars⟩
      rw [← List.cons_append, tokenAt_run all stops] at read
      split at read
      next value number =>
        cases read
        obtain ⟨isLiteral, rfl⟩ := (Number.readLiteral_eq_ok_iff fun d member =>
          isLiteralChar_iff.mp (all d member)).mp number
        exact ⟨nofun, fun tokens rest => .number isLiteral stops rest⟩
      · cases read

/-- What is read before the end is spelled in front of whatever the rest spells. -/
theorem spells_of_next {text : List Char} {n : Nat} {token : Token} {after : Cursor}
    {tokens : List Token} (read : next ⟨text, n⟩ = .ok token after) (more : token ≠ .endOfInput)
    (rest : Spells after.rest tokens) : Spells text (token :: tokens) := by
  induction text generalizing n with
  | nil =>
    cases read
    exact absurd rfl more
  | cons c text ih =>
    cases blank : isBlank c with
    | true =>
      rw [next_blank blank] at read
      exact .blank blank (ih read)
    | false => exact (spells_of_next_visible blank read).2 tokens rest

/-- A literal is read as a whole, in front of a text that does not go on with digits or points. -/
theorem next_literal {run text : List Char} (literal : Number.IsLiteral run)
    (stops : Stops Number.isLiteralChar text) (n : Nat) :
    next ⟨run ++ text, n⟩ =
      .ok (.number (Number.literalValue run)) ⟨text, n + run.length⟩ := by
  -- A literal has a digit, so the run is not empty and its first character is no blank.
  obtain ⟨first, member, digit⟩ := literal.digits
  obtain ⟨c, run, rfl⟩ := List.exists_cons_of_ne_nil (List.ne_nil_of_mem member)
  have chars : ∀ d ∈ c :: run, Number.isLiteralChar d = true :=
    fun d member => isLiteralChar_iff.mpr (literal.chars d member)
  have visible : isBlank c = false := by
    rw [Bool.eq_false_iff]
    intro blank
    have refused := isLiteralChar_of_isBlank blank
    rw [chars c (by simp)] at refused
    cases refused
  have number := (Number.readLiteral_eq_ok_iff literal.chars).mpr ⟨literal, rfl⟩
  -- The run is maximal, so the cursor takes it and no more.
  rw [List.cons_append, next_cons visible, ← List.cons_append, tokenAt_run chars stops, number]

/-- The first token that is spelled is read, and the rest spells the others. -/
theorem next_of_spells {text : List Char} {token : Token} {tokens : List Token} (n : Nat)
    (spells : Spells text (token :: tokens)) :
    token ≠ .endOfInput ∧
      ∃ after, next ⟨text, n⟩ = .ok token after ∧ Spells after.rest tokens := by
  generalize same : token :: tokens = all at spells
  induction spells generalizing n with
  | done => cases same
  | blank blank _ ih =>
    rw [next_blank blank]
    exact ih (n + 1) same
  | @symbol c found text others written rest =>
    cases same
    have symbol := Token.symbol?_eq_some_iff.mp written
    have visible : isBlank c = false := by
      rw [Bool.eq_false_iff]
      intro blank
      rw [ofSymbol?_of_isBlank blank] at symbol
      cases symbol
    refine ⟨?_, ⟨text, n + 1⟩, ?_, rest⟩
    · rintro rfl
      cases written
    · rw [next_cons visible, tokenAt_symbol symbol]
  | @number run text others literal stops rest =>
    cases same
    exact ⟨nofun, _, next_literal literal stops n, rest⟩

/-- The cursor reads the tokens that the rest of its text spells. -/
theorem spells_cons_iff {c : Cursor} {token : Token} {tokens : List Token} :
    Spells c.rest (token :: tokens) ↔
      token ≠ .endOfInput ∧ ∃ after, c.next = .ok token after ∧ Spells after.rest tokens :=
  ⟨next_of_spells c.position, fun ⟨more, _, read, rest⟩ => spells_of_next read more rest⟩

/-- The cursor comes to the end when the rest of its text spells nothing. -/
theorem spells_nil_iff {c : Cursor} :
    Spells c.rest [] ↔ ∃ after, c.next = .ok .endOfInput after := by
  obtain ⟨text, n⟩ := c
  constructor
  · intro spells
    change Spells text [] at spells
    generalize none : ([] : List Token) = all at spells
    induction spells generalizing n with
    | done => exact ⟨_, rfl⟩
    | blank blank _ ih =>
      rw [next_blank blank]
      exact ih (n + 1) none
    | symbol | number => cases none
  · rintro ⟨after, read⟩
    change Spells text []
    induction text generalizing n with
    | nil => exact .done
    | cons c text ih =>
      cases blank : isBlank c with
      | true =>
        rw [next_blank blank] at read
        exact .blank blank (ih (n + 1) read)
      | false => exact absurd rfl (spells_of_next_visible blank read).1

end Cursor

/-- A text spells at most one list of tokens. -/
theorem Spells.unique {text : List Char} {tokens others : List Token} (one : Spells text tokens)
    (other : Spells text others) : tokens = others := by
  -- Both lists are what the cursor reads, one token after the other.
  induction tokens generalizing text others with
  | nil =>
    obtain ⟨after, atEnd⟩ := Cursor.spells_nil_iff (c := ⟨text, 0⟩).mp one
    cases others with
    | nil => rfl
    | cons token _ =>
      obtain ⟨more, after, read, -⟩ := Cursor.spells_cons_iff (c := ⟨text, 0⟩).mp other
      rw [atEnd] at read
      cases read
      exact absurd rfl more
  | cons token tokens ih =>
    obtain ⟨more, after, read, rest⟩ := Cursor.spells_cons_iff (c := ⟨text, 0⟩).mp one
    cases others with
    | nil =>
      obtain ⟨after, atEnd⟩ := Cursor.spells_nil_iff (c := ⟨text, 0⟩).mp other
      rw [atEnd] at read
      cases read
      exact absurd rfl more
    | cons found others =>
      obtain ⟨_, after, again, behind⟩ := Cursor.spells_cons_iff (c := ⟨text, 0⟩).mp other
      rw [again] at read
      cases read
      rw [ih rest behind]

end DiceChat
