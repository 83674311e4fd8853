import Mathlib
import DiceChat.Proofs.Bot.Answers
import DiceChat.Proofs.Number.Written

/-!
# Lines for the chat

A line can be taken apart again, though the label in it may hold anything. Faces hold no
parenthesis, modifiers no arrow and totals no asterisk, so the first parenthesis behind the actor
ends the faces, the first arrow behind it the modifier, and the last asterisks but two the label.

## Main results

* `Bot.line_tells_response`: two responses to one actor with one line say the same.
-/

namespace DiceChat

/-! ### Faces -/

namespace Throw

/-- The faces of a throw behind its first. -/
def facesBehind (faces : List UInt32) : List Char :=
  faces.flatMap fun face => ',' :: Nat.toDigits 10 face.toNat

theorem toList_text_cons (face : UInt32) (faces : List UInt32) :
    (Throw.mk (face :: faces)).text.toList = Nat.toDigits 10 face.toNat ++ facesBehind faces := by
  induction faces generalizing face with
  | nil =>
    rw [text, List.map_cons, List.map_nil, String.intercalate_singleton, toList_toString_uint32]
    exact (List.append_nil _).symm
  | cons next faces ih =>
    have rest := ih next
    rw [text, List.map_cons] at rest ⊢
    rw [List.map_cons, String.intercalate_cons_cons, String.toList_append, String.toList_append,
      rest, toList_toString_uint32, List.append_assoc]
    rfl

theorem stops_facesBehind (faces : List UInt32) : Stops Char.isDigit (facesBehind faces) := by
  cases faces with
  | nil => exact stops_nil
  | cons face faces => exact stops_cons.mpr (by decide)

/-- A face ends where its digits do. -/
theorem faces_inj {face other : UInt32} {faces others : List UInt32}
    (same : Nat.toDigits 10 face.toNat ++ facesBehind faces =
      Nat.toDigits 10 other.toNat ++ facesBehind others) :
    face = other ∧ facesBehind faces = facesBehind others := by
  obtain ⟨digits, rest⟩ := span_inj isDigit_of_mem_toDigits isDigit_of_mem_toDigits
    (stops_facesBehind faces) (stops_facesBehind others) same
  exact ⟨UInt32.toNat_inj.mp (toDigits_inj digits), rest⟩

theorem facesBehind_inj {faces others : List UInt32}
    (same : facesBehind faces = facesBehind others) : faces = others := by
  induction faces generalizing others with
  | nil =>
    cases others with
    | nil => rfl
    | cons other others => cases same
  | cons face faces ih =>
    cases others with
    | nil => cases same
    | cons other others =>
      obtain ⟨first, rest⟩ := faces_inj (List.cons.inj same).2
      rw [first, ih rest]

/-- The text of a throw tells its faces. -/
theorem text_inj {throw other : Throw} (same : throw.text = other.text) : throw = other := by
  have chars := congrArg String.toList same
  obtain ⟨faces⟩ := throw
  obtain ⟨others⟩ := other
  cases faces with
  | nil =>
    cases others with
    | nil => rfl
    | cons other others =>
      -- A face has a digit at least, so only a throw without faces has no text.
      rw [toList_text_cons] at chars
      exact absurd (List.append_eq_nil_iff.mp chars.symm).1 Nat.toDigits_ne_nil
  | cons face faces =>
    rw [toList_text_cons] at chars
    cases others with
    | nil => exact absurd (List.append_eq_nil_iff.mp chars).1 Nat.toDigits_ne_nil
    | cons other others =>
      rw [toList_text_cons] at chars
      obtain ⟨first, rest⟩ := faces_inj chars
      rw [first, facesBehind_inj rest]

theorem mem_text {throw : Throw} {c : Char} (member : c ∈ throw.text.toList) :
    c.isDigit = true ∨ c = ',' := by
  obtain ⟨faces⟩ := throw
  cases faces with
  | nil => cases member
  | cons face faces =>
    rw [toList_text_cons, List.mem_append] at member
    rcases member with first | rest
    · exact .inl (isDigit_of_mem_toDigits c first)
    · obtain ⟨other, -, inside⟩ := List.mem_flatMap.mp rest
      rcases List.mem_cons.mp inside with comma | digit
      · exact .inr comma
      · exact .inl (isDigit_of_mem_toDigits c digit)

theorem ne_parenthesis (throw : Throw) : ∀ c ∈ throw.text.toList, (c != ')') = true := by
  intro c member
  rw [bne_iff_ne]
  rcases mem_text member with digit | rfl
  · rintro rfl
    cases digit
  · decide

end Throw

/-! ### Lines -/

namespace Response

/-- A response whose modifier has no arrow and whose total is a number. -/
structure Legible (r : Response) : Prop where
  modifier : '→' ∉ r.modifier.toList
  total : r.total.isFinite = true

variable {r s : Response}

/-- The label with what stands around it, up to the total. -/
def labelPart (r : Response) : List Char :=
  " \"".toList ++ r.label.toList ++ "\" → **".toList

/-- A line has one part for each field. -/
theorem toList_text (r : Response) : r.text.toList =
    r.actor.toList ++ (" → (".toList ++ (r.throw.text.toList ++ ')' ::
      (r.modifierText.toList ++ [' '] ++ '→' ::
        (r.labelPart ++ (valueText r.total).toList ++ "**".toList)))) := by
  simp [text, labelPart]

theorem modifierText_cases (r : Response) :
    r.modifier = "" ∧ r.modifierText = "" ∨ r.modifierText = " " ++ r.modifier := by
  unfold modifierText
  split
  next empty => exact .inl ⟨String.isEmpty_iff.mp empty, rfl⟩
  next => exact .inr rfl

/-- The gap tells a modifier from none. -/
theorem modifierText_inj (same : r.modifierText = s.modifierText) : r.modifier = s.modifier := by
  have gap (modifier : String) : "" ≠ " " ++ modifier := by
    intro none
    have chars := congrArg String.toList none
    rw [String.toList_append] at chars
    cases chars
  rcases r.modifierText_cases with ⟨none, text⟩ | text <;>
    rcases s.modifierText_cases with ⟨none', text'⟩ | text' <;> rw [text, text'] at same
  · rw [none, none']
  · exact absurd same (gap s.modifier)
  · exact absurd same.symm (gap r.modifier)
  · exact (String.append_right_inj " ").mp same

theorem stops_labelPart (r : Response) : Stops (· != '*') r.labelPart.reverse := by
  rw [labelPart, List.reverse_append]
  exact stops_cons.mpr rfl

theorem labelPart_inj (same : r.labelPart = s.labelPart) : r.label = s.label :=
  String.toList_injective (List.append_cancel_left (List.append_cancel_right same))

theorem ne_asterisk {x : Float} (finite : x.isFinite = true) :
    ∀ c ∈ (valueText x).toList, (c != '*') = true := by
  intro c member
  rw [bne_iff_ne]
  rcases Number.mem_valueText finite member with digit | rfl | rfl
  · rintro rfl
    cases digit
  · decide
  · decide

theorem Legible.modifierText (legible : r.Legible) :
    ∀ c ∈ r.modifierText.toList ++ [' '], (c != '→') = true := by
  have visible : ∀ c ∈ ' ' :: r.modifier.toList, (c != '→') = true := by
    intro c member
    rw [bne_iff_ne]
    rintro rfl
    rcases List.mem_cons.mp member with blank | inside
    · cases blank
    · exact legible.modifier inside
  intro c member
  apply visible
  rcases List.mem_append.mp member with inside | blank
  · rcases r.modifierText_cases with ⟨-, text⟩ | text
    · rw [text] at inside
      cases inside
    · rw [text, String.toList_append] at inside
      exact inside
  · exact List.mem_cons.mpr (.inl (List.mem_singleton.mp blank))

/-- The text of a throw has no parenthesis, a legible modifier no arrow, and a finite total no
asterisk, so each ends where the line goes on. -/
theorem text_inj (legible : r.Legible) (legible' : s.Legible) (actor : r.actor = s.actor)
    (same : r.text = s.text) :
    r.throw = s.throw ∧ r.modifier = s.modifier ∧ r.label = s.label ∧ r.total = s.total := by
  have chars := congrArg String.toList same
  rw [toList_text, toList_text, actor] at chars
  -- The actor may hold any delimiter too, but it is the same in both lines.
  have line := List.append_cancel_left (List.append_cancel_left chars)
  obtain ⟨throw, rest⟩ := span_inj (Throw.ne_parenthesis r.throw) (Throw.ne_parenthesis s.throw)
    (stops_cons.mpr rfl) (stops_cons.mpr rfl) line
  obtain ⟨modifier, rest⟩ := span_inj legible.modifierText legible'.modifierText
    (stops_cons.mpr rfl) (stops_cons.mpr rfl) (List.cons.inj rest).2
  have back := List.append_cancel_right (List.cons.inj rest).2
  -- The label may hold any delimiter, so the rest is read from its end.
  obtain ⟨label, total⟩ := spanEnd_inj (ne_asterisk legible.total) (ne_asterisk legible'.total)
    r.stops_labelPart s.stops_labelPart back
  refine ⟨Throw.text_inj (String.toList_injective throw), ?_, labelPart_inj label, ?_⟩
  · exact modifierText_inj (String.toList_injective (List.append_cancel_right modifier))
  · exact Number.valueText_inj legible.total legible'.total (String.toList_injective total)

end Response

/-! ### Answers -/

namespace Bot

variable {σ τ : Type} {actor : String} {r s : Response}

theorem legible_of_answer (bot : Bot σ) {text : String} {state : σ}
    (answered : (bot.answer text actor state).answer = .ok (some r)) : r.Legible := by
  have wellFormed := bot.wellFormed_of_answer answered
  refine ⟨?_, wellFormed.finite⟩
  intro arrow
  -- An accepted modifier has blanks, digits, points and symbols only.
  rcases wellFormed.modifier _ arrow with blank | digit | point | symbol
  · revert blank
    decide
  · cases digit
  · cases point
  · revert symbol
    decide

theorem actor_of_answer (bot : Bot σ) {text : String} {state : σ}
    (answered : (bot.answer text actor state).answer = .ok (some r)) : r.actor = actor := by
  obtain ⟨directive, -, responded⟩ := bot.answer_eq_some answered
  obtain ⟨total, -, -, rfl⟩ := respond_eq_ok_iff.mp responded
  rfl

/-- Responses of any two bots to one actor that have one line have one throw, modifier, label and
total, the totals down to the sign of a zero. -/
theorem line_tells_response (bot : Bot σ) (other : Bot τ) {text text' : String} {state : σ}
    {state' : τ} (answered : (bot.answer text actor state).answer = .ok (some r))
    (answered' : (other.answer text' actor state').answer = .ok (some s))
    (same : r.text = s.text) :
    r.throw = s.throw ∧ r.modifier = s.modifier ∧ r.label = s.label ∧ r.total = s.total := by
  have actors : r.actor = s.actor := by
    rw [bot.actor_of_answer answered, other.actor_of_answer answered']
  exact Response.text_inj (bot.legible_of_answer answered) (other.legible_of_answer answered')
    actors same

/-- The label looks like the end of a line. Only the dice of the responses are not the same. -/
theorem line_tells_response_mimic :
    let bot : Bot Unit := ⟨FaceSource.highest, {}⟩
    let other : Bot Unit := ⟨FaceSource.highest, { faceBound := .exclusive }⟩
    let r : Response := ⟨"Bo", ⟨6, 2⟩, ⟨[6, 6]⟩, "* 2", "hit\" → **9**", 24⟩
    let s : Response := ⟨"Bo", ⟨7, 2⟩, ⟨[6, 6]⟩, "* 2", "hit\" → **9**", 24⟩
    (bot.answer "[2d6 * 2 hit\" → **9**]" "Bo" ()).answer = .ok (some r) ∧
      (other.answer "[2d7* 2hit\" → **9**]" "Bo" ()).answer = .ok (some s) ∧
      r.text = s.text ∧
      r.throw = s.throw ∧ r.modifier = s.modifier ∧ r.label = s.label ∧ r.total = s.total := by
  intro bot other r s
  have answered : (bot.answer "[2d6 * 2 hit\" → **9**]" "Bo" ()).answer = .ok (some r) := by
    decide +kernel
  have answered' : (other.answer "[2d7* 2hit\" → **9**]" "Bo" ()).answer = .ok (some s) := by
    decide +kernel
  exact ⟨answered, answered', rfl, bot.line_tells_response other answered answered' rfl⟩

end Bot
end DiceChat
