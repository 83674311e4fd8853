import DiceChat.Proofs.Text.Span
import DiceChat.Text.Blank
import DiceChat.Text.Letter

/-!
# Trimming

What is left of a text when blanks are cut from its ends, without a direction of reading. The
classes of letters, digits and blanks do not overlap, so trimming keeps a letter where it is.
-/

namespace DiceChat

/-- `core` is what is left of `text` without the blanks behind it. -/
structure TrimsEnd (text core : List Char) : Prop where
  ends : Stops isBlank core.reverse
  blanks : ∃ behind, text = core ++ behind ∧ ∀ c ∈ behind, isBlank c = true

/-- `core` is what is left of `text` without the blanks around it. -/
structure Trims (text core : List Char) : Prop where
  starts : Stops isBlank core
  ends : Stops isBlank core.reverse
  blanks : ∃ front behind, text = front ++ (core ++ behind) ∧
    (∀ c ∈ front, isBlank c = true) ∧ ∀ c ∈ behind, isBlank c = true

theorem trimEnd_trims (text : List Char) : TrimsEnd text (trimEnd text) := by
  obtain ⟨behind, core, same, blanks, stops, -, cut⟩ := exists_span isBlank text.reverse
  have whole : text = core.reverse ++ behind.reverse := by
    rw [← List.reverse_append, ← same, List.reverse_reverse]
  rw [trimEnd, cut]
  refine ⟨by rwa [List.reverse_reverse], behind.reverse, whole, ?_⟩
  intro c member
  exact blanks c (List.mem_reverse.mp member)

theorem TrimsEnd.eq_trimEnd {text core : List Char} (trims : TrimsEnd text core) :
    trimEnd text = core := by
  obtain ⟨ends, behind, rfl, blanks⟩ := trims
  have blanksBack : ∀ c ∈ behind.reverse, isBlank c = true := by
    intro c member
    exact blanks c (List.mem_reverse.mp member)
  rw [trimEnd, List.reverse_append, dropWhile_append_stops blanksBack ends, List.reverse_reverse]

theorem trim_trims (text : List Char) : Trims text (trim text) := by
  obtain ⟨front, rest, rfl, blanks, stops, -, cut⟩ := exists_span isBlank text
  have trims := trimEnd_trims rest
  obtain ⟨behind, same, blanksBehind⟩ := trims.blanks
  rw [trim, trimStart, cut]
  -- The cut at the end leaves the start as the first cut has left it.
  refine ⟨?_, trims.ends, front, behind, ?_, blanks, blanksBehind⟩
  · rw [same] at stops
    exact stops_of_append stops
  · rw [← same]

theorem Trims.eq_trim {text core : List Char} (trims : Trims text core) : trim text = core := by
  obtain ⟨starts, ends, front, behind, rfl, blanks, blanksBehind⟩ := trims
  cases core with
  | nil =>
    -- A text of blanks is gone after the cut at its start.
    have all : ∀ c ∈ front ++ behind, isBlank c = true := by
      intro c member
      rcases List.mem_append.mp member with before | after
      · exact blanks c before
      · exact blanksBehind c after
    have nothing : (front ++ behind ++ []).dropWhile isBlank = [] :=
      dropWhile_append_stops all stops_nil
    rw [List.append_nil] at nothing
    rw [trim, trimStart, List.nil_append, nothing]
    rfl
  | cons c core =>
    have starts' : Stops isBlank (c :: core ++ behind) := stops_cons.mpr (stops_cons.mp starts)
    rw [trim, trimStart, dropWhile_append_stops blanks starts']
    exact TrimsEnd.eq_trimEnd ⟨ends, behind, rfl, blanksBehind⟩

/-! ### Disjoint classes -/

/-- Two lists of ranges have no code point in common. -/
def CodeRange.Disjoint (ranges others : List CodeRange) : Prop :=
  ∀ range ∈ ranges, ∀ other ∈ others, range.high < other.low ∨ other.high < range.low

instance (ranges others : List CodeRange) : Decidable (CodeRange.Disjoint ranges others) :=
  inferInstanceAs (Decidable (∀ _ ∈ ranges, ∀ _ ∈ others, _ ∨ _))

theorem CodeRange.Disjoint.anyContains_eq_false {ranges others : List CodeRange}
    (disjoint : CodeRange.Disjoint ranges others) {c : Char}
    (within : CodeRange.anyContains ranges c = true) : CodeRange.anyContains others c = false := by
  rw [Bool.eq_false_iff]
  intro both
  obtain ⟨range, member, low, high⟩ := CodeRange.anyContains_iff.mp within
  obtain ⟨other, otherMember, otherLow, otherHigh⟩ := CodeRange.anyContains_iff.mp both
  have apart := disjoint range member other otherMember
  omega

theorem isBlank_of_isLetter {c : Char} (letter : isLetter c = true) : isBlank c = false := by
  have disjoint : CodeRange.Disjoint letterRanges blankRanges := by decide +kernel
  exact disjoint.anyContains_eq_false letter

end DiceChat
