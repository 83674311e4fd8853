import DiceChat.FaceBound

/-!
# Drawing from a source

One face is drawn for each range, and drawing for one list of ranges after another is drawing for
both. Keeping the ranges that a source was asked for does not change what it answers.

## Main results

* `FaceSource.drawEach_append`: drawing for two lists.
* `FaceSource.drawEach_recorded`: what a recorded source keeps.
* `FaceBound.faces_within`: the faces of a die that has sides.
-/

namespace DiceChat
namespace FaceSource

variable {σ : Type}

theorem drawEach_append (source : FaceSource σ) (ranges others : List FaceRange) (state : σ) :
    source.drawEach (ranges ++ others) state =
      ((source.drawEach ranges state).1 ++
          (source.drawEach others (source.drawEach ranges state).2).1,
        (source.drawEach others (source.drawEach ranges state).2).2) := by
  induction ranges generalizing state with
  | nil => rfl
  | cons range ranges ih =>
    simp only [List.cons_append, drawEach, ih]

theorem length_drawEach (source : FaceSource σ) (ranges : List FaceRange) (state : σ) :
    (source.drawEach ranges state).1.length = ranges.length := by
  induction ranges generalizing state with
  | nil => rfl
  | cons range ranges ih => simp only [drawEach, List.length_cons, ih]

theorem drawEach_recorded (source : FaceSource σ) (ranges past : List FaceRange) (state : σ) :
    source.recorded.drawEach ranges (state, past) =
      ((source.drawEach ranges state).1, (source.drawEach ranges state).2,
        ranges.reverse ++ past) := by
  induction ranges generalizing state past with
  | nil => rfl
  | cons range ranges ih =>
    simp only [drawEach, recorded, List.reverse_cons, List.append_assoc, List.cons_append,
      List.nil_append]
    have later := ih (range :: past) (source.draw range state).2
    simp only [recorded] at later
    rw [later]

/-- Deals the faces of a list, whatever the ranges are. -/
def dealt : FaceSource (List UInt32) where
  draw range
    | [] => (range.low, [])
    | face :: faces => (face, faces)

theorem drawEach_dealt {ranges : List FaceRange} {faces : List UInt32}
    (enough : faces.length = ranges.length) : dealt.drawEach ranges faces = (faces, []) := by
  induction ranges generalizing faces with
  | nil =>
    rw [List.length_eq_zero_iff.mp enough]
    rfl
  | cons range ranges ih =>
    cases faces with
    | nil => cases enough
    | cons face faces =>
      have later := ih (Nat.succ.inj enough)
      simp only [drawEach, dealt] at later ⊢
      rw [later]

end FaceSource

namespace FaceBound

private theorem max_one_within {high sides : UInt32} (positive : 1 ≤ sides.toNat)
    (low : high.toNat ≤ sides.toNat) : 1 ≤ max high 1 ∧ max high 1 ≤ sides := by
  have larger : max high 1 = if high ≤ 1 then 1 else high := rfl
  rw [larger]
  simp only [UInt32.le_iff_toNat_le]
  have one : (1 : UInt32).toNat = 1 := rfl
  split <;> omega

/-- Faces start at one and go no further than the sides. -/
theorem faces_within (bound : FaceBound) {sides : UInt32} (positive : 1 ≤ sides.toNat) :
    (bound.faces sides).low = 1 ∧ 1 ≤ (bound.faces sides).high ∧
      (bound.faces sides).high ≤ sides := by
  cases bound with
  | inclusive => exact ⟨rfl, max_one_within positive (Nat.le_refl _)⟩
  | exclusive =>
    -- The sides do not run below zero, so taking one away makes them fewer.
    have filled : sides ≠ 0 := by
      rintro rfl
      cases positive
    have fewer : (sides - 1).toNat ≤ sides.toNat := by
      have one : (1 : UInt32).toNat = 1 := rfl
      rw [UInt32.toNat_sub_of_le sides 1 (UInt32.le_iff_toNat_le.mpr positive), one]
      exact Nat.sub_le _ _
    rw [faces, if_neg filled]
    exact ⟨rfl, max_one_within positive fewer⟩

end FaceBound
end DiceChat
