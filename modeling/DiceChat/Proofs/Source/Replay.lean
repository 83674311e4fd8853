import Mathlib.Data.List.Rotate
import DiceChat.Source.Script
import DiceChat.Proofs.Source.Drawing

/-!
# Replaying a script

A script looks up each face at the number of draws before it, modulo the length of its list. The
number is counted in 64 bits, so the list is replayed from its start whenever it runs out, up to
the draw at which the count starts over. There the list starts over as well, wherever it has come
to, and a list that does not fit this goes out of step.

## Main results

* `Script.getElem?_drawEach`: the face of every draw, as the count gives it.
* `Script.replays_iff_rotate`: the lists that are replayed for ever.
* `Script.three_faces_skip`: a list that goes out of step.
-/

namespace DiceChat
namespace Script

variable {faces : List UInt32}

/-- Every draw, of whatever ranges, gives the face whose turn it is when the list is repeated
without end. -/
def Replays (faces : List UInt32) : Prop :=
  ∀ (ranges : List FaceRange) (n : Nat), n < ranges.length →
    (source.drawEach ranges ⟨faces, 0⟩).1[n]? = faces[n % faces.length]?

/-- A draw looks up the face at the count and counts on. -/
theorem draw_filled (filled : faces ≠ []) (range : FaceRange) (drawn : UInt64) :
    ∃ face, faces[drawn.toNat % faces.length]? = some face ∧
      source.draw range ⟨faces, drawn⟩ = (face, ⟨faces, drawn + 1⟩) := by
  have inside : drawn.toNat % faces.length < faces.length :=
    Nat.mod_lt _ (List.length_pos_iff.mpr filled)
  refine ⟨faces[drawn.toNat % faces.length], List.getElem?_eq_getElem inside, ?_⟩
  simp only [source, draw, List.getElem?_eq_getElem inside]

/-- The face of a draw is the one at the count, which has gone on by one for each draw before. -/
theorem getElem?_drawEach (filled : faces ≠ []) (ranges : List FaceRange) (drawn : UInt64) {n : Nat}
    (asked : n < ranges.length) :
    (source.drawEach ranges ⟨faces, drawn⟩).1[n]? =
      faces[(drawn.toNat + n) % UInt64.size % faces.length]? := by
  induction ranges generalizing drawn n with
  | nil => simp at asked
  | cons range ranges ih =>
    obtain ⟨face, found, drew⟩ := draw_filled filled range drawn
    simp only [FaceSource.drawEach, drew]
    cases n with
    | zero =>
      have small : drawn.toNat % UInt64.size = drawn.toNat := Nat.mod_eq_of_lt drawn.toNat_lt
      simp only [List.getElem?_cons_zero, Nat.add_zero, small, found]
    | succ n =>
      have counted : (drawn + 1).toNat = (drawn.toNat + 1) % UInt64.size := UInt64.toNat_add _ _
      have later := ih (drawn + 1) (Nat.lt_of_succ_lt_succ asked)
      -- The count may have wrapped here; the sum that it stands for has not.
      rw [counted, Nat.mod_add_mod, Nat.add_right_comm, Nat.add_assoc] at later
      simpa only [List.getElem?_cons_succ] using later

theorem getElem?_drawEach_new (filled : faces ≠ []) {ranges : List FaceRange} {n : Nat}
    (asked : n < ranges.length) :
    (source.drawEach ranges ⟨faces, 0⟩).1[n]? = faces[n % UInt64.size % faces.length]? := by
  have found := getElem?_drawEach filled ranges 0 asked
  rwa [UInt64.toNat_zero, Nat.zero_add] at found

/-- There is a run of every length, so the law of a list is a law of its positions. -/
theorem replays_iff_positions (filled : faces ≠ []) :
    Replays faces ↔ ∀ n : Nat, faces[n % UInt64.size % faces.length]? = faces[n % faces.length]? := by
  constructor
  · intro replays n
    have asked : n < (List.replicate (n + 1) (⟨1, 1⟩ : FaceRange)).length := by
      rw [List.length_replicate]
      exact Nat.lt_succ_self n
    rw [← getElem?_drawEach_new filled asked, replays _ n asked]
  · intro agree ranges n asked
    rw [getElem?_drawEach_new filled asked, agree n]

/-- What the count leaves out are whole rounds of it, so they must not move the list. -/
theorem positions_iff_rotate :
    (∀ n : Nat, faces[n % UInt64.size % faces.length]? = faces[n % faces.length]?) ↔
      faces.rotate UInt64.size = faces := by
  constructor
  · intro agree
    refine List.ext_getElem? fun k => ?_
    by_cases inside : k < faces.length
    · -- One round later, the count is what it was at `k`.
      have later := agree (k + UInt64.size)
      rw [Nat.add_mod_right, agree k, Nat.mod_eq_of_lt inside] at later
      rw [List.getElem?_rotate inside, ← later]
    · rw [List.getElem?_eq_none (by rw [List.length_rotate]; omega),
        List.getElem?_eq_none (by omega)]
  · intro same n
    -- Induction on the rounds of the count that `n` has behind it.
    induction n using Nat.strong_induction_on with
    | _ n ih =>
      by_cases first : n < UInt64.size
      · rw [Nat.mod_eq_of_lt first]
      · obtain ⟨before, rfl⟩ : ∃ before, n = before + UInt64.size := ⟨n - UInt64.size, by omega⟩
        rw [Nat.add_mod_right, ih before (Nat.lt_add_of_pos_right (by decide))]
        by_cases filled : faces = []
        · simp [filled]
        · have inside : before % faces.length < faces.length :=
            Nat.mod_lt _ (List.length_pos_iff.mpr filled)
          have turned := List.getElem?_rotate (n := UInt64.size) inside
          rwa [same, Nat.mod_add_mod] at turned

/-- In every run, each draw gives the face at the count, and as long as the count has not started
over this is the face whose turn it is. For ever it is so exactly if starting the count over does
not move the list. -/
theorem replays_iff_rotate (filled : faces ≠ []) :
    (∀ (ranges : List FaceRange) (n : Nat), n < ranges.length →
        (source.drawEach ranges ⟨faces, 0⟩).1[n]? = faces[n % UInt64.size % faces.length]? ∧
          (n < UInt64.size →
            (source.drawEach ranges ⟨faces, 0⟩).1[n]? = faces[n % faces.length]?)) ∧
      (Replays faces ↔ faces.rotate UInt64.size = faces) := by
  refine ⟨fun ranges n asked => ?_, (replays_iff_positions filled).trans positions_iff_rotate⟩
  have found := getElem?_drawEach_new filled asked
  refine ⟨found, fun early => ?_⟩
  rw [found, Nat.mod_eq_of_lt early]

/-- Two faces come in turn for ever, and so they do in this run. -/
theorem replays_iff_rotate_pair :
    let faces : List UInt32 := [4, 5]
    let range : FaceRange := ⟨1, 6⟩
    faces ≠ [] ∧ faces.rotate UInt64.size = faces ∧ Replays faces ∧
      (source.drawEach [range, range, range] ⟨faces, 0⟩).1[2]? = some 4 := by
  intro faces range
  have filled : faces ≠ [] := by decide
  have still : faces.rotate UInt64.size = faces := by decide
  have turn : faces[2 % faces.length]? = some 4 := by decide
  obtain ⟨draws, always⟩ := replays_iff_rotate filled
  have third := (draws [range, range, range] 2 (by decide)).2 (by decide)
  exact ⟨filled, still, always.mpr still, third.trans turn⟩

/-- Of three faces the first is drawn where the count starts over, although it is the turn of the
second. -/
theorem three_faces_skip :
    let faces : List UInt32 := [1, 2, 3]
    let ranges := List.replicate (UInt64.size + 1) (⟨1, 6⟩ : FaceRange)
    UInt64.size < ranges.length ∧
      (source.drawEach ranges ⟨faces, 0⟩).1[UInt64.size]? = some 1 ∧
      faces[UInt64.size % faces.length]? = some 2 ∧ ¬Replays faces := by
  intro faces ranges
  have filled : faces ≠ [] := by decide
  have asked : UInt64.size < ranges.length := by
    rw [List.length_replicate]
    exact Nat.lt_succ_self _
  have drawn : (source.drawEach ranges ⟨faces, 0⟩).1[UInt64.size]? = some 1 := by
    rw [getElem?_drawEach_new filled asked, Nat.mod_self]
    rfl
  have turn : faces[UInt64.size % faces.length]? = some 2 := by decide
  refine ⟨asked, drawn, turn, fun replays => ?_⟩
  have same := replays ranges UInt64.size asked
  rw [drawn, turn] at same
  revert same; decide

end Script
end DiceChat
