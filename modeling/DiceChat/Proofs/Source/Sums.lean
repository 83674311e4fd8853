import Mathlib
import DiceChat.Dice
import DiceChat.Proofs.Source.Drawing

/-!
# Sums of faces

The sum of a throw in 64 bits is the sum of its faces, and that of a source that keeps to its ranges
lies between the smallest and the largest sum of the dice, which have 32 bits.

## Main results

* `Throw.total_toNat`: no overflow in the sum of up to `2 ^ 32` faces.
* `Dice.greatest_toNat`: no overflow in the largest sum of valid dice.
* `Dice.sum_within`: the sum of faces within their range.
-/

namespace DiceChat

/-! ### Sums in 64 bits -/

namespace Throw

/-- The sum of the faces, however large. -/
def sum (throw : Throw) : Nat :=
  (throw.faces.map UInt32.toNat).sum

theorem foldl_toNat {faces : List UInt32} {start : UInt64}
    (small : start.toNat + (faces.map UInt32.toNat).sum < 2 ^ 64) :
    (faces.foldl (fun sum face => sum + face.toUInt64) start).toNat =
      start.toNat + (faces.map UInt32.toNat).sum := by
  induction faces generalizing start with
  | nil => rfl
  | cons face faces ih =>
    rw [List.map_cons, List.sum_cons] at small
    -- What is still to come is small enough, so this addition does not wrap.
    have step : (start + face.toUInt64).toNat = start.toNat + face.toNat := by
      rw [UInt64.toNat_add, UInt32.toNat_toUInt64]
      exact Nat.mod_eq_of_lt (by omega)
    rw [List.foldl_cons, ih (by omega), step, List.map_cons, List.sum_cons, Nat.add_assoc]

theorem sum_le (throw : Throw) : throw.sum ≤ throw.faces.length * (2 ^ 32 - 1) := by
  have bound : ∀ n ∈ throw.faces.map UInt32.toNat, n ≤ 2 ^ 32 - 1 := by
    intro n member
    obtain ⟨face, -, rfl⟩ := List.mem_map.mp member
    have below := face.toNat_lt
    omega
  simpa [sum] using List.sum_le_card_nsmul _ _ bound

theorem total_toNat {throw : Throw} (few : throw.faces.length ≤ 2 ^ 32) :
    throw.total.toNat = throw.sum := by
  have bound := throw.sum_le
  have small : throw.sum < 2 ^ 64 := by
    have most := Nat.mul_le_mul_right (2 ^ 32 - 1) few
    omega
  have start : (0 : UInt64).toNat = 0 := rfl
  have fits : (0 : UInt64).toNat + (throw.faces.map UInt32.toNat).sum < 2 ^ 64 := by
    rwa [start, Nat.zero_add]
  have folded := foldl_toNat fits
  rwa [start, Nat.zero_add] at folded

end Throw

/-! ### Sources that keep to their ranges -/

theorem FaceRange.contains_iff {range : FaceRange} {face : UInt32} :
    range.contains face = true ↔ range.low ≤ face ∧ face ≤ range.high := by
  simp [contains]

namespace FaceSource

variable {σ : Type}

/-- Every range that holds a face is answered from inside. -/
def Honest (source : FaceSource σ) : Prop :=
  ∀ (range : FaceRange) (state : σ), range.low ≤ range.high →
    range.contains (source.draw range state).1 = true

theorem Honest.drawEach {source : FaceSource σ} (honest : source.Honest) {range : FaceRange}
    (filled : range.low ≤ range.high) (count : Nat) (state : σ) :
    ∀ face ∈ (source.drawEach (List.replicate count range) state).1,
      range.contains face = true := by
  induction count generalizing state with
  | zero => exact nofun
  | succ count ih =>
    rw [List.replicate_succ, FaceSource.drawEach]
    exact List.forall_mem_cons.mpr ⟨honest range state filled, ih _⟩

end FaceSource

namespace Dice

/-- The largest sum has 32 bits, since all sides of all dice have. -/
theorem greatest_toNat {dice : Dice} (valid : dice.Valid) (bound : FaceBound) :
    (dice.greatest bound).toNat = dice.count.toNat * (dice.faces bound).high.toNat := by
  obtain ⟨-, sides, small⟩ := valid
  obtain ⟨-, -, high⟩ := bound.faces_within sides
  have fits : dice.count.toNat * (dice.faces bound).high.toNat < UInt32.size :=
    Nat.lt_of_le_of_lt (Nat.mul_le_mul_left _ (UInt32.le_iff_toNat_le.mp high)) small
  rw [greatest, UInt32.toNat_mul]
  exact Nat.mod_eq_of_lt fits

/-- As many faces as there are dice, all within their range, have a possible sum. -/
theorem sum_within {dice : Dice} (valid : dice.Valid) (bound : FaceBound) {throw : Throw}
    (enough : throw.faces.length = dice.count.toNat)
    (within : ∀ face ∈ throw.faces, (dice.faces bound).contains face = true) :
    (dice.possibleSums bound).1.toNat ≤ throw.sum ∧
      throw.sum ≤ (dice.possibleSums bound).2.toNat := by
  obtain ⟨low, -, -⟩ := bound.faces_within valid.2.1
  have each : ∀ n ∈ throw.faces.map UInt32.toNat, 1 ≤ n ∧ n ≤ (dice.faces bound).high.toNat := by
    intro n member
    obtain ⟨face, inside, rfl⟩ := List.mem_map.mp member
    obtain ⟨least, most⟩ := FaceRange.contains_iff.mp (within face inside)
    rw [Dice.faces, low] at least
    exact ⟨UInt32.le_iff_toNat_le.mp least, UInt32.le_iff_toNat_le.mp most⟩
  constructor
  · have least := List.card_nsmul_le_sum (throw.faces.map UInt32.toNat) 1 fun n member =>
      (each n member).1
    simpa [possibleSums, Dice.least, Throw.sum, enough] using least
  · have most := List.sum_le_card_nsmul (throw.faces.map UInt32.toNat) _ fun n member =>
      (each n member).2
    simpa [possibleSums, greatest_toNat valid bound, Throw.sum, enough] using most

end Dice
end DiceChat
