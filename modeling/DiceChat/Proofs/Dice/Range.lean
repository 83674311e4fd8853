import Mathlib
import DiceChat.Proofs.Dice.Validity
import DiceChat.Proofs.Source.Sums

/-!
# The range of sums

The sums that a throw can come to are all numbers from the smallest to the largest sum of the dice,
and no others. Neither of the two overflows for dice that can be made.

## Main results

* `exists_faces`: every number between is a sum of faces.
* `Dice.possibleSums_exact`: the sums of honest sources.
-/

namespace DiceChat

/-! ### Faces for a sum -/

/-- Every number from one to `high` for each die is the sum of that many faces up to `high`. -/
theorem exists_faces {high : UInt32} (positive : 1 ≤ high.toNat) {count n : Nat}
    (least : count ≤ n) (most : n ≤ count * high.toNat) :
    ∃ faces : List UInt32, faces.length = count ∧
      (∀ face ∈ faces, 1 ≤ face ∧ face ≤ high) ∧ (faces.map UInt32.toNat).sum = n := by
  induction count generalizing n with
  | zero =>
    obtain rfl : n = 0 := by omega
    exact ⟨[], rfl, nofun, rfl⟩
  | succ count ih =>
    -- The first die takes as much as it can and still leaves one for each of the others.
    obtain ⟨first, share⟩ : ∃ first, first = min high.toNat (n - count) := ⟨_, rfl⟩
    have small : first < UInt32.size := lt_of_le_of_lt (by omega) high.toNat_lt
    have value : (UInt32.ofNat first).toNat = first := UInt32.toNat_ofNat_of_lt' small
    have others : count ≤ count * high.toNat := Nat.le_mul_of_pos_right _ positive
    rw [Nat.succ_mul] at most
    obtain ⟨faces, enough, within, sum⟩ := ih (n := n - first) (by omega) (by omega)
    refine ⟨UInt32.ofNat first :: faces, ?_, List.forall_mem_cons.mpr ⟨?_, within⟩, ?_⟩
    · rw [List.length_cons, enough]
    · rw [UInt32.le_iff_toNat_le, UInt32.le_iff_toNat_le, value]
      have one : (1 : UInt32).toNat = 1 := rfl
      omega
    · rw [List.map_cons, List.sum_cons, sum, value]
      omega

namespace FaceSource

/-- Deals the faces of a list that are in the range, and the lowest face in place of the others. -/
def dealtWithin : FaceSource (List UInt32) where
  draw range
    | [] => (range.low, [])
    | face :: faces => (if range.contains face then face else range.low, faces)

theorem honest_dealtWithin : dealtWithin.Honest := by
  intro range faces filled
  have low : range.contains range.low = true :=
    FaceRange.contains_iff.mpr ⟨UInt32.le_refl _, filled⟩
  cases faces with
  | nil => exact low
  | cons face faces =>
    simp only [dealtWithin]
    split
    next inside => exact inside
    next => exact low

theorem drawMany_dealtWithin {range : FaceRange} {faces : List UInt32}
    (within : ∀ face ∈ faces, range.contains face = true) :
    dealtWithin.drawMany range faces.length faces = (faces, []) := by
  rw [drawMany]
  induction faces with
  | nil => rfl
  | cons face faces ih =>
    obtain ⟨inside, others⟩ := List.forall_mem_cons.mp within
    have later := ih others
    simp only [List.length_cons, List.replicate_succ, drawEach, dealtWithin, inside, if_true]
      at later ⊢
    rw [later]

end FaceSource

/-! ### The largest sum -/

theorem FaceBound.high_inclusive {sides : UInt32} (positive : 1 ≤ sides.toNat) :
    (inclusive.faces sides).high = sides := by
  obtain ⟨-, -, high⟩ := inclusive.faces_within positive
  have larger : (inclusive.faces sides).high = if sides ≤ 1 then 1 else sides := rfl
  rw [larger] at high ⊢
  split
  next single =>
    rw [if_pos single] at high
    exact UInt32.le_antisymm high single
  next => rfl

namespace Dice

variable {dice : Dice}

theorem greatest_le_all (valid : dice.Valid) (bound : FaceBound) :
    (dice.greatest bound).toNat ≤ dice.count.toNat * dice.sides.toNat := by
  obtain ⟨-, -, high⟩ := bound.faces_within valid.2.1
  rw [greatest_toNat valid]
  exact Nat.mul_le_mul_left _ (UInt32.le_iff_toNat_le.mp high)

theorem greatest_inclusive (valid : dice.Valid) :
    (dice.greatest .inclusive).toNat = dice.count.toNat * dice.sides.toNat := by
  rw [greatest_toNat valid, faces, FaceBound.high_inclusive valid.2.1]

theorem least_le_greatest (valid : dice.Valid) (bound : FaceBound) :
    dice.least ≤ dice.greatest bound := by
  obtain ⟨-, high, -⟩ := bound.faces_within valid.2.1
  rw [UInt32.le_iff_toNat_le, greatest_toNat valid]
  exact Nat.le_mul_of_pos_right _ (UInt32.le_iff_toNat_le.mp high)

/-! ### Throws -/

variable {σ : Type} {source : FaceSource σ} {bound : FaceBound} {state : σ}

theorem length_throw (dice : Dice) (source : FaceSource σ) (bound : FaceBound) (state : σ) :
    (dice.throw source bound state).1.faces.length = dice.count.toNat := by
  rw [throw, FaceSource.drawMany, FaceSource.length_drawEach, List.length_replicate]

theorem total_throw (dice : Dice) (source : FaceSource σ) (bound : FaceBound) (state : σ) :
    (dice.throw source bound state).1.total.toNat = (dice.throw source bound state).1.sum := by
  have few := dice.count.toNat_lt
  exact Throw.total_toNat (by rw [length_throw]; omega)

/-- A throw whose faces are in range has a possible sum, whatever its source does otherwise. -/
theorem total_within (valid : dice.Valid)
    (within : ∀ face ∈ (dice.throw source bound state).1.faces,
      (dice.faces bound).contains face = true) :
    (dice.throw source bound state).1.total.toNat ∈
      Set.Icc (dice.possibleSums bound).1.toNat (dice.possibleSums bound).2.toNat := by
  rw [total_throw]
  exact sum_within valid bound (length_throw dice source bound state) within

theorem exists_throw (valid : dice.Valid) {n : Nat}
    (possible : n ∈ Set.Icc (dice.possibleSums bound).1.toNat (dice.possibleSums bound).2.toNat) :
    ∃ faces, (dice.throw .dealtWithin bound faces).1.total.toNat = n := by
  obtain ⟨least, most⟩ := possible
  obtain ⟨low, high, -⟩ := bound.faces_within valid.2.1
  simp only [possibleSums, Dice.least, greatest_toNat valid] at least most
  obtain ⟨faces, enough, within, sum⟩ := exists_faces (UInt32.le_iff_toNat_le.mp high) least most
  have inside : ∀ face ∈ faces, (dice.faces bound).contains face = true := by
    intro face member
    rw [FaceRange.contains_iff, Dice.faces, low]
    exact within face member
  refine ⟨faces, ?_⟩
  rw [total_throw, throw, ← enough, FaceSource.drawMany_dealtWithin inside]
  exact sum

/-- Dice that can be made have their smallest and their largest sum in 32 bits, and these are the
ends of all sums of sources that keep to their ranges. -/
theorem possibleSums_exact {draft : DiceDraft} (built : draft.build = .ok dice)
    (bound : FaceBound) :
    dice.least.toNat = dice.count.toNat ∧
    (dice.greatest bound).toNat = dice.count.toNat * (dice.faces bound).high.toNat ∧
    dice.least ≤ dice.greatest bound ∧
    (dice.greatest bound).toNat ≤ dice.count.toNat * dice.sides.toNat ∧
    dice.greatest .exclusive ≤ dice.greatest .inclusive ∧
    (∀ (σ : Type) (source : FaceSource σ) (state : σ),
      (∀ face ∈ (dice.throw source bound state).1.faces,
        (dice.faces bound).contains face = true) →
      (dice.throw source bound state).1.total.toNat ∈
        Set.Icc (dice.possibleSums bound).1.toNat (dice.possibleSums bound).2.toNat) ∧
    {n | ∃ (σ : Type) (source : FaceSource σ) (state : σ), source.Honest ∧
        (dice.throw source bound state).1.total.toNat = n} =
      Set.Icc (dice.possibleSums bound).1.toNat (dice.possibleSums bound).2.toNat := by
  obtain ⟨-, valid⟩ := build_eq_ok_iff.mp built
  refine ⟨rfl, greatest_toNat valid bound, least_le_greatest valid bound,
    greatest_le_all valid bound, ?_, fun σ source state within => total_within valid within, ?_⟩
  · rw [UInt32.le_iff_toNat_le, greatest_inclusive valid]
    exact greatest_le_all valid .exclusive
  · apply Set.Subset.antisymm
    · rintro n ⟨σ, source, state, honest, rfl⟩
      obtain ⟨low, high, -⟩ := bound.faces_within valid.2.1
      have filled : (dice.faces bound).low ≤ (dice.faces bound).high := low.symm ▸ high
      exact total_within valid (honest.drawEach filled _ state)
    · intro n possible
      obtain ⟨faces, total⟩ := exists_throw valid possible
      exact ⟨_, _, faces, FaceSource.honest_dealtWithin, total⟩

/-- One-sided dice under the exclusive bound have one sum only, here the largest of all. -/
theorem possibleSums_exact_ones :
    let dice : Dice := ⟨1, 4294967295⟩
    ({ sides := 1, count := 4294967295 } : DiceDraft).build = .ok dice ∧
      {n | ∃ (σ : Type) (source : FaceSource σ) (state : σ), source.Honest ∧
        (dice.throw source .exclusive state).1.total.toNat = n} = {4294967295} := by
  intro dice
  have built : ({ sides := 1, count := 4294967295 } : DiceDraft).build = .ok dice := by
    decide +kernel
  obtain ⟨-, -, -, -, -, -, sums⟩ := possibleSums_exact built .exclusive
  have ends : (dice.possibleSums .exclusive) = (4294967295, 4294967295) := by decide +kernel
  refine ⟨built, ?_⟩
  rw [sums, ends]
  exact Set.Icc_self _

end Dice
end DiceChat
