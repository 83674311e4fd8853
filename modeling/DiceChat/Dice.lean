import DiceChat.FaceBound

/-!
# Dice and throws

A dice spec such as `2d6` has a number of dice and a number of sides. A throw draws one face for
every die.
-/

namespace DiceChat

/-- `count` dice of `sides` sides each. -/
structure Dice where
  sides : UInt32
  count : UInt32
deriving DecidableEq, Repr

namespace Dice

/-- Dice that can be thrown and summed: some dice, some sides, and a largest sum of 32 bits. -/
def Valid (dice : Dice) : Prop :=
  1 ≤ dice.count.toNat ∧ 1 ≤ dice.sides.toNat ∧ dice.count.toNat * dice.sides.toNat < UInt32.size

instance (dice : Dice) : Decidable dice.Valid :=
  inferInstanceAs (Decidable (_ ∧ _ ∧ _))

def text (dice : Dice) : String :=
  s!"{dice.count}d{dice.sides}"

def faces (dice : Dice) (bound : FaceBound) : FaceRange :=
  bound.faces dice.sides

/-- The smallest sum, one for each die. -/
def least (dice : Dice) : UInt32 :=
  dice.count

/-- The largest sum, every die on its highest face. -/
def greatest (dice : Dice) (bound : FaceBound) : UInt32 :=
  dice.count * (dice.faces bound).high

/-- The smallest and the largest sum. -/
def possibleSums (dice : Dice) (bound : FaceBound) : UInt32 × UInt32 :=
  (dice.least, dice.greatest bound)

end Dice

/-- Dice on their way to being made: a number of sides, and one die until told otherwise. -/
structure DiceDraft where
  sides : UInt32
  count : UInt32 := 1
deriving DecidableEq, Repr

namespace DiceDraft

def withCount (draft : DiceDraft) (count : UInt32) : DiceDraft :=
  { draft with count }

/-- Refuses zero dice, zero sides and sums beyond 32 bits. -/
def build (draft : DiceDraft) : Except RollError Dice :=
  if draft.sides = 0 ∨ draft.count = 0 then
    .error (.malformedDirective .zeroValue)
  else if draft.count.toNat * draft.sides.toNat < UInt32.size then
    .ok ⟨draft.sides, draft.count⟩
  else
    .error (.numericOverflow (.sum draft.count draft.sides))

end DiceDraft

/-- The faces that came up, in the order of the dice. -/
structure Throw where
  faces : List UInt32
deriving DecidableEq, Repr

namespace Throw

/-- The sum of the faces in 64 bits. -/
def total (throw : Throw) : UInt64 :=
  throw.faces.foldl (fun sum face => sum + face.toUInt64) 0

def text (throw : Throw) : String :=
  ",".intercalate (throw.faces.map toString)

end Throw

/-- Draws one face for every die. -/
def Dice.throw {σ : Type} (dice : Dice) (source : FaceSource σ) (bound : FaceBound) (state : σ) :
    Throw × σ :=
  let (faces, state) := source.drawMany (dice.faces bound) dice.count.toNat state
  (⟨faces⟩, state)

end DiceChat
