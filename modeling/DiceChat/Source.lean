/-!
# Sources of faces

A source answers a range of faces with one face and a new state of its own. Whether the answer
lies in the range is the source's affair.
-/

namespace DiceChat

/-- The faces from `low` to `high`. -/
structure FaceRange where
  low : UInt32
  high : UInt32
deriving DecidableEq, Repr

namespace FaceRange

def contains (range : FaceRange) (face : UInt32) : Bool :=
  decide (range.low ≤ face) && decide (face ≤ range.high)

end FaceRange

/-- A machine with states of type `σ` that draws faces. -/
structure FaceSource (σ : Type) where
  draw : FaceRange → σ → UInt32 × σ

namespace FaceSource

/-- Draws one face from each range, in order. -/
def drawEach {σ : Type} (source : FaceSource σ) : List FaceRange → σ → List UInt32 × σ
  | [], state => ([], state)
  | range :: ranges, state =>
    let (face, state) := source.draw range state
    let (faces, state) := drawEach source ranges state
    (face :: faces, state)

/-- Draws `count` faces from one range. -/
def drawMany {σ : Type} (source : FaceSource σ) (range : FaceRange) (count : Nat) (state : σ) :
    List UInt32 × σ :=
  source.drawEach (List.replicate count range) state

/-- Always the highest face. -/
def highest : FaceSource Unit where
  draw range state := (range.high, state)

/-- The same source, which also keeps the ranges it was asked for, the latest first. -/
def recorded {σ : Type} (source : FaceSource σ) : FaceSource (σ × List FaceRange) where
  draw range state :=
    let (face, inner) := source.draw range state.1
    (face, inner, range :: state.2)

end FaceSource

end DiceChat
