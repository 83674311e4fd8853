import DiceChat.Source

/-!
# Generated faces

A generator walks through all 64-bit states, so a conversation with the same seed has the same
faces.
-/

namespace DiceChat

/-- The state of a generator of 64-bit words. -/
structure Generator where
  state : UInt64
deriving DecidableEq, Repr

namespace Generator

/-- Steps the state by an odd constant and stirs it. -/
def word (generator : Generator) : UInt64 × Generator :=
  let state := generator.state + 0x9e3779b97f4a7c15
  let stirred := (state ^^^ (state >>> 30)) * 0xbf58476d1ce4e5b9
  let stirred := (stirred ^^^ (stirred >>> 27)) * 0x94d049bb133111eb
  (stirred ^^^ (stirred >>> 31), ⟨state⟩)

/-- A face of the range, chosen by the next word. -/
def draw (range : FaceRange) (generator : Generator) : UInt32 × Generator :=
  let (word, generator) := generator.word
  let span := range.high.toUInt64 - range.low.toUInt64 + 1
  (range.low + (word % span).toUInt32, generator)

def source : FaceSource Generator where
  draw := draw

end Generator
end DiceChat
