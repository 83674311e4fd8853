import DiceChat.Text.CodeRange

/-!
# Blank characters

The property White_Space. Blanks separate tokens and are trimmed from the ends of settings,
modifiers and labels.
-/

namespace DiceChat

/-- White_Space. -/
def blankRanges : List CodeRange :=
  [⟨0x0009, 0x000D⟩, ⟨0x0020, 0x0020⟩, ⟨0x0085, 0x0085⟩, ⟨0x00A0, 0x00A0⟩, ⟨0x1680, 0x1680⟩,
   ⟨0x2000, 0x200A⟩, ⟨0x2028, 0x2029⟩, ⟨0x202F, 0x202F⟩, ⟨0x205F, 0x205F⟩, ⟨0x3000, 0x3000⟩]

def isBlank (c : Char) : Bool :=
  CodeRange.anyContains blankRanges c

/-! ## Trimming -/

def trimStart (text : List Char) : List Char :=
  text.dropWhile isBlank

def trimEnd (text : List Char) : List Char :=
  (text.reverse.dropWhile isBlank).reverse

/-- Blanks are cut from both ends. -/
def trim (text : List Char) : List Char :=
  trimEnd (trimStart text)

end DiceChat
