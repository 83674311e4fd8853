import DiceChat.Proofs.Text.Span

/-!
# Texts as bytes

A text in UTF-8, the offsets at which its bytes may be cut, and its characters with the offsets at
which they start. A byte below 128 is a character of its own, and no byte of any other character is
below 128, so a search for such bytes never stops in the middle of a character.

## Main results

* `isBoundary_utf8`: whole characters end at a boundary.
* `slice?_utf8`: cutting between whole characters gives these characters.
* `charIndices_utf8_cons`, `findChar?_utf8`: what is read from the bytes of a text.
* `infix_utf8`: two bytes below 128 stand side by side only where their characters do.
-/

namespace DiceChat

/-- The bytes of a text in UTF-8. -/
def utf8 (text : List Char) : List UInt8 :=
  text.flatMap String.utf8EncodeChar

/-- Whether a byte goes on with a character that an earlier byte has started. -/
def isContinuation (b : UInt8) : Bool :=
  decide (0x80 ≤ b.toNat) && decide (b.toNat < 0xC0)

/-- Whether bytes may be cut at an offset: at their ends, and where a character starts. -/
def isBoundary (bytes : List UInt8) (i : Nat) : Bool :=
  i == 0 || i == bytes.length || bytes[i]?.any fun b => !isContinuation b

/-- The bytes from one offset to another, unless one of the two is no boundary. -/
def slice? (bytes : List UInt8) (i j : Nat) : Option (List UInt8) :=
  if i ≤ j ∧ isBoundary bytes i = true ∧ isBoundary bytes j = true then
    some ((bytes.drop i).take (j - i))
  else none

/-- The characters of a text, with the offsets at which they start. -/
def charIndices (offset : Nat) (bytes : List UInt8) : List (Nat × Char) :=
  match _found : bytes.toByteArray.utf8DecodeChar? 0 with
  | none => []
  | some c => (offset, c) :: charIndices (offset + c.utf8Size) (bytes.drop c.utf8Size)
termination_by bytes.length
decreasing_by
  have enough := ByteArray.le_size_of_utf8DecodeChar?_eq_some _found
  have size : bytes.toByteArray.size = bytes.length := List.size_toByteArray
  have positive := c.utf8Size_pos
  rw [List.length_drop]
  omega

/-- The offset of the first character of a class. -/
def findChar? (p : Char → Bool) (bytes : List UInt8) : Option Nat :=
  ((charIndices 0 bytes).find? fun found => p found.2).map Prod.fst

/-- The characters of a text. -/
def decode (bytes : List UInt8) : List Char :=
  (charIndices 0 bytes).map Prod.snd

/-! ### Boundaries -/

@[simp] theorem utf8_nil : utf8 [] = [] :=
  rfl

theorem utf8_cons (c : Char) (text : List Char) :
    utf8 (c :: text) = String.utf8EncodeChar c ++ utf8 text :=
  List.flatMap_cons

theorem utf8_append (front behind : List Char) :
    utf8 (front ++ behind) = utf8 front ++ utf8 behind :=
  List.flatMap_append

theorem toList_toUTF8 (text : String) : text.toUTF8.data.toList = utf8 text.toList := by
  rw [String.toUTF8_eq_toByteArray, ← String.utf8Encode_toList, List.utf8Encode,
    List.toList_data_toByteArray]
  rfl

theorem utf8_of_ascii {c : Char} (ascii : c.toNat < 128) :
    String.utf8EncodeChar c = [UInt8.ofNat c.toNat] := by
  have small : c.val.toNat ≤ 127 := by
    change c.toNat ≤ 127
    omega
  exact if_pos small

/-- No byte of a character beyond ASCII is below 128. -/
theorem le_of_mem_utf8 {c : Char} (beyond : 128 ≤ c.toNat) :
    ∀ b ∈ String.utf8EncodeChar c, 128 ≤ b.toNat := by
  have large : ¬c.val.toNat ≤ 127 := by
    change ¬c.toNat ≤ 127
    omega
  intro b member
  unfold String.utf8EncodeChar at member
  dsimp only at member
  rw [if_neg large] at member
  split at member
  next =>
    simp only [List.mem_cons, List.not_mem_nil, or_false] at member
    rcases member with rfl | rfl <;> rw [UInt8.toNat_ofNat'] <;> omega
  next =>
    split at member
    next =>
      simp only [List.mem_cons, List.not_mem_nil, or_false] at member
      rcases member with rfl | rfl | rfl <;> rw [UInt8.toNat_ofNat'] <;> omega
    next =>
      simp only [List.mem_cons, List.not_mem_nil, or_false] at member
      rcases member with rfl | rfl | rfl | rfl <;> rw [UInt8.toNat_ofNat'] <;> omega

/-- No character starts with a continuation. -/
theorem head_utf8EncodeChar (c : Char) :
    ∃ b rest, String.utf8EncodeChar c = b :: rest ∧ isContinuation b = false := by
  have outside (n : Nat) (small : n < 256) (start : n < 0x80 ∨ 0xC0 ≤ n) :
      isContinuation (UInt8.ofNat n) = false := by
    rw [isContinuation, UInt8.toNat_ofNat_of_lt' small]
    simp only [Bool.and_eq_false_iff, decide_eq_false_iff_not]
    omega
  unfold String.utf8EncodeChar
  dsimp only
  split
  next => exact ⟨_, _, rfl, outside _ (by omega) (by omega)⟩
  next =>
    split
    next => exact ⟨_, _, rfl, outside _ (by omega) (by omega)⟩
    next =>
      split
      next => exact ⟨_, _, rfl, outside _ (by omega) (by omega)⟩
      next => exact ⟨_, _, rfl, outside _ (by omega) (by omega)⟩

theorem utf8_eq_nil_iff {text : List Char} : utf8 text = [] ↔ text = [] := by
  cases text with
  | nil => exact iff_of_true rfl rfl
  | cons c text => simp [utf8_cons, String.utf8EncodeChar_ne_nil]

/-- Whole characters end at a boundary. -/
theorem isBoundary_utf8 (front behind : List Char) :
    isBoundary (utf8 (front ++ behind)) (utf8 front).length = true := by
  rw [utf8_append]
  cases behind with
  | nil => simp [isBoundary]
  | cons c behind =>
    obtain ⟨b, rest, bytes, start⟩ := head_utf8EncodeChar c
    simp [isBoundary, utf8_cons, bytes, start]

theorem drop_utf8 (front behind : List Char) :
    (utf8 (front ++ behind)).drop (utf8 front).length = utf8 behind := by
  rw [utf8_append, List.drop_left]

/-- Cutting between whole characters gives these characters. -/
theorem slice?_utf8 (front middle behind : List Char) :
    slice? (utf8 (front ++ (middle ++ behind))) (utf8 front).length
        (utf8 (front ++ middle)).length =
      some (utf8 middle) := by
  have first := isBoundary_utf8 front (middle ++ behind)
  have last := isBoundary_utf8 (front ++ middle) behind
  rw [List.append_assoc] at last
  have ordered : (utf8 front).length ≤ (utf8 (front ++ middle)).length := by
    rw [utf8_append, List.length_append]
    exact Nat.le_add_right _ _
  rw [slice?, if_pos ⟨ordered, first, last⟩]
  simp only [utf8_append, List.drop_left, List.length_append, Nat.add_sub_cancel_left,
    List.take_left]

/-! ### Characters -/

theorem charIndices_utf8_cons (offset : Nat) (c : Char) (text : List Char) :
    charIndices offset (utf8 (c :: text)) =
      (offset, c) :: charIndices (offset + c.utf8Size) (utf8 text) := by
  have found : (utf8 (c :: text)).toByteArray.utf8DecodeChar? 0 = some c :=
    List.utf8DecodeChar?_utf8Encode_cons
  have behind : (utf8 (c :: text)).drop c.utf8Size = utf8 text := by
    rw [utf8_cons, ← String.length_utf8EncodeChar, List.drop_left]
  rw [charIndices]
  split
  next none =>
    rw [found] at none
    cases none
  next d same =>
    rw [found, Option.some.injEq] at same
    subst same
    rw [behind]

theorem charIndices_nil (offset : Nat) : charIndices offset [] = [] := by
  rw [charIndices]
  split
  next => rfl
  next c found =>
    have enough : 0 + c.utf8Size ≤ 0 := ByteArray.le_size_of_utf8DecodeChar?_eq_some found
    have positive := c.utf8Size_pos
    omega

theorem charIndices_chars (offset : Nat) (text : List Char) :
    (charIndices offset (utf8 text)).map Prod.snd = text := by
  induction text generalizing offset with
  | nil => rw [utf8_nil, charIndices_nil, List.map_nil]
  | cons c text ih => rw [charIndices_utf8_cons, List.map_cons, ih]

theorem decode_utf8 (text : List Char) : decode (utf8 text) = text :=
  charIndices_chars 0 text

section

variable {p : Char → Bool}

theorem find?_charIndices {front : List Char} {c : Char} {behind : List Char} (offset : Nat)
    (others : ∀ b ∈ front, p b = false) (here : p c = true) :
    (charIndices offset (utf8 (front ++ c :: behind))).find? (fun found => p found.2) =
      some (offset + (utf8 front).length, c) := by
  induction front generalizing offset with
  | nil =>
    rw [List.nil_append, charIndices_utf8_cons]
    exact List.find?_cons_of_pos here
  | cons b front ih =>
    obtain ⟨this, rest⟩ := List.forall_mem_cons.mp others
    rw [List.cons_append, charIndices_utf8_cons,
      List.find?_cons_of_neg (p := fun found : Nat × Char => p found.2) (by simp [this]),
      ih _ rest, utf8_cons, List.length_append, String.length_utf8EncodeChar, Nat.add_assoc]

/-- The first character of a class is found where the characters before it end. -/
theorem findChar?_utf8 {front : List Char} {c : Char} {behind : List Char}
    (others : ∀ b ∈ front, p b = false) (here : p c = true) :
    findChar? p (utf8 (front ++ c :: behind)) = some (utf8 front).length := by
  rw [findChar?, find?_charIndices 0 others here, Option.map_some, Nat.zero_add]

theorem findChar?_utf8_none {text : List Char} (others : ∀ b ∈ text, p b = false) :
    findChar? p (utf8 text) = none := by
  rw [findChar?, Option.map_eq_none_iff, List.find?_eq_none]
  intro found member
  have inside : found.2 ∈ (charIndices 0 (utf8 text)).map Prod.snd := List.mem_map_of_mem member
  rw [charIndices_chars] at inside
  simp [others _ inside]

/-- What is found is the first character of the class, and whole characters stand before it. -/
theorem exists_of_findChar? {text : List Char} {i : Nat}
    (found : findChar? p (utf8 text) = some i) :
    ∃ front c behind, text = front ++ c :: behind ∧ p c = true ∧ i = (utf8 front).length := by
  obtain ⟨front, rest, rfl, others, stops, -, -⟩ := exists_span (fun c => !p c) text
  have others' : ∀ c ∈ front, p c = false := by simpa using others
  cases rest with
  | nil =>
    rw [List.append_nil, findChar?_utf8_none others'] at found
    cases found
  | cons c behind =>
    have here : p c = true := by simpa using stops_cons.mp stops
    rw [findChar?_utf8 others' here, Option.some.injEq] at found
    exact ⟨front, c, behind, rfl, here, found.symm⟩

end

/-! ### Bytes below 128 -/

/-- A byte below 128 at the start of a text is its first character. -/
theorem head_of_utf8 {text : List Char} {b : UInt8} {rest : List UInt8} (ascii : b.toNat < 128)
    (starts : utf8 text = b :: rest) :
    ∃ c behind, text = c :: behind ∧ c.toNat = b.toNat ∧ utf8 behind = rest := by
  cases text with
  | nil => cases starts
  | cons c behind =>
    rw [utf8_cons] at starts
    by_cases small : c.toNat < 128
    · rw [utf8_of_ascii small, List.cons_append, List.cons.injEq] at starts
      refine ⟨c, behind, rfl, ?_, starts.2⟩
      rw [← starts.1, UInt8.toNat_ofNat_of_lt' (by omega : c.toNat < 256)]
    · -- The first byte of any other character is not below 128.
      obtain ⟨first, more, bytes, -⟩ := head_utf8EncodeChar c
      rw [bytes, List.cons_append, List.cons.injEq] at starts
      have large := le_of_mem_utf8 (by omega : 128 ≤ c.toNat) first (by simp [bytes])
      rw [starts.1] at large
      omega

/-- Two bytes of which the first is below 128 are not found among bytes that are not. -/
theorem infix_of_high {x y : UInt8} {high rest : List UInt8} (ascii : x.toNat < 128)
    (all : ∀ b ∈ high, 128 ≤ b.toNat) (within : [x, y] <:+: high ++ rest) : [x, y] <:+: rest := by
  induction high with
  | nil => exact within
  | cons b high ih =>
    obtain ⟨this, others⟩ := List.forall_mem_cons.mp all
    rcases List.infix_cons_iff.mp within with here | later
    · obtain ⟨rfl, -⟩ := List.cons_prefix_cons.mp here
      omega
    · exact ih others later

/-- Two bytes below 128 stand side by side only where their characters do. -/
theorem infix_utf8 {text : List Char} {x y : UInt8} (ascii : x.toNat < 128) (ascii' : y.toNat < 128)
    (within : [x, y] <:+: utf8 text) :
    ∃ c d, [c, d] <:+: text ∧ c.toNat = x.toNat ∧ d.toNat = y.toNat := by
  induction text with
  | nil => cases List.infix_nil.mp within
  | cons c text ih =>
    have later (inside : [x, y] <:+: utf8 text) :
        ∃ a d, [a, d] <:+: c :: text ∧ a.toNat = x.toNat ∧ d.toNat = y.toNat := by
      obtain ⟨a, d, pair, same⟩ := ih inside
      exact ⟨a, d, List.infix_cons pair, same⟩
    by_cases small : c.toNat < 128
    · rw [utf8_cons, utf8_of_ascii small, List.singleton_append, List.infix_cons_iff] at within
      rcases within with here | inside
      · obtain ⟨rfl, rest, starts⟩ := List.cons_prefix_cons.mp here
        obtain ⟨d, behind, rfl, same, -⟩ := head_of_utf8 ascii' starts.symm
        refine ⟨c, d, ⟨[], behind, rfl⟩, ?_, same⟩
        rw [UInt8.toNat_ofNat_of_lt' (by omega : c.toNat < 256)]
      · exact later inside
    · rw [utf8_cons] at within
      exact later (infix_of_high ascii (le_of_mem_utf8 (by omega)) within)

end DiceChat
