/-!
# The span of a class

A list of characters splits in one way into a front within a class and a rest that leaves it at
once.
-/

namespace DiceChat

variable {α : Type} {p : α → Bool}

/-- The rest of a text after a span of `p` does not go on with `p`. -/
def Stops (p : α → Bool) (rest : List α) : Prop :=
  ∀ c ∈ rest.head?, p c = false

@[simp] theorem stops_nil : Stops p [] :=
  nofun

@[simp] theorem stops_cons {c : α} {rest : List α} : Stops p (c :: rest) ↔ p c = false := by
  simp [Stops]

theorem stops_of_append {text behind : List α} (stops : Stops p (text ++ behind)) :
    Stops p text := by
  cases text with
  | nil => exact stops_nil
  | cons c text => exact stops_cons.mpr (stops_cons.mp stops)

theorem stops_dropWhile (p : α → Bool) (text : List α) : Stops p (text.dropWhile p) := by
  intro c member
  have stop := List.head?_dropWhile_not p text
  rw [Option.mem_def.mp member] at stop
  exact stop

theorem takeWhile_append_stops {front rest : List α} (within : ∀ c ∈ front, p c = true)
    (stops : Stops p rest) : (front ++ rest).takeWhile p = front := by
  rw [List.takeWhile_append_of_pos within]
  cases rest with
  | nil => rw [List.takeWhile_nil, List.append_nil]
  | cons c rest =>
    rw [List.takeWhile_cons_of_neg (by simp [stops_cons.mp stops]), List.append_nil]

theorem dropWhile_append_stops {front rest : List α} (within : ∀ c ∈ front, p c = true)
    (stops : Stops p rest) : (front ++ rest).dropWhile p = rest := by
  rw [List.dropWhile_append_of_pos within]
  cases rest with
  | nil => rfl
  | cons c rest => rw [List.dropWhile_cons_of_neg (by simp [stops_cons.mp stops])]

theorem mem_takeWhile {text : List α} : ∀ c ∈ text.takeWhile p, p c = true :=
  List.all_eq_true.mp List.all_takeWhile

/-- Every text has a span of `p`, and `takeWhile` and `dropWhile` cut it there. -/
theorem exists_span (p : α → Bool) (text : List α) :
    ∃ front rest, text = front ++ rest ∧ (∀ c ∈ front, p c = true) ∧ Stops p rest ∧
      text.takeWhile p = front ∧ text.dropWhile p = rest :=
  ⟨text.takeWhile p, text.dropWhile p, List.takeWhile_append_dropWhile.symm, mem_takeWhile,
    stops_dropWhile p text, rfl, rfl⟩

/-- A text has one span of a class. -/
theorem span_inj {front front' rest rest' : List α} (within : ∀ c ∈ front, p c = true)
    (within' : ∀ c ∈ front', p c = true) (stops : Stops p rest) (stops' : Stops p rest')
    (same : front ++ rest = front' ++ rest') : front = front' ∧ rest = rest' := by
  constructor
  · rw [← takeWhile_append_stops within stops, same, takeWhile_append_stops within' stops']
  · rw [← dropWhile_append_stops within stops, same, dropWhile_append_stops within' stops']

/-- A text has one span of a class at its end. -/
theorem spanEnd_inj {front front' back back' : List α} (within : ∀ c ∈ back, p c = true)
    (within' : ∀ c ∈ back', p c = true) (stops : Stops p front.reverse)
    (stops' : Stops p front'.reverse) (same : front ++ back = front' ++ back') :
    front = front' ∧ back = back' := by
  have reversed : back.reverse ++ front.reverse = back'.reverse ++ front'.reverse := by
    rw [← List.reverse_append, same, List.reverse_append]
  obtain ⟨backs, fronts⟩ := span_inj (fun c member => within c (List.mem_reverse.mp member))
    (fun c member => within' c (List.mem_reverse.mp member)) stops stops' reversed
  exact ⟨List.reverse_inj.mp fronts, List.reverse_inj.mp backs⟩

end DiceChat
