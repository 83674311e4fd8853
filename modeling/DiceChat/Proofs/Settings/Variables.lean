import Mathlib
import DiceChat.Settings
import DiceChat.Proofs.Text.Trim
import DiceChat.Proofs.Text.Unsigned

/-!
# Settings from variables

Which values of the three variables are settings, and what is wrong with the first one that is not.
A setting that is written out is read back, with any blanks around it and in any case of letters.

## Main results

* `Settings.ofVars_decides`: the settings or the fault of all variables.
-/

namespace DiceChat

/-! ### Values -/

/-- A value names a bound: without the blanks around it, and in any case of ASCII letters. -/
def FaceBound.NamedBy (value : String) (bound : FaceBound) : Prop :=
  ∃ core, Trims value.toList core ∧ core.map Char.toLower = bound.name.toList

/-- A value that names no bound. -/
inductive FaceBound.Unknown (value : String) : SettingsFault → Prop where
  | name {core} : Trims value.toList core →
      (∀ bound : FaceBound, core.map Char.toLower ≠ bound.name.toList) →
      Unknown value (.unknownFaceBound (String.ofList (core.map Char.toLower)))

namespace Settings

/-- A value is a limit: a number of at least one and at most 32 bits, with blanks around it. -/
def LimitedBy (value : String) (limit : UInt32) : Prop :=
  ∃ core, Trims value.toList core ∧ IsUnsigned core limit.toNat ∧ 1 ≤ limit.toNat

/-- A value that is no limit. -/
inductive NoLimit (name value : String) : SettingsFault → Prop where
  | zero {core} : Trims value.toList core → IsUnsigned core 0 → NoLimit name value (.zeroLimit name)
  | unreadable {core fault} : Trims value.toList core → UnsignedFault.Of core fault →
      NoLimit name value (.unreadableLimit name value fault)

/-- A variable gives a setting: what its value stands for, or the default if it is not set. -/
inductive Gives {α : Type} (StandsFor : String → α → Prop) (default : α) :
    Option String → α → Prop where
  | unset : Gives StandsFor default none default
  | set {value setting} : StandsFor value setting → Gives StandsFor default (some value) setting

/-- Every variable gives its setting. -/
structure GivenBy (lookup : String → Option String) (settings : Settings) : Prop where
  faceBound : Gives FaceBound.NamedBy .inclusive (lookup faceBoundVar) settings.faceBound
  maxDice : Gives LimitedBy 100 (lookup maxDiceVar) settings.maxDice
  maxSides : Gives LimitedBy 1000 (lookup maxSidesVar) settings.maxSides

/-- The fault of the first variable that gives no setting. -/
inductive RefusedBy (lookup : String → Option String) : SettingsFault → Prop where
  | faceBound {value fault} : lookup faceBoundVar = some value → FaceBound.Unknown value fault →
      RefusedBy lookup fault
  | maxDice {bound value fault} :
      Gives FaceBound.NamedBy .inclusive (lookup faceBoundVar) bound →
      lookup maxDiceVar = some value → NoLimit maxDiceVar value fault → RefusedBy lookup fault
  | maxSides {bound dice value fault} :
      Gives FaceBound.NamedBy .inclusive (lookup faceBoundVar) bound →
      Gives LimitedBy 100 (lookup maxDiceVar) dice →
      lookup maxSidesVar = some value → NoLimit maxSidesVar value fault → RefusedBy lookup fault

/-- A value shows a text with blanks around it. -/
def Around (text : List Char) (value : String) : Prop :=
  ∃ front behind, value.toList = front ++ (text ++ behind) ∧
    (∀ c ∈ front, isBlank c = true) ∧ ∀ c ∈ behind, isBlank c = true

/-- The variables show the settings as they are written out, with any blanks around them, the bound
in any case of letters. -/
structure ShownBy (lookup : String → Option String) (settings : Settings) : Prop where
  faceBound : ∃ value text, lookup faceBoundVar = some value ∧ Around text value ∧
    text.map Char.toLower = settings.faceBound.name.toList
  maxDice : ∃ value, lookup maxDiceVar = some value ∧
    Around (toString settings.maxDice).toList value
  maxSides : ∃ value, lookup maxSidesVar = some value ∧
    Around (toString settings.maxSides).toList value

end Settings

/-! ### Bounds -/

namespace FaceBound

variable {value : String}

theorem ofName?_eq_some_iff {name : String} {bound : FaceBound} :
    ofName? name = some bound ↔ bound.name = name := by
  constructor
  · intro found
    have named : (bound.name == name) = true :=
      List.find?_some (p := fun bound : FaceBound => bound.name == name) found
    exact beq_iff_eq.mp named
  · rintro rfl
    cases bound <;> decide

theorem namedBy_iff {bound : FaceBound} : NamedBy value bound ↔
    ofName? (String.ofList ((trim value.toList).map Char.toLower)) = some bound := by
  rw [ofName?_eq_some_iff]
  constructor
  · rintro ⟨core, trims, same⟩
    rw [trims.eq_trim, same, String.ofList_toList]
  · intro same
    exact ⟨_, trim_trims value.toList, by rw [same, String.toList_ofList]⟩

theorem read_eq_ok_iff {bound : FaceBound} : read value = .ok bound ↔ NamedBy value bound := by
  rw [namedBy_iff, read]
  cases ofName? (String.ofList ((trim value.toList).map Char.toLower)) with
  | none => simp only [reduceCtorEq]
  | some found => simp only [Except.ok.injEq, Option.some.injEq]

theorem read_eq_error_iff {error : RollError} :
    read value = .error error ↔ ∃ fault, Unknown value fault ∧ error = .settings fault := by
  constructor
  · intro failed
    refine ⟨_, .name (trim_trims value.toList) ?_, ?_⟩
    · intro bound same
      rw [read_eq_ok_iff.mpr ⟨_, trim_trims value.toList, same⟩] at failed
      cases failed
    · rw [read] at failed
      split at failed
      · cases failed
      · cases failed
        rfl
  · rintro ⟨fault, ⟨trims, unknown⟩, rfl⟩
    -- A bound that was found would have the name that none has.
    have none : ofName? (String.ofList ((trim value.toList).map Char.toLower)) = none := by
      rw [Option.eq_none_iff_forall_ne_some]
      intro bound found
      obtain ⟨core, trims', same⟩ := namedBy_iff.mpr found
      rw [← trims'.eq_trim, trims.eq_trim] at same
      exact unknown bound same
    rw [read, none, trims.eq_trim]

end FaceBound

/-! ### Limits -/

namespace Settings

variable {name value : String}

/-- A number is a limit, unless it is zero. -/
theorem readLimit_of_number {core : List Char} {limit : UInt32} (trims : Trims value.toList core)
    (number : IsUnsigned core limit.toNat) :
    readLimit name value =
      if limit = 0 then .error (.settings (.zeroLimit name)) else .ok limit := by
  rw [readLimit, trims.eq_trim, readUnsigned_eq_iff.mpr (.number number)]

theorem readLimit_of_fault {core : List Char} {fault : UnsignedFault}
    (trims : Trims value.toList core) (faulty : UnsignedFault.Of core fault) :
    readLimit name value = .error (.settings (.unreadableLimit name value fault)) := by
  rw [readLimit, trims.eq_trim, readUnsigned_eq_iff.mpr (.fault faulty)]

/-- A value is a number or it has a fault. -/
theorem number_or_fault (value : String) :
    (∃ core limit, Trims value.toList core ∧ IsUnsigned core (UInt32.toNat limit)) ∨
      ∃ core fault, Trims value.toList core ∧ UnsignedFault.Of core fault := by
  obtain ⟨answer, reading⟩ := exists_reading (trim value.toList)
  cases reading with
  | number number => exact .inl ⟨_, _, trim_trims _, number⟩
  | fault faulty => exact .inr ⟨_, _, trim_trims _, faulty⟩

theorem readLimit_eq_ok_iff {limit : UInt32} :
    readLimit name value = .ok limit ↔ LimitedBy value limit := by
  constructor
  · intro read
    rcases number_or_fault value with ⟨core, found, trims, number⟩ | ⟨core, fault, trims, faulty⟩
    · rw [readLimit_of_number trims number] at read
      split at read
      · cases read
      next some =>
        cases read
        exact ⟨core, trims, number, Nat.pos_of_ne_zero fun none => some (UInt32.toNat_inj.mp none)⟩
    · rw [readLimit_of_fault trims faulty] at read
      cases read
  · rintro ⟨core, trims, number, positive⟩
    have some : limit ≠ 0 := by
      rintro rfl
      cases positive
    rw [readLimit_of_number trims number, if_neg some]

theorem readLimit_eq_error_iff {error : RollError} :
    readLimit name value = .error error ↔
      ∃ fault, NoLimit name value fault ∧ error = .settings fault := by
  constructor
  · intro read
    rcases number_or_fault value with ⟨core, found, trims, number⟩ | ⟨core, fault, trims, faulty⟩
    · rw [readLimit_of_number trims number] at read
      split at read
      next none =>
        subst none
        cases read
        exact ⟨_, .zero trims number, rfl⟩
      · cases read
    · rw [readLimit_of_fault trims faulty] at read
      cases read
      exact ⟨_, .unreadable trims faulty, rfl⟩
  · rintro ⟨fault, none, rfl⟩
    cases none with
    | zero trims number =>
      have number : IsUnsigned _ (0 : UInt32).toNat := number
      exact readLimit_of_number trims number
    | unreadable trims faulty => exact readLimit_of_fault trims faulty

/-! ### Variables -/

theorem bind_eq_ok_iff {ε α β : Type} {x : Except ε α} {f : α → Except ε β} {b : β} :
    x.bind f = .ok b ↔ ∃ a, x = .ok a ∧ f a = .ok b := by
  cases x <;> simp [Except.bind]

theorem bind_eq_error_iff {ε α β : Type} {x : Except ε α} {f : α → Except ε β} {e : ε} :
    x.bind f = .error e ↔ x = .error e ∨ ∃ a, x = .ok a ∧ f a = .error e := by
  cases x <;> simp [Except.bind]

section

variable {α : Type} {read : String → Except RollError α} {StandsFor : String → α → Prop}
  {default : α} {value? : Option String}

theorem orDefault_eq_ok_iff
    (reads : ∀ {value setting}, read value = .ok setting ↔ StandsFor value setting) {setting : α} :
    orDefault read default value? = .ok setting ↔ Gives StandsFor default value? setting := by
  constructor
  · intro given
    cases value? with
    | none =>
      cases given
      exact .unset
    | some value => exact .set (reads.mp given)
  · intro given
    cases given with
    | unset => rfl
    | set stands => exact reads.mpr stands

theorem orDefault_eq_error_iff {error : RollError} :
    orDefault read default value? = .error error ↔
      ∃ value, value? = some value ∧ read value = .error error := by
  cases value? with
  | none => simp only [orDefault, reduceCtorEq, false_and, exists_false]
  | some value => simp only [orDefault, Option.some.injEq, exists_eq_left']

end

variable {lookup : String → Option String}

theorem ofVars_eq_bind (lookup : String → Option String) : ofVars lookup =
    (orDefault FaceBound.read .inclusive (lookup faceBoundVar)).bind fun bound =>
    (orDefault (readLimit maxDiceVar) 100 (lookup maxDiceVar)).bind fun dice =>
    (orDefault (readLimit maxSidesVar) 1000 (lookup maxSidesVar)).bind fun sides =>
      .ok ⟨bound, dice, sides⟩ :=
  rfl

/-- The variables are read one after the other, as long as they are set to what can be read. -/
theorem ofVars_eq_ok_iff_read {settings : Settings} : ofVars lookup = .ok settings ↔
    ∃ bound, orDefault FaceBound.read .inclusive (lookup faceBoundVar) = .ok bound ∧
    ∃ dice, orDefault (readLimit maxDiceVar) 100 (lookup maxDiceVar) = .ok dice ∧
    ∃ sides, orDefault (readLimit maxSidesVar) 1000 (lookup maxSidesVar) = .ok sides ∧
      ⟨bound, dice, sides⟩ = settings := by
  simp only [ofVars_eq_bind, bind_eq_ok_iff, Except.ok.injEq]

theorem ofVars_eq_error_iff_read {error : RollError} : ofVars lookup = .error error ↔
    orDefault FaceBound.read .inclusive (lookup faceBoundVar) = .error error ∨
    ∃ bound, orDefault FaceBound.read .inclusive (lookup faceBoundVar) = .ok bound ∧
      (orDefault (readLimit maxDiceVar) 100 (lookup maxDiceVar) = .error error ∨
      ∃ dice, orDefault (readLimit maxDiceVar) 100 (lookup maxDiceVar) = .ok dice ∧
        orDefault (readLimit maxSidesVar) 1000 (lookup maxSidesVar) = .error error) := by
  simp only [ofVars_eq_bind, bind_eq_error_iff, reduceCtorEq, and_false, exists_false, or_false]

theorem ofVars_eq_ok_iff {settings : Settings} :
    ofVars lookup = .ok settings ↔ GivenBy lookup settings := by
  simp only [ofVars_eq_ok_iff_read, orDefault_eq_ok_iff FaceBound.read_eq_ok_iff,
    orDefault_eq_ok_iff readLimit_eq_ok_iff]
  constructor
  · rintro ⟨bound, faceBound, dice, maxDice, sides, maxSides, rfl⟩
    exact ⟨faceBound, maxDice, maxSides⟩
  · rintro ⟨faceBound, maxDice, maxSides⟩
    exact ⟨_, faceBound, _, maxDice, _, maxSides, rfl⟩

theorem ofVars_eq_error_iff {error : RollError} :
    ofVars lookup = .error error ↔ ∃ fault, RefusedBy lookup fault ∧ error = .settings fault := by
  simp only [ofVars_eq_error_iff_read, orDefault_eq_ok_iff FaceBound.read_eq_ok_iff,
    orDefault_eq_ok_iff readLimit_eq_ok_iff, orDefault_eq_error_iff, FaceBound.read_eq_error_iff,
    readLimit_eq_error_iff]
  constructor
  · rintro (⟨value, set, fault, unknown, rfl⟩ |
      ⟨bound, given, ⟨value, set, fault, none, rfl⟩ |
        ⟨dice, limited, value, set, fault, none, rfl⟩⟩)
    · exact ⟨fault, .faceBound set unknown, rfl⟩
    · exact ⟨fault, .maxDice given set none, rfl⟩
    · exact ⟨fault, .maxSides given limited set none, rfl⟩
  · rintro ⟨fault, refused, rfl⟩
    cases refused with
    | faceBound set unknown => exact .inl ⟨_, set, fault, unknown, rfl⟩
    | maxDice given set none => exact .inr ⟨_, given, .inl ⟨_, set, fault, none, rfl⟩⟩
    | maxSides given limited set none =>
      exact .inr ⟨_, given, .inr ⟨_, limited, _, set, fault, none, rfl⟩⟩

/-! ### Values that show settings -/

theorem trims_around {text : List Char} {value : String} (around : Around text value)
    (visible : ∀ c ∈ text, isBlank c = false) : Trims value.toList text := by
  obtain ⟨front, behind, whole, before, after⟩ := around
  refine ⟨?_, ?_, front, behind, whole, before, after⟩
  · intro c member
    exact visible c (List.mem_of_mem_head? member)
  · intro c member
    exact visible c (List.mem_reverse.mp (List.mem_of_mem_head? member))

theorem isBlank_of_ascii {c : Char} (low : 33 ≤ c.toNat) (high : c.toNat ≤ 126) :
    isBlank c = false := by
  -- Only ranges are compared, not every character of them.
  have disjoint : CodeRange.Disjoint [⟨33, 126⟩] blankRanges := by decide +kernel
  exact disjoint.anyContains_eq_false
    (CodeRange.anyContains_iff.mpr ⟨_, List.mem_singleton_self _, low, high⟩)

theorem toLower_of_not_upper {c : Char} (lower : ¬(65 ≤ c.toNat ∧ c.toNat ≤ 90)) :
    c.toLower = c := by
  rw [Char.toLower, dif_neg]
  exact lower

/-- A letter of a name is no blank, in either case. -/
theorem isBlank_of_toLower {c : Char} (letter : 97 ≤ c.toLower.toNat ∧ c.toLower.toNat ≤ 122) :
    isBlank c = false := by
  by_cases upper : 65 ≤ c.toNat ∧ c.toNat ≤ 90
  · exact isBlank_of_ascii (by omega) (by omega)
  · rw [toLower_of_not_upper upper] at letter
    exact isBlank_of_ascii (by omega) (by omega)

theorem Gives.positive {default limit : UInt32} {value? : Option String}
    (gives : Gives LimitedBy default value? limit) (some : 1 ≤ default.toNat) :
    1 ≤ limit.toNat := by
  cases gives with
  | unset => exact some
  | set limited =>
    obtain ⟨-, -, -, positive⟩ := limited
    exact positive

theorem limitedBy_around {limit : UInt32} (positive : 1 ≤ limit.toNat)
    (around : Around (toString limit).toList value) : LimitedBy value limit := by
  rw [toList_toString_uint32] at around
  have all : ∀ c ∈ Nat.toDigits 10 limit.toNat, c.isDigit = true := isDigit_of_mem_toDigits
  refine ⟨_, trims_around around ?_, ⟨_, .inl rfl, Nat.toDigits_ne_nil, all, ?_⟩, positive⟩
  · intro c member
    have range := isDigit_iff_toNat.mp (all c member)
    exact isBlank_of_ascii (by omega) (by omega)
  · exact digitsValue_toDigits limit.toNat

theorem namedBy_around {text : List Char} {bound : FaceBound} (around : Around text value)
    (same : text.map Char.toLower = bound.name.toList) : bound.NamedBy value := by
  refine ⟨text, trims_around around fun c member => isBlank_of_toLower ?_, same⟩
  -- Names are written in small letters, so what is lowered to one of them is a letter.
  have letters : bound.name.toList.all (fun c => 97 ≤ c.toNat ∧ c.toNat ≤ 122) = true := by
    cases bound <;> decide +kernel
  have known : c.toLower ∈ bound.name.toList := same ▸ List.mem_map_of_mem member
  exact of_decide_eq_true (List.all_eq_true.mp letters _ known)

/-- The settings or the fault of all variables; only the three that hold settings matter. Limits are
at least one, and settings with such limits are read back where they are shown. -/
theorem ofVars_decides (lookup : String → Option String) :
    (∀ other, (∀ name ∈ [faceBoundVar, maxDiceVar, maxSidesVar], other name = lookup name) →
      ofVars other = ofVars lookup) ∧
    (∀ settings, ofVars lookup = .ok settings ↔ GivenBy lookup settings) ∧
    (∀ error, ofVars lookup = .error error ↔
      ∃ fault, RefusedBy lookup fault ∧ error = .settings fault) ∧
    (∀ settings, ofVars lookup = .ok settings →
      1 ≤ settings.maxDice.toNat ∧ 1 ≤ settings.maxSides.toNat) ∧
    ∀ settings : Settings, 1 ≤ settings.maxDice.toNat → 1 ≤ settings.maxSides.toNat →
      ShownBy lookup settings → ofVars lookup = .ok settings := by
  refine ⟨fun other same => ?_, fun _ => ofVars_eq_ok_iff, fun _ => ofVars_eq_error_iff, ?_, ?_⟩
  · have bound := same faceBoundVar (by simp)
    have dice := same maxDiceVar (by simp)
    have sides := same maxSidesVar (by simp)
    simp only [ofVars, bound, dice, sides]
  · intro settings read
    obtain ⟨-, dice, sides⟩ := ofVars_eq_ok_iff.mp read
    exact ⟨dice.positive (by decide), sides.positive (by decide)⟩
  · rintro settings dice sides ⟨⟨_, _, set, around, same⟩, ⟨_, setDice, aroundDice⟩,
      ⟨_, setSides, aroundSides⟩⟩
    refine ofVars_eq_ok_iff.mpr ⟨?_, ?_, ?_⟩
    · rw [set]
      exact .set (namedBy_around around same)
    · rw [setDice]
      exact .set (limitedBy_around dice aroundDice)
    · rw [setSides]
      exact .set (limitedBy_around sides aroundSides)

/-- Blanks stand around all three settings, and the bound is shouted. -/
theorem ofVars_decides_shouted :
    let settings : Settings := ⟨.exclusive, 7, 20⟩
    let lookup : String → Option String := fun name =>
      if name = faceBoundVar then some "  EXCLUSIVE\n"
      else if name = maxDiceVar then some "7\t"
      else if name = maxSidesVar then some "\u00a020"
      else none
    ShownBy lookup settings ∧ 1 ≤ settings.maxDice.toNat ∧ 1 ≤ settings.maxSides.toNat ∧
      ofVars lookup = .ok settings := by
  intro settings lookup
  have bound : Around "EXCLUSIVE".toList "  EXCLUSIVE\n" :=
    ⟨[' ', ' '], ['\n'], by decide, List.all_eq_true.mp rfl, List.all_eq_true.mp rfl⟩
  have dice : Around (toString settings.maxDice).toList "7\t" :=
    ⟨[], ['\t'], by decide, List.all_eq_true.mp rfl, List.all_eq_true.mp rfl⟩
  have sides : Around (toString settings.maxSides).toList "\u00a020" :=
    ⟨['\u00a0'], [], by decide, List.all_eq_true.mp rfl, List.all_eq_true.mp rfl⟩
  have shown : ShownBy lookup settings :=
    ⟨⟨_, _, rfl, bound, by decide +kernel⟩, ⟨_, rfl, dice⟩, ⟨_, rfl, sides⟩⟩
  obtain ⟨-, -, -, -, reads⟩ := ofVars_decides lookup
  exact ⟨shown, by decide, by decide, reads settings (by decide) (by decide) shown⟩

end Settings
end DiceChat
