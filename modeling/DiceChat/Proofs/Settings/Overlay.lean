import DiceChat.Proofs.Json.Grammar
import DiceChat.Proofs.Json.Record
import DiceChat.Proofs.Settings.Variables

/-!
# Settings that are given in part

Settings are read from an object that names some of their fields, in any order and among members
with other names. The fields that are named are taken as they are given, the others keep their
defaults. An object is refused exactly when a name is no text, or a field is named twice or holds a
value of another kind.

## Main results

* `Settings.ofJson?_object_eq_some_iff`: what an object gives, field by field.
* `Settings.read_overlay`: the settings that a text gives, or that it gives none.
-/

namespace DiceChat

open Json

/-! ### Values -/

/-- A plain integer of 32 bits. -/
def Json.IsLimit (value : Json) : Prop :=
  ∃ digits, value = .number ⟨false, digits, [], none⟩ ∧ digitsValue digits < UInt32.size

/-- A name of a bound, alone or as the name of `null`. -/
def Json.IsBoundName (value : Json) : Prop :=
  ∃ bound : FaceBound, ∃ name : Json.Marks, name.toText? = some bound.name ∧
    (value = .string name ∨ value = .object [(name, .null)])

variable {value : Json}

theorem Json.toUnsigned?_eq_some_iff {n : UInt32} : toUnsigned? value = some n ↔
    ∃ digits, value = .number ⟨false, digits, [], none⟩ ∧ digitsValue digits = n.toNat := by
  constructor
  · intro read
    unfold toUnsigned? at read
    split at read
    next digits =>
      split at read
      next small =>
        cases read
        exact ⟨digits, rfl, (UInt32.toNat_ofNat_of_lt small).symm⟩
      next => cases read
    next => cases read
  · rintro ⟨digits, rfl, same⟩
    have small : n.toNat < UInt32.size := n.toNat_lt
    rw [toUnsigned?, same, if_pos small, UInt32.ofNat_toNat]

theorem Json.isLimit_iff : IsLimit value ↔ ∃ n, toUnsigned? value = some n := by
  simp only [IsLimit, toUnsigned?_eq_some_iff]
  constructor
  · rintro ⟨digits, rfl, small⟩
    exact ⟨UInt32.ofNat (digitsValue digits), digits, rfl, (UInt32.toNat_ofNat_of_lt small).symm⟩
  · rintro ⟨n, digits, rfl, same⟩
    exact ⟨digits, rfl, same ▸ n.toNat_lt⟩

theorem FaceBound.ofJson?_eq_some_iff {bound : FaceBound} : ofJson? value = some bound ↔
    ∃ name : Json.Marks, name.toText? = some bound.name ∧
      (value = .string name ∨ value = .object [(name, .null)]) := by
  have named {name : Json.Marks} :
      name.toText?.bind ofName? = some bound ↔ name.toText? = some bound.name := by
    simp [Option.bind_eq_some_iff, ofName?_eq_some_iff]
  constructor
  · intro read
    unfold ofJson? at read
    split at read
    next name => exact ⟨name, named.mp read, .inl rfl⟩
    next name => exact ⟨name, named.mp read, .inr rfl⟩
    next => cases read
  · rintro ⟨name, same, rfl | rfl⟩ <;> exact named.mpr same

theorem Json.isBoundName_iff : IsBoundName value ↔ ∃ bound, FaceBound.ofJson? value = some bound := by
  simp only [IsBoundName, FaceBound.ofJson?_eq_some_iff]

namespace Settings

/-! ### Fields -/

inductive Field where
  | faceBound
  | maxDice
  | maxSides
deriving DecidableEq

namespace Field

def name : Field → String
  | faceBound => "face_bound"
  | maxDice => "max_dice"
  | maxSides => "max_sides"

/-- The value of a field as it is stored. -/
def json (settings : Settings) : Field → Json
  | faceBound => settings.faceBound.toJson
  | maxDice => .ofNat settings.maxDice.toNat
  | maxSides => .ofNat settings.maxSides.toNat

/-- A value that a field can hold. -/
def Admits : Field → Json → Prop
  | faceBound => IsBoundName
  | maxDice | maxSides => IsLimit

/-- The field of the settings is what is read from a value, or from none. -/
def Reads (settings : Settings) (value : Option Json) : Field → Prop
  | faceBound => field? FaceBound.ofJson? ({} : Settings).faceBound value = some settings.faceBound
  | maxDice => field? toUnsigned? ({} : Settings).maxDice value = some settings.maxDice
  | maxSides => field? toUnsigned? ({} : Settings).maxSides value = some settings.maxSides

theorem name_inj {field other : Field} : field.name = other.name ↔ field = other := by
  cases field <;> cases other <;> decide

/-- The values that members give to a field, under its name. -/
def values (members : List (Json.Marks × Json)) (field : Field) : List Json :=
  (members.filter fun member => member.1.toText? == some field.name).map (·.2)

end Field

theorem toJson_eq (settings : Settings) : settings.toJson =
    .ofMembers ([Field.faceBound, .maxDice, .maxSides].map fun field =>
      (field.name, field.json settings)) :=
  rfl

/-- The given fields of the settings, and the defaults of the others. -/
def overlay (fields : List Field) (settings : Settings) : Settings where
  faceBound := if .faceBound ∈ fields then settings.faceBound else ({} : Settings).faceBound
  maxDice := if .maxDice ∈ fields then settings.maxDice else ({} : Settings).maxDice
  maxSides := if .maxSides ∈ fields then settings.maxSides else ({} : Settings).maxSides

/-- Members give these fields of the settings, in this order, and whatever else under names that
no field has. -/
inductive Given (settings : Settings) : List Field → List (Json.Marks × Json) → Prop where
  | nothing : Given settings [] []
  | field {field fields name members} : Json.Marks.toText? name = some (Field.name field) →
      Given settings fields members →
      Given settings (field :: fields) ((name, field.json settings) :: members)
  | other {fields name text value members} : Json.Marks.toText? name = some text →
      (∀ field : Field, field.name ≠ text) → Given settings fields members →
      Given settings fields ((name, value) :: members)

/-- A name is no text, or a field has two values, or one that it does not admit. -/
inductive Refused (members : List (Json.Marks × Json)) : Prop where
  | noText {name value} : (name, value) ∈ members → Json.Marks.toText? name = none → Refused members
  | twice {field : Field} : 2 ≤ (field.values members).length → Refused members
  | wrong {field : Field} {value} : value ∈ field.values members → ¬field.Admits value →
      Refused members

/-! ### What an object gives -/

variable {settings : Settings} {members : List (Json.Marks × Json)} {field : Field}

/-- The members of an object by the texts of their names. -/
def texts? (members : List (Json.Marks × Json)) : Option (List (String × Json)) :=
  members.mapM fun (name, value) => name.toText?.map (·, value)

theorem texts?_cons (name : Json.Marks) (value : Json) (members : List (Json.Marks × Json)) :
    texts? ((name, value) :: members) =
      name.toText?.bind fun text => (texts? members).map ((text, value) :: ·) := by
  cases named : name.toText? <;> simp [texts?, named, Option.map_eq_bind]

theorem exists_texts_iff :
    (∃ named, texts? members = some named) ↔ ∀ member ∈ members, member.1.toText? ≠ none := by
  induction members with
  | nil => simp [texts?]
  | cons member members ih =>
    obtain ⟨name, value⟩ := member
    rw [List.forall_mem_cons, ← ih, texts?_cons]
    cases name.toText? <;> simp [Option.map_eq_some_iff]

theorem values_of_texts {named : List (String × Json)} (texts : texts? members = some named) :
    (named.filter fun member => member.1 == field.name).map (·.2) = field.values members := by
  induction members generalizing named with
  | nil =>
    cases texts
    rfl
  | cons member members ih =>
    obtain ⟨name, value⟩ := member
    rw [texts?_cons] at texts
    obtain ⟨text, spelled, texts⟩ := Option.bind_eq_some_iff.mp texts
    obtain ⟨named, later, rfl⟩ := Option.map_eq_some_iff.mp texts
    have same := ih later
    simp only [Field.values] at same ⊢
    by_cases here : text = field.name <;> simp [spelled, here, same]

theorem member?_eq_some_iff {named : List (String × Json)} {name : String} {found : Option Json} :
    member? named name = some found ↔
      (named.filter fun member => member.1 == name).map (·.2) = found.toList := by
  rw [member?]
  rcases named.filter _ with _ | ⟨first, _ | ⟨second, others⟩⟩ <;> cases found <;> simp

theorem fields_eq_some_iff {named : List (String × Json)} {bound dice sides : Option Json} :
    fieldNames.mapM (member? named) = some [bound, dice, sides] ↔
      member? named Field.faceBound.name = some bound ∧
        member? named Field.maxDice.name = some dice ∧
        member? named Field.maxSides.name = some sides := by
  simp [fieldNames, Field.name, Option.bind_eq_some_iff]

theorem ofJson?_eq_some_iff {json : Json} : ofJson? json = some settings ↔
    ∃ bound dice sides, record? fieldNames json = some [bound, dice, sides] ∧
      Field.faceBound.Reads settings bound ∧ Field.maxDice.Reads settings dice ∧
      Field.maxSides.Reads settings sides := by
  obtain ⟨faceBound, maxDice, maxSides⟩ := settings
  rw [ofJson?]
  constructor
  · intro read
    obtain ⟨fields, found, read⟩ := Option.bind_eq_some_iff.mp read
    -- There are as many values as names, so the other case reads nothing.
    split at read
    next bound dice sides =>
      obtain ⟨_, first, read⟩ := Option.bind_eq_some_iff.mp read
      obtain ⟨_, second, read⟩ := Option.bind_eq_some_iff.mp read
      obtain ⟨_, third, read⟩ := Option.bind_eq_some_iff.mp read
      cases read
      exact ⟨bound, dice, sides, found, first, second, third⟩
    next => cases read
  · rintro ⟨bound, dice, sides, found, first, second, third⟩
    simp only [Field.Reads] at first second third
    simp [found, first, second, third]

/-- Every name is a text, and every field is read from its only value or from none. -/
theorem ofJson?_object_eq_some_iff : ofJson? (.object members) = some settings ↔
    (∀ member ∈ members, member.1.toText? ≠ none) ∧
      ∀ field : Field, ∃ found, field.values members = found.toList ∧
        field.Reads settings found := by
  have record : record? fieldNames (.object members) =
      (texts? members).bind fun named => fieldNames.mapM (member? named) := rfl
  rw [ofJson?_eq_some_iff, record, ← exists_texts_iff]
  constructor
  · rintro ⟨bound, dice, sides, found, first, second, third⟩
    obtain ⟨named, texts, found⟩ := Option.bind_eq_some_iff.mp found
    simp only [fields_eq_some_iff, member?_eq_some_iff, values_of_texts texts] at found
    obtain ⟨bounds, counts, sizes⟩ := found
    refine ⟨⟨named, texts⟩, fun field => ?_⟩
    cases field with
    | faceBound => exact ⟨bound, bounds, first⟩
    | maxDice => exact ⟨dice, counts, second⟩
    | maxSides => exact ⟨sides, sizes, third⟩
  · rintro ⟨⟨named, texts⟩, fields⟩
    obtain ⟨bound, bounds, first⟩ := fields .faceBound
    obtain ⟨dice, counts, second⟩ := fields .maxDice
    obtain ⟨sides, sizes, third⟩ := fields .maxSides
    refine ⟨bound, dice, sides, ?_, first, second, third⟩
    rw [texts, Option.bind_some, fields_eq_some_iff]
    simp only [member?_eq_some_iff, values_of_texts texts]
    exact ⟨bounds, counts, sizes⟩

/-! ### What a field admits -/

theorem Field.admits_iff : field.Admits value ↔ ∃ settings, field.Reads settings (some value) := by
  cases field with
  | faceBound =>
    exact isBoundName_iff.trans ⟨fun ⟨bound, read⟩ => ⟨{ faceBound := bound }, read⟩,
      fun ⟨settings, read⟩ => ⟨settings.faceBound, read⟩⟩
  | maxDice =>
    exact isLimit_iff.trans ⟨fun ⟨limit, read⟩ => ⟨{ maxDice := limit }, read⟩,
      fun ⟨settings, read⟩ => ⟨settings.maxDice, read⟩⟩
  | maxSides =>
    exact isLimit_iff.trans ⟨fun ⟨limit, read⟩ => ⟨{ maxSides := limit }, read⟩,
      fun ⟨settings, read⟩ => ⟨settings.maxSides, read⟩⟩

/-- A field that is missing is read as its default. -/
theorem Field.reads_default (field : Field) : field.Reads {} none := by
  cases field <;> rfl

/-- What is stored of a field is read back. -/
theorem Field.reads_json (settings : Settings) (field : Field) :
    field.Reads settings (some (field.json settings)) := by
  cases field with
  | faceBound =>
    exact FaceBound.ofJson?_eq_some_iff.mpr ⟨_, toText?_chars settings.faceBound.name, .inl rfl⟩
  | maxDice => exact toUnsigned?_ofNat settings.maxDice
  | maxSides => exact toUnsigned?_ofNat settings.maxSides

/-! ### Overlays and refusals -/

theorem Given.texts {fields : List Field} (given : Given settings fields members) :
    ∀ member ∈ members, member.1.toText? ≠ none := by
  induction given with
  | nothing => simp
  | field spelled _ ih | other spelled _ _ ih => simpa [spelled] using ih

/-- Each field has the values that are given for it, and no others. -/
theorem Given.values {fields : List Field} (given : Given settings fields members)
    (field : Field) : field.values members =
      List.replicate (fields.count field) (field.json settings) := by
  induction given with
  | nothing => rfl
  | @field here fields name members spelled _ ih =>
    -- The names of fields differ, so a member counts for its own field only.
    simp only [Field.values] at ih ⊢
    by_cases same : here = field
    · simp [spelled, same, ih, List.replicate_succ]
    · simp [spelled, same, Field.name_inj, ih]
  | other spelled foreign _ ih =>
    simp only [Field.values] at ih ⊢
    simp [spelled, (foreign field).symm, ih]

/-- Of an overlay, a field is read from its value if it is given, and from none if it is not. -/
theorem Field.reads_overlay (settings : Settings) (fields : List Field) (field : Field) :
    field.Reads (settings.overlay fields)
      (if field ∈ fields then some (field.json settings) else none) := by
  by_cases here : field ∈ fields
  · have read := reads_json settings field
    cases field <;> simpa [Reads, overlay, here] using read
  · have read := reads_default field
    cases field <;> simpa [Reads, overlay, here] using read

theorem ofJson?_of_given {fields : List Field} (distinct : fields.Nodup)
    (given : Given settings fields members) :
    ofJson? (.object members) = some (settings.overlay fields) := by
  refine ofJson?_object_eq_some_iff.mpr
    ⟨given.texts, fun field => ⟨_, ?_, field.reads_overlay settings fields⟩⟩
  rw [given.values, distinct.count]
  split <;> rfl

/-- Settings that are stored whole are read back. -/
theorem ofJson?_toJson (settings : Settings) : ofJson? settings.toJson = some settings := by
  have given : Given settings [.faceBound, .maxDice, .maxSides] _ :=
    .field (toText?_chars _) (.field (toText?_chars _) (.field (toText?_chars _) .nothing))
  rw [toJson_eq]
  exact ofJson?_of_given (by decide) given

/-- A field that is not refused is read on its own. -/
theorem exists_reads (allowed : ¬Refused members) (field : Field) :
    ∃ found settings, field.values members = found.toList ∧ field.Reads settings found := by
  rcases values : field.values members with _ | ⟨value, _ | ⟨second, others⟩⟩
  · exact ⟨none, {}, rfl, field.reads_default⟩
  · have member : value ∈ field.values members := by simp [values]
    have admitted : field.Admits value :=
      by_contra fun foreign => allowed (.wrong member foreign)
    obtain ⟨settings, reads⟩ := field.admits_iff.mp admitted
    exact ⟨some value, settings, rfl, reads⟩
  · have many : 2 ≤ (field.values members).length := by simp [values]
    exact absurd (.twice many) allowed

/-- What is not refused is read. -/
theorem exists_settings (allowed : ¬Refused members) :
    ∃ settings, ofJson? (.object members) = some settings := by
  obtain ⟨bound, first, bounds, faceBound⟩ := exists_reads allowed .faceBound
  obtain ⟨dice, second, counts, maxDice⟩ := exists_reads allowed .maxDice
  obtain ⟨sides, third, sizes, maxSides⟩ := exists_reads allowed .maxSides
  -- No field is read with regard to another, so the three can be put together.
  refine ⟨⟨first.faceBound, second.maxDice, third.maxSides⟩, ofJson?_object_eq_some_iff.mpr
    ⟨fun member here noText => allowed (.noText here noText), fun field => ?_⟩⟩
  cases field with
  | faceBound => exact ⟨bound, bounds, faceBound⟩
  | maxDice => exact ⟨dice, counts, maxDice⟩
  | maxSides => exact ⟨sides, sizes, maxSides⟩

theorem not_ofJson?_of_refused (refused : Refused members) (settings : Settings) :
    ofJson? (.object members) ≠ some settings := by
  intro read
  obtain ⟨texts, fields⟩ := ofJson?_object_eq_some_iff.mp read
  cases refused with
  | noText member noText => exact texts _ member noText
  | @twice field many =>
    -- An optional value is at most one.
    obtain ⟨found, values, -⟩ := fields field
    rw [values] at many
    cases found <;> simp at many
  | @wrong field value member foreign =>
    obtain ⟨found, values, reads⟩ := fields field
    have same : found = some value := by simpa [values] using member
    exact foreign (field.admits_iff.mpr ⟨settings, same ▸ reads⟩)

theorem ofJson?_object_eq_none_iff : ofJson? (.object members) = none ↔ Refused members := by
  constructor
  · intro none
    by_contra allowed
    obtain ⟨settings, read⟩ := exists_settings allowed
    rw [none] at read
    cases read
  · intro refused
    exact Option.eq_none_iff_forall_ne_some.mpr (not_ofJson?_of_refused refused)

/-- A text that writes an object gives the defaults with the named fields replaced, whichever fields
they are, in any order and among any other members. It gives nothing exactly when it is refused. -/
theorem read_overlay {text : String} (written : Written text (.object members)) :
    (∀ settings fields, fields.Nodup → Given settings fields members →
      (Json.read? text).bind ofJson? = some (settings.overlay fields)) ∧
      ((Json.read? text).bind ofJson? = none ↔ Refused members) := by
  rw [read?_of_written written, Option.bind_some]
  exact ⟨fun settings fields distinct given => ofJson?_of_given distinct given,
    ofJson?_object_eq_none_iff⟩

/-- A limit that is given twice is refused, even where it is the same. -/
example : (Json.read? "\x7b\"max_dice\":7,\"max_dice\":7\x7d").bind ofJson? = none := by
  decide +kernel

/-- One field, something else that holds half of a surrogate pair, and another field. -/
def remark : List (Json.Marks × Json) :=
  [("max_dice".toList.map .char, .ofNat 7),
   ("remark".toList.map .char, .array [.string [.half 0xD800]]),
   ("face_bound".toList.map .char, .ofText "exclusive")]

def remarkText : String :=
  "\x7b\"max_dice\":7,\"remark\":[\"\\ud800\"],\"face_bound\":\"exclusive\"\x7d"

theorem written_remark : Written remarkText (.object remark) := by
  have seven : WritesNumber _ ⟨false, ['7'], [], none⟩ :=
    .number (by simp [Digits]) (by simp) .none .none
  have half : unit? 'd' '8' '0' '0' = some 0xD800 := by decide
  have members : WritesMembers _ remark :=
    .more (writesName_chars (by decide)) (.number seven) blanks_nil
      (.more (writesName_chars (by decide))
        (.array (.one blanks_nil (.string (.unit half .done)) blanks_nil)) blanks_nil
        (.one (writesName_chars (by decide)) (.string (writesMarks_chars (by decide))) blanks_nil))
  exact ⟨[], _, [], by decide +kernel, blanks_nil, .object members, blanks_nil⟩

theorem given_remark : Given ⟨.exclusive, 7, 5⟩ [.maxDice, .faceBound] remark := by
  have foreign (field : Field) : field.name ≠ "remark" := by cases field <;> decide
  exact .field (toText?_chars _)
    (.other (toText?_chars "remark") foreign (.field (toText?_chars _) .nothing))

/-- The two fields are read, and the third has its default. -/
theorem read_overlay_remark :
    Written remarkText (.object remark) ∧ Given ⟨.exclusive, 7, 5⟩ [.maxDice, .faceBound] remark ∧
      (Json.read? remarkText).bind ofJson? = some ⟨.exclusive, 7, 1000⟩ ∧ ¬Refused remark := by
  have read : (Json.read? remarkText).bind ofJson? = some ⟨.exclusive, 7, 1000⟩ :=
    (read_overlay written_remark).1 _ _ (by decide) given_remark
  refine ⟨written_remark, given_remark, read, fun refused => ?_⟩
  rw [(read_overlay written_remark).2.mpr refused] at read
  cases read

end Settings
end DiceChat
