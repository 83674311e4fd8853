import DiceChat.Proofs.Directive.Format
import DiceChat.Proofs.Json.Record

/-!
# Where valid dice come from

Dice that are made from numbers or found in a message are valid, and all valid dice can be made.
Dice that are read from storage are whatever numbers stand there: nothing is asked of them.

## Main results

* `Dice.made_iff_valid`: what can be made is what is valid.
* `Dice.ofJson?_toJson`: all dice survive being stored, valid or not.
-/

namespace DiceChat
namespace Dice

/-- The ways to dice that ask for them to be valid. -/
inductive Made : Dice → Prop where
  /-- From a number of sides. Of several counts the last one holds; without any, it is one die. -/
  | built {dice : Dice} (sides : UInt32) (counts : List UInt32) :
      (counts.foldl DiceDraft.withCount { sides := sides }).build = .ok dice → Made dice
  | found {text : String} {directive : Directive} : Directive.find text = .ok (some directive) →
      Made directive.dice

/-- The ways to dice from storage. -/
inductive Restored : Dice → Prop where
  | alone {json : Json} {dice : Dice} : ofJson? json = some dice → Restored dice
  | inResponse {json : Json} {r : Response} : Response.ofJson? json = some r → Restored r.dice

/-! ### Making -/

theorem build_eq_ok_iff {draft : DiceDraft} {dice : Dice} :
    draft.build = .ok dice ↔ dice = ⟨draft.sides, draft.count⟩ ∧ dice.Valid := by
  have size : UInt32.size = 2 ^ 32 := rfl
  rw [show draft = ⟨draft.sides, draft.count⟩ from rfl, Directive.build_eq]
  constructor
  · intro built
    split at built
    · cases built
    next filled =>
      split at built
      next small =>
        cases built
        refine ⟨rfl, ?_, ?_, small⟩
        · dsimp only
          omega
        · dsimp only
          omega
      · cases built
  · rintro ⟨rfl, count, sides, small⟩
    dsimp only at count sides small
    rw [if_neg (by omega), if_pos (size ▸ small)]

theorem made_iff_valid {dice : Dice} : dice.Made ↔ dice.Valid := by
  constructor
  · intro made
    cases made with
    | built sides counts built => exact (build_eq_ok_iff.mp built).2
    | found found => exact Directive.valid_of_find found
  · intro valid
    exact .built dice.sides [dice.count] (build_eq_ok_iff.mpr ⟨rfl, valid⟩)

/-! ### Storage -/

theorem ofJson?_toJson (dice : Dice) : ofJson? dice.toJson = some dice := by
  have fields : Json.record? fieldNames dice.toJson =
      some [some (.ofNat dice.sides.toNat), some (.ofNat dice.count.toNat)] :=
    Json.record?_ofMembers _ _
  simp only [ofJson?, fields, Json.toUnsigned?_ofNat, Option.bind_eq_bind, Option.bind_some]
  rfl

/-- A response with these dice and nothing else in it. -/
def bareResponse (dice : Dice) : Json :=
  .ofMembers
    [("actor", .ofText ""), ("roll", dice.toJson), ("rolls", .array []), ("modifier", .ofText ""),
     ("label", .ofText ""), ("total", .ofNat 0)]

theorem exists_response (dice : Dice) :
    ∃ r, Response.ofJson? dice.bareResponse = some r ∧ r.dice = dice := by
  have fields : Json.record? Response.fieldNames dice.bareResponse =
      some [some (.ofText ""), some dice.toJson, some (.array []), some (.ofText ""),
        some (.ofText ""), some (.ofNat 0)] :=
    Json.record?_ofMembers _ _
  have total : Json.toFloat? (.ofNat 0) = some 0 := by decide +kernel
  have throw : Throw.ofJson? (.array []) = some ⟨[]⟩ := rfl
  simp only [Response.ofJson?, fields, ofJson?_toJson, Json.toText?_ofText, total, throw,
    Option.bind_eq_bind, Option.bind_some]
  exact ⟨_, rfl, rfl⟩

theorem restored (dice : Dice) : dice.Restored :=
  .alone (ofJson?_toJson dice)

/-- Dice can be made exactly when they are valid. From storage there are dice with any two numbers,
on their own and in responses. -/
theorem checked_unless_restored (dice : Dice) :
    (dice.Made ↔ dice.Valid) ∧ ofJson? dice.toJson = some dice ∧ dice.Restored ∧
      ∃ json r, Response.ofJson? json = some r ∧ r.dice = dice :=
  ⟨made_iff_valid, ofJson?_toJson dice, restored dice, _, exists_response dice⟩

/-- A die without sides, which could not be made. -/
theorem restored_without_sides :
    (Json.read? "\x7b\"sides\":0,\"count\":1\x7d").bind ofJson? = some ⟨0, 1⟩ ∧
      Restored ⟨0, 1⟩ ∧ ¬Valid ⟨0, 1⟩ ∧ ¬Made ⟨0, 1⟩ := by
  have sideless : ¬Valid ⟨0, 1⟩ := by decide
  have read : (Json.read? "\x7b\"sides\":0,\"count\":1\x7d").bind ofJson? = some ⟨0, 1⟩ := by
    decide +kernel
  obtain ⟨json, -, stored⟩ := Option.bind_eq_some_iff.mp read
  exact ⟨read, .alone stored, sideless, fun made => sideless (made_iff_valid.mp made)⟩

end Dice
end DiceChat
