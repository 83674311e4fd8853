import DiceChat.Json.Stored
import DiceChat.Proofs.Text.Digits

/-!
# Reading back what is stored

Texts and unsigned numbers are read back as they were written, and of an object that was written
member by member every field is read back by its name.

## Main results

* `Json.toText?_ofText`, `Json.toUnsigned?_ofNat`: texts and unsigned numbers.
* `Json.record?_ofMembers`: objects.
-/

namespace DiceChat
namespace Json

theorem toChars?_chars (text : List Char) : Marks.toChars? (text.map .char) = some text := by
  induction text with
  | nil => rfl
  | cons c text ih => rw [List.map_cons, Marks.toChars?, ih, Option.map_some]

theorem toText?_chars (text : String) : Marks.toText? (text.toList.map .char) = some text := by
  rw [Marks.toText?, toChars?_chars, Option.map_some, String.ofList_toList]

theorem toText?_ofText (text : String) : toText? (.ofText text) = some text :=
  toText?_chars text

theorem toUnsigned?_ofNat (n : UInt32) : toUnsigned? (.ofNat n.toNat) = some n := by
  have small : n.toNat < UInt32.size := n.toNat_lt
  rw [ofNat, toUnsigned?, digitsValue_toDigits, if_pos small, UInt32.ofNat_toNat]

theorem mapM_names (members : List (String × Json)) :
    (members.map fun (name, value) => (name.toList.map Mark.char, value)).mapM
      (fun (name, value) => (Marks.toText? name).map (·, value)) = some members := by
  induction members with
  | nil => rfl
  | cons member members ih =>
    obtain ⟨name, value⟩ := member
    rw [List.map_cons, List.mapM_cons, ih]
    simp only [toText?_chars]
    rfl

theorem record?_ofMembers (names : List String) (members : List (String × Json)) :
    record? names (.ofMembers members) = names.mapM (member? members) := by
  rw [ofMembers, record?, mapM_names]
  rfl

end Json
end DiceChat
