import HttpGauge.Json.Value
import HttpGauge.Manifest.Problem
import HttpGauge.Number.Numeral

/-!
# Fields of documents

Members of objects are found under a manifest key or a plain name, and values are read leniently:
integers and truth values may be written as texts or as other numbers, but a string is never made
from anything else.
-/

namespace HttpGauge.Manifest

open HttpGauge.Json HttpGauge.Number

/-! ## Scalars -/

/-- Read a string. -/
def readString : Value → Checked String
  | .str text => .ok text
  | _ => Checked.fail .notString

/-- Read an integer: truth values count as 0 and 1, and a double has to be whole. -/
def readInt : Value → Checked Int
  | .int n => .ok n
  | .bool truth => .ok (if truth then 1 else 0)
  | .float x =>
      if x.isFinite then
        match x.toInt? with
        | some n => .ok n
        | none => Checked.fail .fractional
      else Checked.fail .notFinite
  | .str text =>
      match manifestInt? text with
      | some n => .ok n
      | none => Checked.fail .intSyntax
  | _ => Checked.fail .notInt

/-- The texts for false. -/
def falseWords : List String := ["0", "off", "f", "false", "n", "no"]

/-- The texts for true. -/
def trueWords : List String := ["1", "on", "t", "true", "y", "yes"]

/-- The truth value that a number stands for. -/
def truthOfInt? (n : Int) : Option Bool :=
  if n = 0 then some false else if n = 1 then some true else none

/-- The truth value that a text stands for, whatever the case of its ASCII letters. -/
def truthOfText? (text : String) : Option Bool :=
  let folded := text.map Char.toLower
  if falseWords.contains folded then some false
  else if trueWords.contains folded then some true
  else none

/-- The truth value that was found, or a flaw. -/
def truthOr (flaw : Flaw) : Option Bool → Checked Bool
  | some truth => .ok truth
  | none => Checked.fail flaw

/-- Read a truth value. -/
def readBool : Value → Checked Bool
  | .bool truth => .ok truth
  | .int n => truthOr .boolSyntax (truthOfInt? n)
  | .float x => truthOr .notBool (x.toInt?.bind truthOfInt?)
  | .str text => truthOr .boolSyntax (truthOfText? text)
  | _ => Checked.fail .notBool

/-- Read an array of parts. -/
def readList {α : Type} (read : Value → Checked α) : Value → Checked (List α)
  | .arr items => Checked.items read 0 items
  | _ => Checked.fail .notList

/-- Read a part that may be null. -/
def readOptional {α : Type} (read : Value → Checked α) : Value → Checked (Option α)
  | .null => .ok none
  | value => (read value).map some

/-- Read the members of an object. -/
def readObject {α : Type} (read : Members → Checked α) : Value → Checked α
  | .obj members => read members
  | _ => Checked.fail .notObject

/-! ## Members -/

/-- The key of a field in manifests, and its plain name: the key wins where both occur. -/
structure Field where
  key : String
  /-- The name that is accepted in its place. -/
  name : String := key
  deriving DecidableEq, Repr

/-- The spelling under which a field occurs, with its value. -/
def Field.find? (field : Field) (members : Members) : Option (String × Value) :=
  match members.get? field.key with
  | some value => some (field.key, value)
  | none => (members.get? field.name).map (field.name, ·)

/-- A field that has to be there. -/
def Field.required {α : Type} (field : Field) (read : Value → Checked α) (members : Members) :
    Checked α :=
  match field.find? members with
  | some (spelling, value) => (read value).under spelling
  | none => Checked.under field.key (Checked.fail .missing)

/-- A field with a value for the case that it is not there. -/
def Field.orElse {α : Type} (field : Field) (absent : α) (read : Value → Checked α)
    (members : Members) : Checked α :=
  match field.find? members with
  | some (spelling, value) => (read value).under spelling
  | none => .ok absent

section Fields

variable {α : Type} {field : Field} {read : Value → Checked α} {members : Members} {value : Value}
  {result : α}

/-- The value under the key is the one that counts. -/
theorem Field.required_of_get? (found : members.get? field.key = some value)
    (fits : read value = .ok result) : field.required read members = .ok result := by
  simp [required, find?, found, fits, Checked.under]

theorem Field.orElse_of_get? (absent : α) (found : members.get? field.key = some value)
    (fits : read value = .ok result) : field.orElse absent read members = .ok result := by
  simp [orElse, find?, found, fits, Checked.under]

/-- A field that occurs under neither spelling has the value for that case. -/
theorem Field.orElse_of_absent (absent : α) (read : Value → Checked α)
    (missing : members.get? field.key = none) (missingToo : members.get? field.name = none) :
    field.orElse absent read members = .ok absent := by
  simp [orElse, find?, missing, missingToo]

/-- Only an object is read by its members. -/
theorem readObject_eq_ok_iff {read : Members → Checked α} :
    readObject read value = .ok result ↔
      ∃ members, value = .obj members ∧ read members = .ok result := by
  unfold readObject
  cases value <;> simp [Checked.fail]

/-- A field occurs as one of the members. -/
theorem Field.mem_of_find? {spelling : String}
    (found : field.find? members = some (spelling, value)) : (spelling, value) ∈ members := by
  have member {key : String} (held : members.get? key = some value) : (key, value) ∈ members := by
    obtain ⟨⟨other, _⟩, first, rfl⟩ := Option.map_eq_some_iff.mp held
    have same := List.find?_some first
    rw [← eq_of_beq same]
    exact List.mem_of_find?_eq_some first
  unfold find? at found
  split at found
  · rename_i held
    cases found
    exact member held
  · obtain ⟨other, held, same⟩ := Option.map_eq_some_iff.mp found
    cases same
    exact member held

/-- A field that has to be there fits when it is there and its value fits. -/
theorem Field.required_eq_ok_iff :
    field.required read members = .ok result ↔
      ∃ spelling value, field.find? members = some (spelling, value) ∧ read value = .ok result := by
  unfold required
  cases field.find? members with
  | none => simp [Checked.under_eq_ok_iff, Checked.fail]
  | some found =>
      simp only [Checked.under_eq_ok_iff, Option.some.injEq]
      constructor
      · intro fits
        exact ⟨found.1, found.2, rfl, fits⟩
      · rintro ⟨spelling, value, rfl, fits⟩
        exact fits

/-- Any other one also fits when it is not there. -/
theorem Field.orElse_eq_ok_iff {absent : α} :
    field.orElse absent read members = .ok result ↔
      (field.find? members = none ∧ absent = result) ∨
        ∃ spelling value, field.find? members = some (spelling, value) ∧
          read value = .ok result := by
  unfold orElse
  cases field.find? members with
  | none => simp
  | some found =>
      simp only [Checked.under_eq_ok_iff, Option.some.injEq]
      constructor
      · intro fits
        exact Or.inr ⟨found.1, found.2, rfl, fits⟩
      · rintro (⟨none, -⟩ | ⟨spelling, value, rfl, fits⟩)
        · cases none
        · exact fits

end Fields

end HttpGauge.Manifest
