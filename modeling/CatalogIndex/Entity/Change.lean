/-
  CatalogIndex.Entity.Change — what a mutation changed.

  A change lists the fields that were added, updated and deleted, each with its old and new value.
  The values come in two spellings: as JSON, or as a text that holds JSON.  `readValue` reads both.
-/
import CatalogIndex.Error
import CatalogIndex.Json.Printer
import CatalogIndex.Json.Source

namespace CatalogIndex

/-- Reads a value of a change: a text as the JSON it holds, anything else as it is. -/
def readValue {α : Type} (decode : ∀ {ν : Type} [Source ν], ν → Option α) (v : Json) : Outcome α :=
  let found := match v with
    | .str text => (Written.read? text).bind fun tree => decode (TextNode.root tree)
    | v => decode v
  match found with
  | some a => .ok a
  | none => .error .unexpectedShape

/-- One changed field. -/
structure FieldChange where
  name : String
  oldValue : Option Json := none
  newValue : Option Json := none
  deriving DecidableEq

namespace FieldChange

/-! ## §1. Values of a changed field. -/

/-- The old value, decoded. -/
def oldAs {α : Type} (decode : ∀ {ν : Type} [Source ν], ν → Option α) (f : FieldChange) :
    Outcome α :=
  match f.oldValue with
  | some v => readValue decode v
  | none => .error (.noOldValue f.name)

/-- The new value, decoded. -/
def newAs {α : Type} (decode : ∀ {ν : Type} [Source ν], ν → Option α) (f : FieldChange) :
    Outcome α :=
  match f.newValue with
  | some v => readValue decode v
  | none => .error (.noNewValue f.name)

/-- The old value as plain text. -/
def oldText? (f : FieldChange) : Option String := f.oldValue.map Json.plainText

/-- The new value as plain text. -/
def newText? (f : FieldChange) : Option String := f.newValue.map Json.plainText

/-- The JSON form: absent values are left out. -/
def toJson (f : FieldChange) : Json :=
  .object <|
    [("name", .str f.name)] ++ Json.present "oldValue" f.oldValue
      ++ Json.present "newValue" f.newValue

/-- A changed field from a source; `null` is no value. -/
def decode? {ν : Type} [Source ν] (x : ν) : Option FieldChange := do
  let p ← Source.parts? ["name", "oldValue", "newValue"] x
  let name ← p.required "name" Source.text?
  let oldValue ← p.optional "oldValue" Source.json?
  let newValue ← p.optional "newValue" Source.json?
  some { name, oldValue, newValue }

end FieldChange

/-- The changed fields of one mutation, and the version before it. -/
structure ChangeDescription where
  fieldsAdded : List FieldChange := []
  fieldsUpdated : List FieldChange := []
  fieldsDeleted : List FieldChange := []
  previousVersion : Double := .zero
  deriving DecidableEq

namespace ChangeDescription

/-! ## §2. Changes. -/

/-- Whether nothing changed. -/
def isEmpty (c : ChangeDescription) : Bool :=
  c.fieldsAdded.isEmpty && c.fieldsUpdated.isEmpty && c.fieldsDeleted.isEmpty

/-- All changed fields: the added ones, the updated ones, the deleted ones. -/
def all (c : ChangeDescription) : List FieldChange :=
  c.fieldsAdded ++ c.fieldsUpdated ++ c.fieldsDeleted

/-- Whether `field` changed in any way. -/
def touches (c : ChangeDescription) (field : String) : Bool := c.all.any (·.name == field)

/-- The JSON form. -/
def toJson (c : ChangeDescription) : Json :=
  .object
    [("fieldsAdded", .arr (c.fieldsAdded.map FieldChange.toJson)),
      ("fieldsUpdated", .arr (c.fieldsUpdated.map FieldChange.toJson)),
      ("fieldsDeleted", .arr (c.fieldsDeleted.map FieldChange.toJson)),
      ("previousVersion", .double c.previousVersion)]

/-- A change from a source; every part has a default. -/
def decode? {ν : Type} [Source ν] (x : ν) : Option ChangeDescription := do
  let p ← Source.parts? ["fieldsAdded", "fieldsUpdated", "fieldsDeleted", "previousVersion"] x
  let fieldsAdded ← p.defaulted "fieldsAdded" (Source.listOf? FieldChange.decode?) []
  let fieldsUpdated ← p.defaulted "fieldsUpdated" (Source.listOf? FieldChange.decode?) []
  let fieldsDeleted ← p.defaulted "fieldsDeleted" (Source.listOf? FieldChange.decode?) []
  let previousVersion ← p.defaulted "previousVersion" Source.double? .zero
  some { fieldsAdded, fieldsUpdated, fieldsDeleted, previousVersion }

end ChangeDescription

end CatalogIndex
