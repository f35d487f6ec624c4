/-
  CatalogIndex.Entity.Reference — pointers to entities.

  An entity embeds pointers to others: its owners, its domain, its parent.  A pointer carries the
  identifier and type and, as far as they are known, names and flags; `inherited` marks a copy that a
  document took over from its parent.
-/
import CatalogIndex.Uuid

namespace CatalogIndex

/-- A pointer to an entity. -/
structure EntityReference where
  id : Uuid
  entityType : String
  name : Option String := none
  fullyQualifiedName : Option String := none
  displayName : Option String := none
  description : Option String := none
  deleted : Option Bool := none
  inherited : Option Bool := none
  deriving DecidableEq

namespace EntityReference

/-- The pointer marked as a copy taken over from a parent. -/
def asInherited (r : EntityReference) : EntityReference := { r with inherited := some true }

/-- The JSON form: unknown parts are left out. -/
def toJson (r : EntityReference) : Json :=
  .object <|
    [("id", r.id.toJson), ("type", .str r.entityType)]
      ++ Json.present "name" (r.name.map .str)
      ++ Json.present "fullyQualifiedName" (r.fullyQualifiedName.map .str)
      ++ Json.present "displayName" (r.displayName.map .str)
      ++ Json.present "description" (r.description.map .str)
      ++ Json.present "deleted" (r.deleted.map .bool)
      ++ Json.present "inherited" (r.inherited.map .bool)

/-- The fields in the order of their declaration. -/
def fieldNames : List String :=
  ["id", "type", "name", "fullyQualifiedName", "displayName", "description", "deleted", "inherited"]

/-- A pointer from a source. -/
def decode? {ν : Type} [Source ν] (x : ν) : Option EntityReference := do
  let p ← Source.parts? fieldNames x
  let id ← p.required "id" Uuid.decode?
  let entityType ← p.required "type" Source.text?
  let name ← p.optional "name" Source.text?
  let fullyQualifiedName ← p.optional "fullyQualifiedName" Source.text?
  let displayName ← p.optional "displayName" Source.text?
  let description ← p.optional "description" Source.text?
  let deleted ← p.optional "deleted" Source.bool?
  let inherited ← p.optional "inherited" Source.bool?
  some { id, entityType, name, fullyQualifiedName, displayName, description, deleted, inherited }

end EntityReference

end CatalogIndex
