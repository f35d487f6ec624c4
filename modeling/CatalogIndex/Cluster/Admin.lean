/-
  CatalogIndex.Cluster.Admin — making and removing indexes.
-/
import CatalogIndex.Cluster.Exchange
import CatalogIndex.Json.Written

namespace CatalogIndex.Cluster

open Exchange

variable {σ : Type}

/-- Whether there is an index of that name; any status but the two that say so is an error. -/
def indexExists (index : String) : Exchange σ Bool := do
  let response ← perform { method := .head, path := index }
  if response.status = 200 then return true
  else if response.status = 404 then return false
  else ofOutcome (.error (.existenceUnknown index response.status))

/-- The value of a schema. -/
def schemaValue (schema : String) : Outcome Json :=
  match Json.parse? schema with
  | some v => .ok v
  | none => .error .malformedJson

/-- Makes an index with a schema. -/
def createIndex (index schema : String) : Exchange σ Unit := do
  let body ← ofOutcome (schemaValue schema)
  let _ ← send "create index" .put index (some (.json body))

/-- Brings the fields of an index up to date with a schema. -/
def updateIndex (index schema : String) : Exchange σ Unit := do
  let body ← ofOutcome (schemaValue schema)
  let fields := (body.field? "mappings").getD body
  let _ ← send "update index mapping" .put (index ++ "/_mapping") (some (.json fields))

/-- Removes an index; one that is not there counts as removed. -/
def deleteIndex (index : String) : Exchange σ Unit := do
  let response ← perform { method := .delete, path := index }
  if response.isNotFound then return
  let _ ← ofOutcome (response.accepted "delete index")

/-- The action that lets an index belong to an alias. -/
def addAlias (index name : String) : Json :=
  .object [("add", .object [("index", .str index), ("alias", .str name)])]

/-- Lets an index belong to aliases. -/
def createAliases (index : String) (aliases : List String) : Exchange σ Unit := do
  if aliases.isEmpty then return
  let actions := Json.arr (aliases.map (addAlias index))
  let _ ← send "create aliases" .post "_aliases" (some (.json (.object [("actions", actions)])))

end CatalogIndex.Cluster
