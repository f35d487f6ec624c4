/-
  CatalogIndex.Document.Basic — documents of the index.

  A document is what the cluster stores for one entity or record: a key and a body of fields.
-/
import CatalogIndex.Json.Basic

namespace CatalogIndex

/-- A document: the key it is stored under, and its fields. -/
structure Document where
  id : String
  fields : Fields := []
  deriving DecidableEq

namespace Document

/-- The body as a value. -/
def source (d : Document) : Json := .obj d.fields

/-- The JSON form of key and body. -/
def toJson (d : Document) : Json := .object [("id", .str d.id), ("fields", d.source)]

end Document

end CatalogIndex
