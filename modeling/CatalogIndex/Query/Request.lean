/-
  CatalogIndex.Query.Request — what callers ask for.

  Searches, completions, listings and walks through the lineage are requests with many settings, most
  of which have a default.
-/
import CatalogIndex.Query.Basic
import CatalogIndex.Text.Blank

namespace CatalogIndex

/-! ## §1. Order. -/

/-- A direction of sorting. -/
inductive SortOrder where
  | asc | desc
  deriving DecidableEq

namespace SortOrder

/-- The word for a direction. -/
def word : SortOrder → String
  | .asc => "asc"
  | .desc => "desc"

/-- The direction with a given word. -/
def ofWord? : String → Option SortOrder
  | "asc" => some .asc
  | "desc" => some .desc
  | _ => none

end SortOrder

/-- A field to sort by; without another wish the best hits come first. -/
structure SortBy where
  field : String := "_score"
  order : SortOrder := .desc
  deriving DecidableEq

/-- The stored form. -/
def SortBy.toJson (s : SortBy) : Json :=
  .object [("sort_field", .str s.field), ("sort_order", .str s.order.word)]

/-! ## §2. Searches. -/

/-- A search in an index or alias. -/
structure SearchRequest where
  query : String
  index : String
  start : Nat := 0
  size : Nat := 10
  queryFilter : Option Query := none
  /-- Narrows the hits, but not what is counted. -/
  postFilter : Option Query := none
  fetchSource : Bool := true
  trackTotalHits : Bool := false
  sort : SortBy := {}
  includes : List String := []
  excludes : List String := []
  /-- Only deleted documents, or only those that are not. -/
  deleted : Option Bool := none

namespace SearchRequest

/-- The query of a search: its text, its filter and the wish about deleted documents. -/
def toQuery (r : SearchRequest) : Query :=
  let must := if Text.isAllBlank r.query || r.query == "*" then .matchAll else .text r.query []
  let deleted := r.deleted.map fun deleted => Query.term "deleted" (.bool deleted)
  .bool [must] [] [] (r.queryFilter.toList ++ deleted.toList)

/-- The stored form. -/
def toJson (r : SearchRequest) : Json :=
  .object
    [("query", .str r.query), ("index", .str r.index), ("from", .nat r.start),
      ("size", .nat r.size), ("query_filter", Json.orNull (r.queryFilter.map Query.toJson)),
      ("post_filter", Json.orNull (r.postFilter.map Query.toJson)),
      ("fetch_source", .bool r.fetchSource), ("track_total_hits", .bool r.trackTotalHits),
      ("sort", r.sort.toJson), ("include_source_fields", Json.strings r.includes),
      ("exclude_source_fields", Json.strings r.excludes),
      ("deleted", Json.orNull (r.deleted.map .bool))]

end SearchRequest

/-- A completion of what was typed so far. -/
structure SuggestRequest where
  query : String
  index : String
  field : String := "suggest"
  size : Nat := 10
  fetchSource : Bool := true
  includes : List String := []
  deleted : Option Bool := none

/-- The stored form. -/
def SuggestRequest.toJson (r : SuggestRequest) : Json :=
  .object
    [("query", .str r.query), ("index", .str r.index), ("field", .str r.field),
      ("size", .nat r.size), ("fetch_source", .bool r.fetchSource),
      ("include_source_fields", Json.strings r.includes),
      ("deleted", Json.orNull (r.deleted.map .bool))]

/-! ## §3. Listings. -/

/-- Which documents of a type are listed. -/
structure ListFilter where
  includeDeleted : Option Bool := none
  /-- Fields and the texts they have to have. -/
  equals : Keyed String := []

namespace ListFilter

/-- The query of a listing.  Deleted documents are left out unless they are asked for. -/
def condition (f : ListFilter) (entityType : String) : Query :=
  let mustNot := if f.includeDeleted = some true then [] else [.term "deleted" (.bool true)]
  .bool [] [] mustNot
    (Query.textTerm "entityType" entityType
      :: f.equals.map fun (field, value) => Query.textTerm field value)

/-- The stored form. -/
def toJson (f : ListFilter) : Json :=
  .object
    [("include_deleted", Json.orNull (f.includeDeleted.map .bool)),
      ("equals", .obj (f.equals.map fun (field, value) => (field, .str value)))]

end ListFilter

/-! ## §4. Lineage. -/

/-- What the edges of a graph stand for. -/
inductive GraphKind where
  | lineage | entityRelationship
  /-- Lineage towards the sources only. -/
  | dataQuality
  /-- The relationships of all tables of a schema. -/
  | schemaEntityRelationship
  deriving DecidableEq

namespace GraphKind

/-- The field of a document that holds the edges towards it. -/
def edgeField : GraphKind → String
  | .lineage | .dataQuality => "upstreamLineage"
  | .entityRelationship | .schemaEntityRelationship => "upstreamEntityRelationship"

/-- The word for a kind. -/
def word : GraphKind → String
  | .lineage => "Lineage"
  | .entityRelationship => "EntityRelationship"
  | .dataQuality => "DataQuality"
  | .schemaEntityRelationship => "SchemaEntityRelationship"

/-- The kind with a given word. -/
def ofWord? : String → Option GraphKind
  | "Lineage" => some .lineage
  | "EntityRelationship" => some .entityRelationship
  | "DataQuality" => some .dataQuality
  | "SchemaEntityRelationship" => some .schemaEntityRelationship
  | _ => none

/-- A kind from a source. -/
def decode? {ν : Type} [Source ν] (x : ν) : Option GraphKind := (Source.bare? x).bind ofWord?

end GraphKind

/-- A walk through the graph around one entity. -/
structure LineageRequest where
  fqn : String
  /-- How many steps to walk towards the sources. -/
  ancestorDepth : Nat := 0
  /-- How many steps to walk away from them. -/
  descendantDepth : Nat := 0
  /-- A filter in the words of the engine, for every search of the walk. -/
  queryFilter : Option Json := none
  includeDeleted : Bool := false
  /-- The type of the entity that the walk starts from. -/
  entityType : Option String := none
  kind : GraphKind := .lineage

/-- The stored form. -/
def LineageRequest.toJson (r : LineageRequest) : Json :=
  .object
    [("fqn", .str r.fqn), ("upstream_depth", .nat r.ancestorDepth),
      ("downstream_depth", .nat r.descendantDepth), ("query_filter", Json.orNull r.queryFilter),
      ("include_deleted", .bool r.includeDeleted),
      ("entity_type", Json.orNull (r.entityType.map .str)), ("kind", .str r.kind.word)]

end CatalogIndex
