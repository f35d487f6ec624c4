/-
  CatalogIndex.Indexer.Reads — searching the indexes of a deployment.

  A caller names indexes without the alias of the deployment; here they get it.  Unlike writes, a
  search reports its failure.
-/
import CatalogIndex.Cluster.Documents
import CatalogIndex.Cluster.Search
import CatalogIndex.Indexer.Basic

namespace CatalogIndex.Attempt

variable {σ : Type}

/-! ## §1. Documents. -/

/-- The fields of the document of an entity, if it is there. -/
def getDocument (entityType : String) (id : Uuid) : Attempt σ (Option Fields) := do
  let index ← indexOf entityType
  exchange fun _ => Cluster.documentById index id.toText

/-- A page of the entities of a type, by the number of entities before it. -/
def listWithOffset (filter : ListFilter) (limit offset : Nat) (entityType : String)
    (sort : SortBy) (query : Option String) : Attempt σ ResultPage := do
  let index ← indexOf entityType
  exchange fun engine =>
    Cluster.listWithOffset engine index (filter.condition entityType) limit offset sort query

/-- A page of the entities of a type, by the last values of the page before it. -/
def listAfter (entityType : String) (query : Option String) (filter : Option Query)
    (fields : List String) (sort : SortBy) (size : Nat) (after : Option (List Json)) :
    Attempt σ ResultPage := do
  let index ← indexOf entityType
  exchange fun engine => Cluster.listAfter engine index query filter fields sort size after

/-! ## §2. Searches. -/

/-- Names of indexes, as the cluster knows them. -/
def resolved (names : String) : Attempt σ String :=
  return (← read).registry.resolve names

/-- The alias of all documents of the deployment. -/
def everywhere : Attempt σ String :=
  return (← read).registry.globalAlias

/-- Carries out a search. -/
def search (r : SearchRequest) : Attempt σ SearchResponse := do
  let index ← resolved r.index
  exchange fun engine => Cluster.search engine { r with index }

/-- Carries out a completion. -/
def suggest (r : SuggestRequest) : Attempt σ (List SuggestOption) := do
  let index ← resolved r.index
  exchange fun _ => Cluster.suggest { r with index }

/-- The documents with a field that matches a pattern. -/
def searchByField (field pattern names : String) : Attempt σ SearchResponse := do
  let index ← resolved names
  exchange fun engine => Cluster.searchByField engine index field pattern

/-- The documents that come from an address and are not deleted. -/
def searchBySourceUrl (url : String) : Attempt σ SearchResponse := do
  let index ← everywhere
  exchange fun engine => Cluster.searchBySourceUrl engine index url

/-- How many documents have each value of a field. -/
def aggregate (names field value : String) (query : Option String) : Attempt σ Json := do
  let index ← resolved names
  exchange fun engine => Cluster.aggregate engine index field value query

/-! ## §3. Lineage. -/

/-- The graph around an entity. -/
def searchLineage (r : LineageRequest) : Attempt σ LineageGraph := do
  let index ← everywhere
  exchange fun engine => Cluster.searchLineage engine index r

/-- The relationships of an entity. -/
def searchRelationships (r : LineageRequest) : Attempt σ LineageGraph :=
  searchLineage { r with kind := .entityRelationship }

/-- The lineage of an entity towards its sources, for the quality of the data. -/
def searchDataQualityLineage (fqn : String) (ancestorDepth : Nat) (queryFilter : Option Json)
    (includeDeleted : Bool) : Attempt σ LineageGraph := do
  let index ← everywhere
  let r : LineageRequest :=
    { fqn, ancestorDepth, descendantDepth := 0, kind := .dataQuality, queryFilter, includeDeleted }
  exchange fun engine => Cluster.searchDataQualityLineage engine index r

/-- The relationships of all tables of a schema. -/
def searchSchemaRelationships (r : LineageRequest) : Attempt σ LineageGraph := do
  let index ← everywhere
  exchange fun engine =>
    Cluster.searchSchemaRelationships engine index { r with kind := .schemaEntityRelationship }

/-- The graph around an entity, in the flat form for exports. -/
def exportLineage (r : LineageRequest) : Attempt σ Fields := do
  let index ← everywhere
  exchange fun engine => Cluster.exportLineage engine index r

end CatalogIndex.Attempt

/-! ## §4. Entities below a name. -/

namespace CatalogIndex

/-- The search for the entities below a name. -/
def belowRequest (fqn : String) (size : Nat) (index : String) : SearchRequest :=
  { query := "*", index, size, deleted := some false, trackTotalHits := false
    queryFilter := some (.bool [.wildcard "fullyQualifiedName" (fqn ++ ".*")] [] [] []) }

/-- The entity that a hit is about: its id, its type and its fully qualified name have to be there. -/
def SearchHit.reference? (h : SearchHit) : Option EntityReference := do
  let idText ← h.text? "id"
  let fqn ← h.text? "fullyQualifiedName"
  let entityType ← h.text? "entityType"
  if fqn.isEmpty || entityType.isEmpty then none
  else
    let id ← Uuid.ofText? idText
    some { id, entityType, fullyQualifiedName := some fqn }

/-- Adds a pointer to pointers in ascending order of their ids, unless the id is there. -/
def EntityReference.addNew (r : EntityReference) : List EntityReference → List EntityReference
  | [] => [r]
  | s :: rest =>
    if r.id = s.id then s :: rest
    else if r.id.before s.id then r :: s :: rest
    else s :: addNew r rest

/-- The entities that the hits are about, each once, by the first hit that tells. -/
def SearchResponse.references (r : SearchResponse) : List EntityReference :=
  (r.hits.filterMap SearchHit.reference?).foldl (fun found ref => ref.addNew found) []

/-- The entities below a name; none if the search fails. -/
def Indexing.entitiesBelow {σ : Type} (fqn : String) (size : Nat) (index : String) :
    Indexing σ (List EntityReference) := do
  match ← ExceptT.run (Attempt.search (belowRequest fqn size index)) with
  | .ok response => return response.references
  | .error _ => return []

end CatalogIndex
