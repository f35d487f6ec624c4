/-
  CatalogIndex.Cluster.Search — finding documents.

  Searches, completions, listings, counts and walks through the lineage.  All of them are searches
  to the cluster; they differ in the body of the request and in what is made of the answer.
-/
import CatalogIndex.Cluster.Exchange
import CatalogIndex.Engine.Query
import CatalogIndex.Lineage.Traversal
import CatalogIndex.Search.Results

namespace CatalogIndex.Cluster

open Exchange

variable {σ : Type}

/-! ## §1. Searches. -/

/-- Sends a search, and reads the answer. -/
def runSearch (index : String) (body : Json) : Exchange σ SearchResponse := do
  let answer ← send "search" .post (index ++ "/_search") (some (.json body))
  ofOutcome (SearchResponse.ofJson answer)

/-- The form of an order. -/
def encodeSort (s : SortBy) : Json :=
  .object [(s.field, .object [("order", .str s.order.word)])]

/-- Which fields of the documents are wanted. -/
def sourceFields (fetchSource : Bool) (includes excludes : List String) :
    List (String × Json) :=
  if !fetchSource then [("_source", .bool false)]
  else if includes.isEmpty && excludes.isEmpty then []
  else
    [("_source",
      .object [("includes", Json.strings includes), ("excludes", Json.strings excludes)])]

/-- The body of a search. -/
def searchBody (e : Engine) (r : SearchRequest) : Json :=
  .object <|
    [("from", .nat r.start), ("size", .nat r.size), ("query", e.encodeQuery r.toQuery),
      ("sort", .arr [encodeSort r.sort]), ("track_total_hits", .bool r.trackTotalHits)]
      ++ Json.present "post_filter" (r.postFilter.map e.encodeQuery)
      ++ sourceFields r.fetchSource r.includes r.excludes

/-- Carries out a search. -/
def search (e : Engine) (r : SearchRequest) : Exchange σ SearchResponse :=
  runSearch r.index (searchBody e r)

/-- How many documents a search by one field returns at most. -/
def fieldSearchSize : Nat := 100

/-- The documents that come from an address and are not deleted. -/
def searchBySourceUrl (e : Engine) (index url : String) : Exchange σ SearchResponse :=
  let q := Query.bool [Query.textTerm "sourceUrl" url] [] [.term "deleted" (.bool true)] []
  runSearch index (.object [("size", .nat fieldSearchSize), ("query", e.encodeQuery q)])

/-- The documents with a field that matches a pattern. -/
def searchByField (e : Engine) (index field pattern : String) : Exchange σ SearchResponse :=
  runSearch index <|
    .object [("size", .nat fieldSearchSize), ("query", e.encodeQuery (.wildcard field pattern))]

/-! ## §2. Completions. -/

/-- The name of the completion in request and answer. -/
def suggestionName : String := "metadata-suggest"

/-- The body of a completion. -/
def suggestBody (r : SuggestRequest) : Json :=
  let completion := Json.object
    [("field", .str r.field), ("size", .nat r.size), ("skip_duplicates", .bool true)]
  let wanted :=
    if !r.fetchSource then [("_source", .bool false)]
    else if r.includes.isEmpty then []
    else [("_source", .object [("includes", Json.strings r.includes)])]
  .object <|
    ("suggest", .object
      [(suggestionName, .object [("prefix", .str r.query), ("completion", completion)])]) :: wanted

/-- The options of a completion. -/
def suggest (r : SuggestRequest) : Exchange σ (List SuggestOption) := do
  let answer ← send "suggest" .post (r.index ++ "/_search") (some (.json (suggestBody r)))
  let options ← ofOutcome (suggestOptions answer suggestionName)
  return match r.deleted with
    | some deleted => options.filter (·.isDeleted == deleted)
    | none => options

/-! ## §3. Listings and counts. -/

/-- The query for a text of the search box; no text, or a star, asks for everything. -/
def textQuery (query : Option String) : Query :=
  match query.map Text.trim with
  | none | some "" | some "*" => .matchAll
  | some text => .text text []

/-- A page of a listing, by the number of documents before it. -/
def listWithOffset (e : Engine) (index : String) (filter : Query) (limit offset : Nat)
    (sort : SortBy) (query : Option String) : Exchange σ ResultPage := do
  let q := Query.bool [textQuery query] [] [] [filter]
  let answer ← runSearch index <| .object
    [("from", .nat offset), ("size", .nat limit), ("query", e.encodeQuery q),
      ("sort", .arr [encodeSort sort]), ("track_total_hits", .bool true)]
  return ResultPage.ofResponse answer

/-- A page of a listing, by the last values of the page before it. -/
def listAfter (e : Engine) (index : String) (query : Option String) (filter : Option Query)
    (fields : List String) (sort : SortBy) (size : Nat) (after : Option (List Json)) :
    Exchange σ ResultPage := do
  let q := Query.bool [textQuery query] [] [] filter.toList
  let byName := encodeSort { field := "fullyQualifiedName", order := .asc }
  let wanted :=
    if fields.isEmpty then []
    else [("_source", Json.object [("includes", Json.strings fields)])]
  let answer ← runSearch index <| .object <|
    [("size", .nat size), ("query", e.encodeQuery q), ("sort", .arr [encodeSort sort, byName]),
      ("track_total_hits", .bool true)]
      ++ wanted ++ Json.present "search_after" (after.map .arr)
  return ResultPage.ofResponse answer

/-- The characters that have a meaning in a regular expression. -/
def patternMarks : List Char :=
  ['\\', '.', '+', '*', '?', '(', ')', '|', '[', ']', '{', '}', '^', '$', '#', '&', '-', '~']

/-- The regular expression for a text itself. -/
def escapePattern (s : String) : String :=
  String.ofList <| s.toList.flatMap fun c => if patternMarks.contains c then ['\\', c] else [c]

/-- How many values a count returns at most. -/
def countSize : Nat := 100

/-- How many documents have each value of a field; with a text, of the values that hold it. -/
def aggregate (e : Engine) (index field value : String) (query : Option String) :
    Exchange σ Json := do
  let wanted :=
    if value.isEmpty then [] else [("include", Json.str (".*" ++ escapePattern value ++ ".*"))]
  let terms := Json.object ([("field", .str field), ("size", .nat countSize)] ++ wanted)
  let answer ← runSearch index <| .object
    [("size", .nat 0), ("query", e.encodeQuery (textQuery query)),
      ("aggregations", .object [(field, .object [("terms", terms)])])]
  return answer.aggregations.getD (.obj [])

/-! ## §4. Lineage. -/

/-- How many documents a search of a walk returns at most. -/
def walkPageSize : Nat := 1000

/-- One search of a walk. -/
def fetchSources (e : Engine) (index : String) (q : Query) : Exchange σ (List Fields) := do
  let answer ← runSearch index
    (.object [("size", .nat walkPageSize), ("query", e.encodeQuery q)])
  return answer.sources

/-- The graph around an entity. -/
def searchLineage (e : Engine) (index : String) (r : LineageRequest) : Exchange σ LineageGraph :=
  Lineage.traverse r (fetchSources e index)

/-- The lineage of an entity towards its sources. -/
def searchDataQualityLineage (e : Engine) (index : String) (r : LineageRequest) :
    Exchange σ LineageGraph :=
  searchLineage e index { r with kind := .dataQuality, descendantDepth := 0 }

/-- The relationships of all tables of a schema. -/
def searchSchemaRelationships (e : Engine) (index : String) (r : LineageRequest) :
    Exchange σ LineageGraph :=
  Lineage.traverseSchema { r with kind := .schemaEntityRelationship } (fetchSources e index)

/-- The graph around an entity, in the flat form for exports. -/
def exportLineage (e : Engine) (index : String) (r : LineageRequest) : Exchange σ Fields := do
  return (← searchLineage e index r).toExport

end CatalogIndex.Cluster
