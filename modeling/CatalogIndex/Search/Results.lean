/-
  CatalogIndex.Search.Results — what comes back from a search.

  The answer of a cluster is a free-form value.  Only the section with the hits has to be there:
  every other part that is missing, or of another shape, counts as empty.
-/
import CatalogIndex.Error
import CatalogIndex.Json.Basic

namespace CatalogIndex

/-! ## §1. Reading parts of an answer. -/

namespace Json

/-- The text at a path, or the empty text. -/
def textAt (v : Json) (key : String) : String := ((v.field? key).bind asStr?).getD ""

/-- The fields of the object at a key, or no fields. -/
def fieldsAt (v : Json) (key : String) : Fields := ((v.field? key).bind asObj?).getD []

/-- The number at a key. -/
def doubleAt? (v : Json) (key : String) : Option Double := (v.field? key).bind asDouble?

/-- The list at a key, or no elements. -/
def itemsAt (v : Json) (key : String) : List Json := ((v.field? key).bind asArr?).getD []

end Json

/-! ## §2. Searches. -/

/-- One document that was found. -/
structure SearchHit where
  id : String
  index : String
  score : Option Double
  source : Fields
  /-- The values that the hit was sorted by. -/
  sort : List Json

namespace SearchHit

/-- A hit of an answer. -/
def ofJson (v : Json) : SearchHit :=
  { id := v.textAt "_id", index := v.textAt "_index", score := v.doubleAt? "_score"
    source := v.fieldsAt "_source", sort := v.itemsAt "sort" }

/-- The text in a field of the document. -/
def text? (h : SearchHit) (field : String) : Option String :=
  (Keyed.get? h.source field).bind Json.asStr?

/-- The JSON form. -/
def toJson (h : SearchHit) : Json :=
  .object
    [("id", .str h.id), ("index", .str h.index), ("score", Json.orNull (h.score.map .double)),
      ("source", .obj h.source), ("sort", .arr h.sort)]

end SearchHit

/-- The answer to a search. -/
structure SearchResponse where
  hits : List SearchHit
  totalHits : Nat
  maxScore : Option Double
  tookMs : Nat
  aggregations : Option Json

namespace SearchResponse

/-- How many documents there are in all: a number, or an object with the number in it. -/
def total (v : Option Json) : Nat :=
  match v with
  | some (.num n) => (Json.num n).asNat?.getD 0
  | some (.obj fields) => ((Keyed.get? fields "value").bind Json.asNat?).getD 0
  | _ => 0

/-- Reads the answer of a cluster. -/
def ofJson (body : Json) : Outcome SearchResponse :=
  match body.field? "hits" with
  | none => .error .noHits
  | some found =>
    .ok
      { hits := (found.itemsAt "hits").map SearchHit.ofJson
        totalHits := total (found.field? "total")
        maxScore := found.doubleAt? "max_score"
        tookMs := ((body.field? "took").bind Json.asNat?).getD 0
        aggregations := body.field? "aggregations" }

/-- The documents that were found. -/
def sources (r : SearchResponse) : List Fields := r.hits.map (·.source)

/-- The JSON form. -/
def toJson (r : SearchResponse) : Json :=
  .object
    [("hits", .arr (r.hits.map SearchHit.toJson)), ("total_hits", .nat r.totalHits),
      ("max_score", Json.orNull (r.maxScore.map .double)), ("took_ms", .nat r.tookMs),
      ("aggregations", Json.orNull r.aggregations)]

end SearchResponse

/-! ## §3. Pages. -/

/-- A page of a listing. -/
structure ResultPage where
  results : List Fields
  total : Nat
  /-- Where the next page begins. -/
  lastSort : Option (List Json)

namespace ResultPage

/-- The page that an answer holds. -/
def ofResponse (r : SearchResponse) : ResultPage :=
  { results := r.sources, total := r.totalHits
    lastSort := (r.hits.getLast?.map (·.sort)).filter (!·.isEmpty) }

/-- The JSON form. -/
def toJson (p : ResultPage) : Json :=
  .object
    [("results", .arr (p.results.map .obj)), ("total", .nat p.total),
      ("last_hit_sort_values", Json.orNull (p.lastSort.map .arr))]

end ResultPage

/-! ## §4. Completions. -/

/-- One way to complete what was typed. -/
structure SuggestOption where
  text : String
  id : String
  score : Option Double
  source : Fields

namespace SuggestOption

/-- An option of an answer. -/
def ofJson (v : Json) : SuggestOption :=
  { text := v.textAt "text", id := v.textAt "_id", score := v.doubleAt? "_score"
    source := v.fieldsAt "_source" }

/-- Whether the document of the option is flagged as deleted. -/
def isDeleted (o : SuggestOption) : Bool :=
  ((Keyed.get? o.source "deleted").bind Json.asBool?).getD false

/-- The JSON form. -/
def toJson (o : SuggestOption) : Json :=
  .object
    [("text", .str o.text), ("id", .str o.id), ("score", Json.orNull (o.score.map .double)),
      ("source", .obj o.source)]

end SuggestOption

/-- The options in an answer, under the name of the completion. -/
def suggestOptions (body : Json) (name : String) : Outcome (List SuggestOption) :=
  match (body.path? ["suggest", name]).bind Json.asArr? with
  | some entries => .ok ((entries.flatMap (·.itemsAt "options")).map SuggestOption.ofJson)
  | none => .error (.noSuggestion name)

/-- The JSON form of options. -/
def suggestOptionsToJson (options : List SuggestOption) : Json :=
  .object [("options", .arr (options.map SuggestOption.toJson))]

end CatalogIndex
