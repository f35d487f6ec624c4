/-
  CatalogIndex.Query.Basic — which documents a search or an update is about.

  A query is a tree: comparisons of one field at the leaves, and a `bool` with four lists of clauses
  at the inner nodes.  Each engine writes it in its own words (`CatalogIndex.Engine.Query`); here is
  the form in which a query is stored and passed on.
-/
import CatalogIndex.Json.Source

namespace CatalogIndex

/-- A query. -/
inductive Query where
  /-- The field has exactly this value. -/
  | term (field : String) (value : Json)
  /-- The text in the field begins with `start`. -/
  | startsWith (field start : String)
  /-- The text in the field matches a pattern: `*` is any text and `?` any character. -/
  | wildcard (field pattern : String)
  /-- The field is there. -/
  | exists (field : String)
  /-- A text in the query language of the search box, over some fields or over all. -/
  | text (query : String) (fields : List String)
  /-- All of `must` and `filter`, some of `should` and none of `mustNot`. -/
  | bool (must should mustNot filter : List Query)
  /-- A query that is already written in the words of the engine. -/
  | raw (body : Json)
  | matchAll
  deriving Inhabited

namespace Query

/-! ## §1. Building queries. -/

/-- The field has exactly this text. -/
def textTerm (field value : String) : Query := .term field (.str value)

/-- Whether a `bool` query has no clause at all; other queries are not of that kind. -/
def isEmptyBool? : Query → Option Bool
  | .bool must should mustNot filter =>
    some (must.isEmpty && should.isEmpty && mustNot.isEmpty && filter.isEmpty)
  | _ => none

/-! ## §2. The stored form. -/

mutual

/-- The stored form: the name of the kind, with what belongs to it. -/
def toJson : Query → Json
  | .term field value =>
    .object [("Term", .object [("field", .str field), ("value", value)])]
  | .startsWith field start =>
    .object [("Prefix", .object [("field", .str field), ("prefix", .str start)])]
  | .wildcard field pattern =>
    .object [("Wildcard", .object [("field", .str field), ("pattern", .str pattern)])]
  | .exists field => .object [("Exists", .str field)]
  | .text query fields =>
    .object [("QueryString", .object [("query", .str query), ("fields", Json.strings fields)])]
  | .bool must should mustNot filter =>
    .object [("Bool", .object
      [("must", .arr (listToJson must)), ("should", .arr (listToJson should)),
        ("must_not", .arr (listToJson mustNot)), ("filter", .arr (listToJson filter))])]
  | .raw body => .object [("Raw", body)]
  | .matchAll => .str "MatchAll"

def listToJson : List Query → List Json
  | [] => []
  | q :: rest => toJson q :: listToJson rest

end

/-- Reads a stored query of at most `levels` queries inside one another. -/
def ofJson? : Nat → Json → Option Query
  | 0, _ => none
  | levels + 1, v =>
    match Source.alternative? v with
    | some ("Term", some x) => do
      let p ← Source.parts? ["field", "value"] x
      let field ← p.required "field" Source.text?
      let value ← p.required "value" some
      some (.term field value)
    | some ("Prefix", some x) => do
      let p ← Source.parts? ["field", "prefix"] x
      let field ← p.required "field" Source.text?
      let start ← p.required "prefix" Source.text?
      some (.startsWith field start)
    | some ("Wildcard", some x) => do
      let p ← Source.parts? ["field", "pattern"] x
      let field ← p.required "field" Source.text?
      let pattern ← p.required "pattern" Source.text?
      some (.wildcard field pattern)
    | some ("Exists", some x) => (Source.text? x).map .exists
    | some ("QueryString", some x) => do
      let p ← Source.parts? ["query", "fields"] x
      let query ← p.required "query" Source.text?
      let fields ← p.required "fields" (Source.listOf? Source.text?)
      some (.text query fields)
    | some ("Bool", some x) => do
      let p ← Source.parts? ["must", "should", "must_not", "filter"] x
      let must ← p.required "must" (Source.listOf? (ofJson? levels))
      let should ← p.required "should" (Source.listOf? (ofJson? levels))
      let mustNot ← p.required "must_not" (Source.listOf? (ofJson? levels))
      let filter ← p.required "filter" (Source.listOf? (ofJson? levels))
      some (.bool must should mustNot filter)
    | some ("Raw", some x) => some (.raw x)
    | some ("MatchAll", none) => some .matchAll
    | some ("MatchAll", some .null) => some .matchAll
    | _ => none

/-- Reads a stored query. -/
def decode? (v : Json) : Option Query := ofJson? (v.depth + 1) v

end Query

/-! ## §3. Selecting documents by one field. -/

/-- A field and the text it has to have. -/
structure FieldMatch where
  field : String
  value : String
  deriving DecidableEq

namespace FieldMatch

/-- The query of a match. -/
def toQuery (m : FieldMatch) : Query := Query.textTerm m.field m.value

/-- The query of several matches that all have to hold. -/
def conjunction : List FieldMatch → Query
  | [] => .matchAll
  | [m] => m.toQuery
  | ms => .bool [] [] [] (ms.map toQuery)

/-- The JSON form. -/
def toJson (m : FieldMatch) : Json := .object [("field", .str m.field), ("value", .str m.value)]

/-- A match from a source. -/
def decode? {ν : Type} [Source ν] (x : ν) : Option FieldMatch := do
  let p ← Source.parts? ["field", "value"] x
  let field ← p.required "field" Source.text?
  let value ← p.required "value" Source.text?
  some { field, value }

end FieldMatch

end CatalogIndex
