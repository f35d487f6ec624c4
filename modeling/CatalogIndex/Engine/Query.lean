/-
  CatalogIndex.Engine.Query — queries in the form the engines take.

  The engines differ in the comparison of one field only: one wraps the value in an object, the
  other does not.
-/
import CatalogIndex.Engine.Basic
import CatalogIndex.Query.Basic

namespace CatalogIndex.Engine

/-- An object with one field, whose value is an object with one field. -/
def keyed (kind field : String) (body : Json) : Json := .object [(kind, .object [(field, body)])]

/-- The comparison of one field. -/
def encodeTerm (e : Engine) (field : String) (value : Json) : Json :=
  match e with
  | .elasticsearch => keyed "term" field (.object [("value", value)])
  | .opensearch => keyed "term" field value

/-- A list of clauses under its name, unless it is empty. -/
def clause (name : String) (queries : List Json) : List (String × Json) :=
  if queries.isEmpty then [] else [(name, .arr queries)]

mutual

/-- A query in the form the engine takes.  Of a whole request body only its query is kept. -/
def encodeQuery (e : Engine) : Query → Json
  | .term field value => e.encodeTerm field value
  | .startsWith field start => keyed "prefix" field (.object [("value", .str start)])
  | .wildcard field pattern => keyed "wildcard" field (.object [("value", .str pattern)])
  | .exists field => keyed "exists" "field" (.str field)
  | .text query fields =>
    .object [("query_string", .object <|
      ("query", .str query) :: if fields.isEmpty then [] else [("fields", Json.strings fields)])]
  | .bool must should mustNot filter =>
    .object [("bool", .object <|
      clause "must" (encodeQueries e must) ++ clause "should" (encodeQueries e should)
        ++ clause "must_not" (encodeQueries e mustNot) ++ clause "filter" (encodeQueries e filter))]
  | .raw body => (body.field? "query").getD body
  | .matchAll => .object [("match_all", .obj [])]

def encodeQueries (e : Engine) : List Query → List Json
  | [] => []
  | q :: rest => encodeQuery e q :: encodeQueries e rest

end

end CatalogIndex.Engine
