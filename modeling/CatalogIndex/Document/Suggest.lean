/-
  CatalogIndex.Document.Suggest — what the search box completes.

  A suggestion is a text and a weight.  Every document completes to its name, which weighs more, and
  to its fully qualified name; some also to the names of their parts, such as the columns of a table
  at any level of nesting.

  ## Main definitions

    * `forEntity` — the suggestions of name and fully qualified name;
    * `nameParts` — every piece of a fully qualified name under which a search may find it;
    * `forChildren` — the names in a tree of children.
-/
import CatalogIndex.Json.Source
import CatalogIndex.Name

namespace CatalogIndex

/-- A text that the search box completes to, and how much it weighs. -/
structure Suggestion where
  input : String
  weight : Nat
  deriving DecidableEq

namespace Suggestion

/-! ## §1. Weights and forms. -/

/-- The weight of the name of an entity. -/
def nameWeight : Nat := 10

/-- The weight of a fully qualified name. -/
def fullNameWeight : Nat := 5

/-- The weight of the name of a child. -/
def childWeight : Nat := 5

/-- The JSON form. -/
def toJson (s : Suggestion) : Json :=
  .object [("input", .str s.input), ("weight", .nat s.weight)]

/-- The JSON form of a list of suggestions. -/
def listToJson (suggestions : List Suggestion) : Json := .arr (suggestions.map toJson)

/-- A suggestion from a source; weights have 32 bits. -/
def decode? {ν : Type} [Source ν] (x : ν) : Option Suggestion := do
  let p ← Source.parts? ["input", "weight"] x
  let input ← p.required "input" Source.text?
  let weight ← p.required "weight" (Source.natBelow? (Nat.pow 2 32))
  some { input, weight }

/-! ## §2. Names. -/

/-- The suggestions of an entity: its name, then its fully qualified name, each unless it is
    empty. -/
def forEntity (name fqn : String) : List Suggestion :=
  (if name.isEmpty then [] else [⟨name, nameWeight⟩])
    ++ (if fqn.isEmpty then [] else [⟨fqn, fullNameWeight⟩])

/-- For each segment of a name: the segment, its bare form, and the name up to and from it. -/
def segmentParts (before : List String) : List String → List String
  | [] => []
  | segment :: rest =>
    [segment, Name.unquote segment, Name.build (before ++ [segment]), Name.build (segment :: rest)]
      ++ segmentParts (before ++ [segment]) rest

/-- The pieces of a name under which a search may find it: each segment, each start and each end of
    the name, and the texts of the suggestions; in ascending order, none of them empty. -/
def nameParts (fqn : String) (suggestions : List Suggestion) : List String :=
  Keyed.distinct <|
    (fqn :: segmentParts [] (Name.split fqn) ++ suggestions.map (·.input)).filter (!·.isEmpty)

/-! ## §3. Children. -/

/-- The name of an item, unless it is missing or empty. -/
def itemName? (item : Json) : Option String :=
  ((item.field? "name").bind Json.asStr?).filter (!·.isEmpty)

mutual

/-- The names in a tree: of each item of the list, and of everything below `children`. -/
def childNames : Json → List String
  | .arr items => itemNames items
  | _ => []

def itemNames : List Json → List String
  | [] => []
  | .obj fields :: rest =>
    (itemName? (.obj fields)).toList ++ fieldChildNames fields ++ itemNames rest
  | _ :: rest => itemNames rest

/-- The names below the field `children`, of which there is at most one. -/
def fieldChildNames : List (String × Json) → List String
  | [] => []
  | (key, v) :: rest => if key = "children" then childNames v else fieldChildNames rest

end

/-- The suggestions for the names in a tree, in ascending order, each name once. -/
def forChildren (list : Option Json) : List Suggestion :=
  match list with
  | some v => (Keyed.distinct (childNames v)).map (⟨·, childWeight⟩)
  | none => []

end Suggestion

end CatalogIndex
