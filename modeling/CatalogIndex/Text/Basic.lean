/-
  CatalogIndex.Text.Basic — cutting, joining and comparing text.

  Everything here is a plain recursion over characters, so that what a name, a path or a list of
  index names turns into can be computed and proved about character by character.
-/
namespace CatalogIndex.Text

/-! ## §1. Cutting and joining. -/

/-- The stretches of `cs` between the separators: one more than there are separators. -/
def pieces (sep : Char) : List Char → List (List Char)
  | [] => [[]]
  | c :: cs =>
    if c = sep then [] :: pieces sep cs
    else match pieces sep cs with
      | [] => [[c]]
      | piece :: rest => (c :: piece) :: rest

/-- `pieces` on strings. -/
def split (sep : Char) (s : String) : List String := (pieces sep s.toList).map String.ofList

/-- The given texts with `sep` between neighbours. -/
def join (sep : String) : List String → String
  | [] => ""
  | [s] => s
  | s :: rest => s ++ sep ++ join sep rest

/-- Everything before and everything after the first `sep`. -/
def cutFirst? (sep : Char) : List Char → Option (List Char × List Char)
  | [] => none
  | c :: cs =>
    if c = sep then some ([], cs)
    else (cutFirst? sep cs).map fun (before, after) => (c :: before, after)

/-- Everything before and everything after the last `sep`. -/
def cutLast? (sep : Char) : List Char → Option (List Char × List Char)
  | [] => none
  | c :: cs =>
    match cutLast? sep cs with
    | some (before, after) => some (c :: before, after)
    | none => if c = sep then some ([], cs) else none

/-! ## §2. Parts of a text. -/

/-- Whether `s` begins with `start`. -/
def startsWith (s start : String) : Bool := start.toList.isPrefixOf s.toList

/-- `s` without `start` in front, when it begins with it. -/
def dropStart? (start s : String) : Option String :=
  if startsWith s start then some (String.ofList (s.toList.drop start.toList.length)) else none

/-- Whether `part` occurs somewhere in the text. -/
def occurs (part : List Char) : List Char → Bool
  | [] => part.isEmpty
  | c :: cs => part.isPrefixOf (c :: cs) || occurs part cs

/-- Whether `part` occurs somewhere in `s`. -/
def contains (s part : String) : Bool := occurs part.toList s.toList

/-- Equality up to the case of the letters A to Z. -/
def sameName (a b : String) : Bool := a.toList.map Char.toLower == b.toList.map Char.toLower

end CatalogIndex.Text
