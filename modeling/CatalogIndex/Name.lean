/-
  CatalogIndex.Name — fully qualified names.

  A fully qualified name is a list of segments with dots between them.  A segment that holds a dot
  itself stands in double quotes, and inside quotes a dot does not separate.  Segments keep their
  quotes, so that a name is cut into segments and put together again without loss.

  ## Main definitions

    * `quote`, `unquote` — the segment of a bare name, and back;
    * `split`, `build` — a name as its segments, and back;
    * `add`, `parent?` — one segment more, one segment less.
-/
import CatalogIndex.Error
import CatalogIndex.Text.Basic

namespace CatalogIndex.Name

/-! ## §1. Segments. -/

/-- What stands between the quotes of a text that is quoted, not empty in between, and has no
    further quote. -/
def inner? : List Char → Option (List Char)
  | '"' :: rest =>
    if rest.getLast? = some '"' ∧ rest.dropLast ≠ [] ∧ '"' ∉ rest.dropLast then some rest.dropLast
    else none
  | _ => none

/-- The segment of a name: quoted exactly when it holds a dot.  A quoted name is taken as it is, or
    loses quotes it does not need; any other quote is an error. -/
def quote (name : String) : Outcome String :=
  match inner? name.toList with
  | some inner => .ok (if '.' ∈ inner then name else String.ofList inner)
  | none =>
    if '"' ∈ name.toList then .error (.embeddedQuote name)
    else if '.' ∈ name.toList then .ok ("\"" ++ name ++ "\"")
    else .ok name

/-- The name of a segment. -/
def unquote (name : String) : String :=
  match inner? name.toList with
  | some inner => String.ofList inner
  | none => name

/-! ## §2. Names as lists of segments. -/

/-- Cuts at the dots outside quotes; `quoted` says whether the text starts inside quotes. -/
def segments (quoted : Bool) : List Char → List (List Char)
  | [] => [[]]
  | c :: cs =>
    if c = '.' ∧ quoted = false then [] :: segments false cs
    else match segments (if c = '"' then !quoted else quoted) cs with
      | [] => [[c]]
      | segment :: rest => (c :: segment) :: rest

/-- The segments of a name; the empty name has none. -/
def split (fqn : String) : List String :=
  if fqn.isEmpty then [] else (segments false fqn.toList).map String.ofList

/-- The name with the given segments. -/
def build (parts : List String) : String := Text.join "." parts

/-- `start` with the segment of `name` behind it. -/
def add (start name : String) : Outcome String :=
  match quote name with
  | .ok segment => .ok (if start.isEmpty then segment else start ++ "." ++ segment)
  | .error e => .error e

/-- The name without its last segment, when at least one is left. -/
def parent? (fqn : String) : Option String :=
  let parts := split fqn
  if parts.length ≤ 1 then none else some (build parts.dropLast)

end CatalogIndex.Name
