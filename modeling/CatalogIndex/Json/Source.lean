/-
  CatalogIndex.Json.Source — typed decoding.

  The same record can come from three kinds of source: a value at hand, a JSON text and a
  configuration file in a block notation.  A decoder asks its source only the questions of the class
  `Source`, so there is one decoder per type and not one per source.

  A record is written as an object with named fields, or as a list of its fields in the order of
  their declaration.  Unknown names are passed over, a known name that occurs twice is an error, and
  so is a list that is too long.  What happens when a field is not there depends on the field:
  `required`, `optional`, `defaulted`.
-/
import CatalogIndex.Json.Written

namespace CatalogIndex

/-- What a decoder can ask about one node of a source; `none` is the answer of a node of another
    kind, and of one that is ill-formed. -/
class Source (ν : Type) where
  /-- Whether there is nothing at the node. -/
  null? : ν → Option Bool
  bool? : ν → Option Bool
  /-- An unsigned 64-bit integer. -/
  nat? : ν → Option Nat
  double? : ν → Option Double
  text? : ν → Option String
  items? : ν → Option (List ν)
  pairs? : ν → Option (List (String × ν))
  /-- One of several alternatives: its name, and what belongs to it if anything was written. -/
  alternative? : ν → Option (String × Option ν)
  /-- The node as a free-form value. -/
  json? : ν → Option Json

/-! ## §1. Values and texts as sources. -/

instance : Source Json where
  null? v := some (v == .null)
  bool? := Json.asBool?
  nat? := Json.asNat?
  double? := Json.asDouble?
  text? := Json.asStr?
  items? := Json.asArr?
  pairs? := Json.asObj?
  alternative?
    | .str s => some (s, none)
    | .obj [(name, content)] => some (name, some content)
    | _ => none
  json? := some

/-- A node of a JSON text, and how many levels of arrays and objects it may still open. -/
structure TextNode where
  tree : Written
  levels : Nat

namespace TextNode

/-- The root of a text. -/
def root (tree : Written) : TextNode := { tree, levels := Json.maxDepth }

def number? (x : TextNode) : Option Number :=
  match x.tree with
  | .num value => value
  | _ => none

def items? (x : TextNode) : Option (List TextNode) :=
  match x.tree, x.levels with
  | .arr items, levels + 1 => some (items.map ({ tree := ·, levels }))
  | _, _ => none

def pairs? (x : TextNode) : Option (List (String × TextNode)) :=
  match x.tree, x.levels with
  | .obj pairs, levels + 1 =>
    pairs.mapM fun (key, tree) => key.map (·, { tree, levels })
  | _, _ => none

end TextNode

instance : Source TextNode where
  null? x := match x.tree with | .null => some true | _ => some false
  bool? x := match x.tree with | .bool b => some b | _ => none
  nat? x := x.number?.bind fun n => (Json.num n).asNat?
  double? x := x.number?.bind fun n => (Json.num n).asDouble?
  text? x := match x.tree with | .str text => text | _ => none
  items? := TextNode.items?
  pairs? := TextNode.pairs?
  alternative? x :=
    match x.tree with
    | .str (some s) => some (s, none)
    | _ => match x.pairs? with
      | some [(name, content)] => some (name, some content)
      | _ => none
  json? x := x.tree.toJson? x.levels

/-! ## §2. Building blocks of decoders. -/

namespace Source

variable {ν α : Type} [Source ν]

/-- Decodes every element, or nothing. -/
def each? (decode : ν → Option α) : List ν → Option (List α)
  | [] => some []
  | x :: rest =>
    match decode x, each? decode rest with
    | some a, some as => some (a :: as)
    | _, _ => none

/-- A list of things that `decode` reads. -/
def listOf? (decode : ν → Option α) (x : ν) : Option (List α) := (items? x).bind (each? decode)

/-- An unsigned integer below `bound`. -/
def natBelow? (bound : Nat) (x : ν) : Option Nat := (nat? x).filter (· < bound)

/-- An alternative that carries nothing: only its name, or its name with `null`. -/
def bare? (x : ν) : Option String :=
  match alternative? x with
  | some (name, none) => some name
  | some (name, some content) => if null? content = some true then some name else none
  | none => none

/-- The fields of a record that were found, under their names. -/
structure Parts (ν : Type) where
  found : List (String × ν)
  /-- Whether the record was written with names. -/
  named : Bool

/-- The fields of a record whose fields have the given names. -/
def parts? (names : List String) (x : ν) : Option (Parts ν) :=
  match pairs? x with
  | some pairs =>
    let known := pairs.filter fun pair => names.contains pair.1
    if (known.map (·.1)).Nodup then some { found := known, named := true } else none
  | none =>
    match items? x with
    | some items =>
      if items.length ≤ names.length then some { found := names.zip items, named := false } else none
    | none => none

namespace Parts

/-- A field that has to be there. -/
def required (p : Parts ν) (name : String) (decode : ν → Option α) : Option α :=
  (p.found.lookup name).bind decode

/-- A field that may be absent or `null`. -/
def optional (p : Parts ν) (name : String) (decode : ν → Option α) : Option (Option α) :=
  match p.found.lookup name with
  | none => some none
  | some x => (null? x).bind fun isNull => if isNull then some none else (decode x).map some

/-- A field that may be `null`, and absent where the fields have names. -/
def nullable (p : Parts ν) (name : String) (decode : ν → Option α) : Option (Option α) :=
  if p.named || (p.found.lookup name).isSome then p.optional name decode else none

/-- A field that takes `default` when it is absent; `null` does not count as absent. -/
def defaulted (p : Parts ν) (name : String) (decode : ν → Option α) (default : α) : Option α :=
  match p.found.lookup name with
  | none => some default
  | some x => decode x

end Parts

end Source

end CatalogIndex
