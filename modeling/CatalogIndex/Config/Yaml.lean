/-
  CatalogIndex.Config.Yaml — configurations in YAML.

  A configuration file is a map from names to texts.  What a text stands for depends on how it is
  written: only a plain one can be a number or nothing, and any can be a text.  A setting may carry a
  tag; one that names an alternative takes the place of its text.

  ## Main definitions

    * the instance of `Source` for nodes of YAML;
    * `Config.ofYamlText`, `Config.ofYamlFile` — the settings that a text or a file holds.
-/
import CatalogIndex.Config.Basic
import CatalogIndex.Yaml.Node

namespace CatalogIndex

namespace Yaml

/-! ## §1. What texts stand for. -/

/-- The words for nothing. -/
def isNullWord (text : String) : Bool := ["~", "null", "Null", "NULL"].contains text

/-- The tags of nothing and of integers. -/
def nullTag : String := "tag:yaml.org,2002:null"

def integerTag : String := "tag:yaml.org,2002:int"

/-- The natural number that a text stands for: in decimal without a needless zero in front, or
    hexadecimal, octal or binary behind a mark.  A plus sign may come first. -/
def natural? (text : String) : Option Nat :=
  let cs := match text.toList with
    | '+' :: rest => rest
    | cs => cs
  match cs with
  | '0' :: 'x' :: rest => ofDigits? 16 rest
  | '0' :: 'o' :: rest => ofDigits? 8 rest
  | '0' :: 'b' :: rest => ofDigits? 2 rest
  | '0' :: _ :: _ => none
  | _ => ofDigits? 10 cs

/-- Whether a node stands for nothing.  A plain text without characters does unless it is tagged, and
    a plain text that is tagged as nothing has to be one of the words for it. -/
def isNothing? : Yaml → Option Bool
  | .scalar tag s =>
    if s.style ≠ .plain then some false
    else match tag with
      | none => some (s.text.isEmpty || isNullWord s.text)
      | some tag =>
        if tag ≠ nullTag then some false
        else if isNullWord s.text then some true else none
  | _ => some false

/-- Whether a text can be a number: a plain one can, and a literal one that is tagged so. -/
def canBeNumber (tag : Option String) (s : Scalar) : Bool :=
  s.style = .plain || (s.style = .literal && tag = some integerTag)

/-- The alternative that a node names, with what belongs to it: a tag in front of a node names one,
    and so does a text. -/
def alternative? (v : Yaml) : Option (String × Option Yaml) :=
  match v with
  | .scalar tag s =>
    match tag.bind named? with
    | some name => some (name, some (.scalar none s))
    | none => some (s.text, none)
  | .list tag items => (tag.bind named?).map (·, some (.list none items))
  | .map tag pairs => (tag.bind named?).map (·, some (.map none pairs))
  | .again _ => none
where
  /-- The name in a tag that is no abbreviation. -/
  named? (tag : String) : Option String :=
    match tag.toList with
    | '!' :: c :: rest => some (String.ofList (c :: rest))
    | _ => none

/-- The text of a node that is one. -/
def text? : Yaml → Option String
  | .scalar _ s => some s.text
  | _ => none

/-! ## §2. Nodes as sources. -/

/-- Settings are texts, numbers and alternatives; a record is a map, or nothing at all. -/
instance : Source Yaml where
  null? := isNothing?
  bool?
    | .scalar _ { style := .plain, text := "true" } => some true
    | .scalar _ { style := .plain, text := "false" } => some false
    | _ => none
  nat?
    | .scalar tag s => if canBeNumber tag s then (natural? s.text).filter (· < Nat.pow 2 64) else none
    | _ => none
  double? _ := none
  text? := text?
  items? _ := none
  pairs?
    | .map _ pairs => pairs.mapM fun (key, v) => (text? key).map (·, v)
    | .scalar _ s => if s = emptyText then some [] else none
    | _ => none
  alternative? := alternative?
  json? _ := none

end Yaml

namespace Config

/-! ## §3. Settings. -/

/-- Settings from a YAML text. -/
def ofYamlText (text : String) : Outcome Config :=
  match (Yaml.read? text).bind fun v => decode? v with
  | some c => c.validate
  | none => .error .malformedYaml

/-- Settings from a YAML file. -/
def ofYamlFile (fileText : String → Option String) (path : String) : Outcome Config :=
  match fileText path with
  | some text => ofYamlText text
  | none => .error (.unreadableConfig path)

end Config

end CatalogIndex
