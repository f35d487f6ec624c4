/-
  CatalogIndex.Entity.TagLabel — the tags an entity carries.

  A label names a classification tag or a glossary term by its fully qualified name, and says how it
  came to the entity and whether it was confirmed.
-/
import CatalogIndex.Json.Source

namespace CatalogIndex

/-- Where the tag of a label is defined. -/
inductive TagSource where
  | classification | glossary
  deriving DecidableEq

/-- How a label came to an entity. -/
inductive LabelType where
  | manual | propagated | automated | derived
  deriving DecidableEq

/-- Whether a label was confirmed. -/
inductive LabelState where
  | suggested | confirmed
  deriving DecidableEq

def TagSource.word : TagSource → String
  | .classification => "Classification"
  | .glossary => "Glossary"

def TagSource.ofWord? : String → Option TagSource
  | "Classification" => some .classification
  | "Glossary" => some .glossary
  | _ => none

def LabelType.word : LabelType → String
  | .manual => "Manual"
  | .propagated => "Propagated"
  | .automated => "Automated"
  | .derived => "Derived"

def LabelType.ofWord? : String → Option LabelType
  | "Manual" => some .manual
  | "Propagated" => some .propagated
  | "Automated" => some .automated
  | "Derived" => some .derived
  | _ => none

def LabelState.word : LabelState → String
  | .suggested => "Suggested"
  | .confirmed => "Confirmed"

def LabelState.ofWord? : String → Option LabelState
  | "Suggested" => some .suggested
  | "Confirmed" => some .confirmed
  | _ => none

/-- A tag on an entity. -/
structure TagLabel where
  tagFQN : String
  name : Option String := none
  displayName : Option String := none
  description : Option String := none
  style : Option Json := none
  source : TagSource := .classification
  labelType : LabelType := .manual
  state : LabelState := .confirmed
  deriving DecidableEq

namespace TagLabel

/-- The label marked as derived from another one. -/
def asDerived (l : TagLabel) : TagLabel := { l with labelType := .derived }

/-- The JSON form: unknown parts are left out. -/
def toJson (l : TagLabel) : Json :=
  .object <|
    [("tagFQN", .str l.tagFQN), ("source", .str l.source.word),
      ("labelType", .str l.labelType.word), ("state", .str l.state.word)]
      ++ Json.present "name" (l.name.map .str)
      ++ Json.present "displayName" (l.displayName.map .str)
      ++ Json.present "description" (l.description.map .str)
      ++ Json.present "style" l.style

/-- The fields in the order of their declaration. -/
def fieldNames : List String :=
  ["tagFQN", "name", "displayName", "description", "style", "source", "labelType", "state"]

/-- A label from a source; origin, kind and state have defaults. -/
def decode? {ν : Type} [Source ν] (x : ν) : Option TagLabel := do
  let p ← Source.parts? fieldNames x
  let tagFQN ← p.required "tagFQN" Source.text?
  let name ← p.optional "name" Source.text?
  let displayName ← p.optional "displayName" Source.text?
  let description ← p.optional "description" Source.text?
  let style ← p.optional "style" Source.json?
  let source ← p.defaulted "source" (fun x => (Source.bare? x).bind TagSource.ofWord?) .classification
  let labelType ← p.defaulted "labelType" (fun x => (Source.bare? x).bind LabelType.ofWord?) .manual
  let state ← p.defaulted "state" (fun x => (Source.bare? x).bind LabelState.ofWord?) .confirmed
  some { tagFQN, name, displayName, description, style, source, labelType, state }

end TagLabel

end CatalogIndex
