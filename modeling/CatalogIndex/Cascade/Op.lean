/-
  CatalogIndex.Cascade.Op — writes that follow from a write.

  Documents hold copies of other entities: the owners of a parent, the name of a tag, the domain.
  When such an entity changes or goes, the copies have to follow.  Each write of that kind is a
  `CascadeOp`; planning them looks at the mutation only and touches nothing.
-/
import CatalogIndex.Entity.Record
import CatalogIndex.Index.Registry
import CatalogIndex.Script.Basic

namespace CatalogIndex

/-- A write to documents that hold copies. -/
inductive CascadeOp where
  /-- Runs a script on the documents of a target that match. -/
  | update (u : PartialUpdate)
  /-- Deletes the documents that match everything. -/
  | deleteMatching (aliases : List String) (matchers : List FieldMatch)
  /-- Flags the documents that match everything as deleted, or takes the flag back. -/
  | flagMatching (aliases : List String) (matchers : List FieldMatch) (script : Script)
  /-- Changes the start of the names in a field. -/
  | rename (index oldStart newStart field : String)
  deriving DecidableEq

namespace CascadeOp

/-- The word for the kind of a write. -/
def kind : CascadeOp → String
  | .update _ => "update_children"
  | .deleteMatching .. => "delete_by_fields"
  | .flagMatching .. => "soft_delete_children"
  | .rename .. => "update_by_fqn_prefix"

/-- The indexes and aliases that a write goes to. -/
def targets (r : Registry) : CascadeOp → List String
  | .update u =>
    match u.target with
    | .everywhere => [r.globalAlias]
    | .aliases names => names
  | .deleteMatching aliases _ => aliases
  | .flagMatching aliases _ _ => aliases
  | .rename index .. => [index]

/-- The JSON form, with the targets as the cluster knows them. -/
def toJson (r : Registry) (op : CascadeOp) : Json :=
  let matchers (ms : List FieldMatch) : Json := .arr (ms.map FieldMatch.toJson)
  .object <|
    [("kind", .str op.kind), ("targets", Json.strings (op.targets r))] ++
      match op with
      | .update u =>
        [("target", u.target.toJson), ("match", u.matcher.toJson), ("script", u.script.toJson)]
      | .deleteMatching _ ms => [("matchers", matchers ms)]
      | .flagMatching _ ms script => [("matchers", matchers ms), ("script", script.toJson)]
      | .rename _ oldStart newStart field =>
        [("old", .str oldStart), ("new", .str newStart), ("field", .str field)]

end CascadeOp

/-- What the planning of cascades may look at. -/
structure Mutation where
  registry : Registry
  /-- The mapping of the type of the entity. -/
  mapping : IndexMapping
  entity : Entity
  change : Option ChangeDescription

namespace Mutation

/-- The aliases of the documents that may hold copies from a parent. -/
def children (m : Mutation) : List String := m.registry.children m.mapping

/-- A field that has the id of the entity. -/
def idMatch (m : Mutation) (field : String) : FieldMatch := ⟨field, m.entity.id.toText⟩

/-- The field in which a child keeps the id of its parent. -/
def parentMatch (m : Mutation) : FieldMatch := m.idMatch (m.entity.entityType ++ ".id")

/-- An update of all documents whose `field` is the given text. -/
def updateEverywhere (field value : String) (script : Script) : CascadeOp :=
  .update { target := .everywhere, matcher := ⟨field, value⟩, script }

end Mutation

end CatalogIndex
