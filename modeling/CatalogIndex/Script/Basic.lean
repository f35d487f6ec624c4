/-
  CatalogIndex.Script.Basic — changes to documents that the cluster carries out.

  A script is a list of operations and the parameters they read.  The operations form a closed set:
  what a script does to a document is decided by their names, and all data of a mutation travels in
  the parameters.  Each engine writes the operations in its own words (`CatalogIndex.Engine.Script`).
-/
import CatalogIndex.Query.Basic

namespace CatalogIndex

/-! ## §1. Operations. -/

/-- One operation on a document, with the parameters that it reads. -/
inductive ScriptOp where
  /-- Reads `updatedAt`. -/
  | setUpdatedAt
  /-- Reads `followers`: ids to append. -/
  | addFollowers
  /-- Reads `removedFollowers`: ids to drop. -/
  | removeFollowers
  /-- Reads the parameter of the field's name and replaces the field; `null` drops it. -/
  | replaceField (field : String)
  /-- Writes every parameter as a field. -/
  | mergeFields
  /-- Reads the parameter of the field's name and assigns it. -/
  | propagateField (field : String)
  | removePropagatedField (field : String)
  /-- Sets a pointer where the document has none or an inherited one. -/
  | propagateReference (field : String)
  /-- Replaces a pointer that is still the one before the update (`<field>BeforeUpdate`). -/
  | updatePropagatedReference (field : String)
  /-- Drops a pointer if it is the one in the parameter. -/
  | removePropagatedReference (field : String)
  /-- Assigns the parameter at a dotted path, where the object around it exists. -/
  | propagateNested (path param : String)
  /-- Reads `testSuites`. -/
  | propagateTestSuites
  /-- Reads `updatedOwners`: they replace inherited owners, and stay only where the document has
      none of its own. -/
  | addOwners
  /-- Reads `deletedOwners` and `remainingOwners`: inherited copies of the deleted owners go (all
      inherited ones when the list is empty), and a document without owners inherits the rest. -/
  | removeOwners
  /-- Reads `name`, `description`, `tagFQN` and `style`. -/
  | updateCertification
  /-- Reads `tagAdded` and `tagDeleted`. -/
  | updateDerivedTags
  /-- Reads `tagFQN` and `updates`. -/
  | updateTags
  | setDeleted (deleted : Bool)
  /-- Flags a document that belongs to a single dashboard. -/
  | flagSoleMember (deleted : Bool)
  /-- Reads `dashboardId`: ends the membership, and flags a document that has none left. -/
  | endMembership
  | removeDomain
  /-- Reads `fqn`. -/
  | removeDataProduct
  /-- Reads `fqn`. -/
  | removeTags
  /-- Reads `testSuiteId`. -/
  | removeTestSuite
  /-- Reads `oldParentFQN` and `newParentFQN`: changes the start of the names in a field. -/
  | renameStart (field : String)
  deriving DecidableEq

namespace ScriptOp

/-- The stored form: a name, or a name with what belongs to it. -/
def toJson : ScriptOp → Json
  | .setUpdatedAt => .str "SetUpdatedAt"
  | .addFollowers => .str "AddFollowers"
  | .removeFollowers => .str "RemoveFollowers"
  | .replaceField field => .object [("ReplaceField", .str field)]
  | .mergeFields => .str "MergeFields"
  | .propagateField field => .object [("PropagateField", .str field)]
  | .removePropagatedField field => .object [("RemovePropagatedField", .str field)]
  | .propagateReference field => .object [("PropagateEntityReferenceField", .str field)]
  | .updatePropagatedReference field =>
    .object [("UpdatePropagatedEntityReferenceField", .str field)]
  | .removePropagatedReference field =>
    .object [("RemovePropagatedEntityReferenceField", .str field)]
  | .propagateNested path param =>
    .object [("PropagateNestedField", .object [("path", .str path), ("param", .str param)])]
  | .propagateTestSuites => .str "PropagateTestSuites"
  | .addOwners => .str "AddOwners"
  | .removeOwners => .str "RemoveOwners"
  | .updateCertification => .str "UpdateCertification"
  | .updateDerivedTags => .str "UpdateAddedDeletedGlossaryTags"
  | .updateTags => .str "UpdateTagsField"
  | .setDeleted deleted => .object [("SoftDeleteRestore", .bool deleted)]
  | .flagSoleMember deleted => .object [("DashboardMembershipSoftDelete", .bool deleted)]
  | .endMembership => .str "DashboardMembershipDelete"
  | .removeDomain => .str "RemoveDomainsChildren"
  | .removeDataProduct => .str "RemoveDataProductsChildren"
  | .removeTags => .str "RemoveTagsChildren"
  | .removeTestSuite => .str "RemoveTestSuiteChildren"
  | .renameStart field => .object [("UpdateFqnPrefix", .str field)]

/-- The operation with a bare name. -/
def ofWord? : String → Option ScriptOp
  | "SetUpdatedAt" => some .setUpdatedAt
  | "AddFollowers" => some .addFollowers
  | "RemoveFollowers" => some .removeFollowers
  | "MergeFields" => some .mergeFields
  | "PropagateTestSuites" => some .propagateTestSuites
  | "AddOwners" => some .addOwners
  | "RemoveOwners" => some .removeOwners
  | "UpdateCertification" => some .updateCertification
  | "UpdateAddedDeletedGlossaryTags" => some .updateDerivedTags
  | "UpdateTagsField" => some .updateTags
  | "DashboardMembershipDelete" => some .endMembership
  | "RemoveDomainsChildren" => some .removeDomain
  | "RemoveDataProductsChildren" => some .removeDataProduct
  | "RemoveTagsChildren" => some .removeTags
  | "RemoveTestSuiteChildren" => some .removeTestSuite
  | _ => none

/-- The operation with a name and something that belongs to it.  Two things that belong to it have
    names; they are not written as a list. -/
def ofPair? (word : String) (x : Json) : Option ScriptOp :=
  match word with
  | "ReplaceField" => x.asStr?.map .replaceField
  | "PropagateField" => x.asStr?.map .propagateField
  | "RemovePropagatedField" => x.asStr?.map .removePropagatedField
  | "PropagateEntityReferenceField" => x.asStr?.map .propagateReference
  | "UpdatePropagatedEntityReferenceField" => x.asStr?.map .updatePropagatedReference
  | "RemovePropagatedEntityReferenceField" => x.asStr?.map .removePropagatedReference
  | "PropagateNestedField" => do
    let path ← (x.field? "path").bind Json.asStr?
    let param ← (x.field? "param").bind Json.asStr?
    some (.propagateNested path param)
  | "SoftDeleteRestore" => x.asBool?.map .setDeleted
  | "DashboardMembershipSoftDelete" => x.asBool?.map .flagSoleMember
  | "UpdateFqnPrefix" => x.asStr?.map .renameStart
  | _ => if x = .null then ofWord? word else none

/-- Reads a stored operation. -/
def decode? (v : Json) : Option ScriptOp :=
  match Source.alternative? v with
  | some (word, none) => ofWord? word
  | some (word, some x) => ofPair? word x
  | none => none

end ScriptOp

/-! ## §2. Scripts. -/

/-- Operations in the order they are carried out, and the parameters they read. -/
structure Script where
  ops : List ScriptOp := []
  params : Fields := []
  deriving DecidableEq

namespace Script

/-- A script of one operation. -/
def of (op : ScriptOp) (params : List (String × Json) := []) : Script :=
  { ops := [op], params := Keyed.ofList params }

/-- The script with one more operation. -/
def push (s : Script) (op : ScriptOp) : Script := { s with ops := s.ops ++ [op] }

/-- The script with a parameter set. -/
def setParam (s : Script) (key : String) (value : Json) : Script :=
  { s with params := Keyed.insert s.params key value }

/-- Whether there is nothing to carry out. -/
def isEmpty (s : Script) : Bool := s.ops.isEmpty

/-- The stored form. -/
def toJson (s : Script) : Json :=
  .object [("ops", .arr (s.ops.map ScriptOp.toJson)), ("params", .obj s.params)]

/-- Reads a stored script. -/
def decode? (v : Json) : Option Script := do
  let p ← Source.parts? ["ops", "params"] v
  let ops ← p.required "ops" (Source.listOf? ScriptOp.decode?)
  let params ← p.required "params" Json.asObj?
  some { ops, params }

end Script

/-! ## §3. Scripts on many documents. -/

/-- The documents that an update is sent to. -/
inductive IndexTarget where
  /-- Every document of the deployment. -/
  | everywhere
  /-- The documents in the named indexes and aliases. -/
  | aliases (names : List String)
  deriving DecidableEq

/-- The stored form of a target. -/
def IndexTarget.toJson : IndexTarget → Json
  | .everywhere => .str "Global"
  | .aliases names => .object [("Aliases", Json.strings names)]

/-- A script for those documents of a target that match. -/
structure PartialUpdate where
  target : IndexTarget
  matcher : FieldMatch
  script : Script
  deriving DecidableEq

end CatalogIndex
