/-
  CatalogIndex.Cascade.Delete — what follows from the removal of an entity.

  Each type has a rule that says what becomes of the documents that refer to an entity when it is
  deleted, and when it is flagged as deleted or restored.  Types without a rule of their own take
  their children along.

  ## Main definitions

    * `DeleteRule` — the rules;
    * `DeleteRule.onDelete`, `DeleteRule.onFlag` — the writes that a rule asks for;
    * `DeleteRules` — rules by type.
-/
import CatalogIndex.Cascade.Op

namespace CatalogIndex

namespace Mutation

/-! ## §1. Writes to the children. -/

/-- Deletes the children that match. -/
def deleteChildren (m : Mutation) (matcher : FieldMatch) : List CascadeOp :=
  if m.children.isEmpty then [] else [.deleteMatching m.children [matcher]]

/-- Runs a script that flags the children that match. -/
def flagChildren (m : Mutation) (matcher : FieldMatch) (script : Script) : List CascadeOp :=
  if m.children.isEmpty then [] else [.flagMatching m.children [matcher] script]

/-! ## §2. Deletion by type. -/

/-- The domain is taken from all documents, and its data products go with it. -/
def deleteDomain (m : Mutation) : List CascadeOp :=
  .update { target := .everywhere, matcher := m.parentMatch, script := Script.of .removeDomain }
    :: m.deleteChildren m.parentMatch

/-- The data product is taken from all documents. -/
def deleteDataProduct (m : Mutation) : List CascadeOp :=
  let script := Script.of .removeDataProduct [("fqn", .str m.entity.fullyQualifiedName)]
  [.update { target := .everywhere, matcher := m.idMatch "dataProducts.id", script }]

/-- The tag, and what lies below it, is taken from all documents. -/
def deleteTag (m : Mutation) : List CascadeOp :=
  let fqn := m.entity.fullyQualifiedName
  [updateEverywhere "tags.tagFQN" fqn (Script.of .removeTags [("fqn", .str fqn)])]

/-- What belongs to the dashboard leaves it, and goes if it belongs to no other. -/
def deleteDashboard (m : Mutation) : List CascadeOp :=
  m.flagChildren (m.idMatch "dashboards.id")
    (Script.of .endMembership [("dashboardId", m.entity.id.toJson)])

/-- A basic test suite owns its test cases; any other only refers to them. -/
def deleteTestSuite (m : Mutation) : List CascadeOp :=
  let basic := ((Keyed.get? m.entity.toFields "basic").bind Json.asBool?).getD false
  if basic then m.deleteChildren (m.idMatch "testSuite.id")
  else if m.children.isEmpty then []
  else
    let script := Script.of .removeTestSuite [("testSuiteId", m.entity.id.toJson)]
    [.update { target := .aliases m.children, matcher := m.idMatch "testSuites.id", script }]

end Mutation

/-! ## §3. Rules. -/

/-- What the removal of an entity means for other documents. -/
inductive DeleteRule where
  /-- Children go with their parent. -/
  | byParent
  | domain
  | dataProduct
  /-- For tags and glossary terms. -/
  | tag
  | dashboard
  | testSuite
  /-- What is inside a service goes with it. -/
  | service
  deriving DecidableEq

namespace DeleteRule

/-- The writes when the entity is deleted. -/
def onDelete (m : Mutation) : DeleteRule → List CascadeOp
  | .byParent => m.deleteChildren m.parentMatch
  | .domain => m.deleteDomain
  | .dataProduct => m.deleteDataProduct
  | .tag => m.deleteTag
  | .dashboard => m.deleteDashboard
  | .testSuite => m.deleteTestSuite
  | .service => m.deleteChildren (m.idMatch "service.id")

/-- The writes when the entity is flagged as deleted, or restored. -/
def onFlag (m : Mutation) (deleted : Bool) : DeleteRule → List CascadeOp
  | .dashboard => m.flagChildren (m.idMatch "dashboards.id") (Script.of (.flagSoleMember deleted))
  | .service => m.flagChildren (m.idMatch "service.id") (Script.of (.setDeleted deleted))
  | _ => m.flagChildren m.parentMatch (Script.of (.setDeleted deleted))

end DeleteRule

/-- Rules by type. -/
abbrev DeleteRules := Keyed DeleteRule

namespace DeleteRules

/-- The rules of the types that have one of their own. -/
def standard : DeleteRules :=
  Keyed.ofList <|
    [("domain", .domain), ("dataProduct", .dataProduct), ("tag", .tag), ("glossaryTerm", .tag),
      ("dashboard", .dashboard), ("testSuite", .testSuite)]
      ++ serviceTypes.map (·, DeleteRule.service)

/-- The rule for a type. -/
def rule (rs : DeleteRules) (entityType : String) : DeleteRule :=
  (Keyed.get? rs entityType).getD .byParent

/-- The writes when the entity is deleted. -/
def planDelete (rs : DeleteRules) (m : Mutation) : List CascadeOp :=
  (rs.rule m.entity.entityType).onDelete m

/-- The writes when the entity is flagged as deleted, or restored. -/
def planFlag (rs : DeleteRules) (m : Mutation) (deleted : Bool) : List CascadeOp :=
  (rs.rule m.entity.entityType).onFlag m deleted

end DeleteRules

end CatalogIndex
