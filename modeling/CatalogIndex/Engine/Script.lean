/-
  CatalogIndex.Engine.Script — what the operations of a script do, in code.

  Each operation has one body, written with the few constructions in which the engines differ:
  reaching into the document and dropping elements of a list.

  ## Main definitions

    * `body` — the code of an operation;
    * `encodeScript` — a script in the form the engine takes.
-/
import CatalogIndex.Engine.Code
import CatalogIndex.Script.Basic

namespace CatalogIndex.Engine

/-! ## §1. Building code. -/

namespace Expr

def equal (a b : Expr) : Expr := .op .eq a b

def differs (a b : Expr) : Expr := .op .ne a b

def both (a b : Expr) : Expr := .op .and a b

def oneOf (a b : Expr) : Expr := .op .or a b

def isNull (a : Expr) : Expr := a.equal .null

def isThere (a : Expr) : Expr := a.differs .null

/-- Whether a name is the old parent or lies below it. -/
def underOldParent (name : Expr) : Expr :=
  (name.equal (.param "oldParentFQN")).oneOf
    (.callWith name "startsWith" (.op .plus (.param "oldParentFQN") (.text ".")))

/-- The name with the new parent in place of the old one. -/
def movedName (name : Expr) : Expr :=
  .op .plus (.param "newParentFQN") (.callWith name "substring" (.call (.param "oldParentFQN") "length"))

end Expr

/-- Drops a field of the document. -/
def dropField (name : String) : Stmt := .run (.callWith .document "remove" (.text name))

/-- Drops the elements of a list for which a condition holds; `name` stands for the element. -/
def removeWhere (e : Engine) (list : Expr) (name : String) (condition : Expr) : Stmt :=
  match e with
  | .elasticsearch =>
    .when list.isThere [.run (.callWith list "removeIf" (.function name condition))]
  | .opensearch =>
    .when list.isThere
      [.declare "Iterator" "it" (.call list "iterator"),
        .while (.call (.var "it") "hasNext")
          [.declare "def" name (.call (.var "it") "next"),
            .when condition [.run (.call (.var "it") "remove")]]]

/-- Makes sure that there is a list. -/
def ensureList (list : Expr) : Stmt := .when list.isNull [.assign list .emptyList]

/-! ## §2. Bodies. -/

/-- Copies owners to a document that has none of its own. -/
def addOwners (e : Engine) : List Stmt :=
  let owners := Expr.field "owners"
  [ensureList owners,
    removeWhere e owners "owner" (Expr.equal (.member (.var "owner") "inherited") (.bool true)),
    .when (.call owners "isEmpty") [.run (.callWith owners "addAll" (.param "updatedOwners"))]]

/-- Takes inherited copies of owners away, and leaves the remaining ones to a document without
    owners. -/
def removeOwners (e : Engine) : List Stmt :=
  let owners := Expr.field "owners"
  let removed := Expr.var "removed"
  [.when owners.isThere
    [.declare "List" "removed" .newList,
      .each "entry" (.param "deletedOwners")
        [.run (.callWith removed "add" (.member (.var "entry") "id"))],
      removeWhere e owners "owner"
        ((Expr.equal (.member (.var "owner") "inherited") (.bool true)).both
          (.group ((Expr.call removed "isEmpty").oneOf
            (.callWith removed "contains" (.member (.var "owner") "id"))))),
      .when ((Expr.call owners "isEmpty").both (Expr.param "remainingOwners").isThere)
        [.run (.callWith owners "addAll" (.param "remainingOwners"))]]]

/-- Writes a renamed tag into a certification. -/
def updateCertification : List Stmt :=
  let label := Expr.field "certification.tagLabel"
  [.when ((Expr.field "certification").isThere.both label.isThere)
    (["name", "description", "tagFQN", "style"].map fun key =>
      .assign (.member label key) (.param key))]

/-- Takes derived labels away, and adds labels that are not there yet. -/
def updateDerivedTags (e : Engine) : List Stmt :=
  let tags := Expr.field "tags"
  let fqnOf (name : String) := Expr.member (.var name) "tagFQN"
  [ensureList tags,
    .when (Expr.param "tagDeleted").isThere
      [.each "deleted" (.param "tagDeleted")
        [removeWhere e tags "tag"
          (((fqnOf "tag").equal (fqnOf "deleted")).both
            (Expr.equal (.member (.var "tag") "labelType") (.text "Derived")))]],
    .when (Expr.param "tagAdded").isThere
      [.each "added" (.param "tagAdded")
        [.declare "boolean" "present" (.bool false),
          .each "tag" tags
            [.when ((fqnOf "tag").equal (fqnOf "added")) [.assign (.var "present") (.bool true)]],
          .when (.not (.var "present")) [.run (.callWith tags "add" (.var "added"))]]]]

/-- Changes the labels of one tag. -/
def updateTags : List Stmt :=
  let tags := Expr.field "tags"
  [.when tags.isThere
    [.each "tag" tags
      [.when (Expr.equal (.member (.var "tag") "tagFQN") (.param "tagFQN"))
        [.each "key" (.call (.param "updates") "keySet")
          [.assign (.entry (.var "tag") (.var "key")) (.entry (.param "updates") (.var "key"))]]]]]

/-- Changes the start of the names in a field: of a text, or of one part of each element of a
    list. -/
def renameStart (field : String) : List Stmt :=
  match Text.cutFirst? '.' field.toList with
  | some (list, leaf) =>
    let list := Expr.field (String.ofList list)
    let name := Expr.member (.var "item") (String.ofList leaf)
    [.when list.isThere
      [.each "item" list
        [.when (name.isThere.both (.group name.underOldParent)) [.assign name name.movedName]]]]
  | none =>
    let name := Expr.field field
    [.when (name.isThere.both (.group name.underOldParent)) [.assign name name.movedName]]

/-- Assigns at a dotted path, where the object around it exists. -/
def propagateNested (path name : String) : List Stmt :=
  match Text.cutLast? '.' path.toList with
  | some (outer, _) =>
    [.when (Expr.field (String.ofList outer)).isThere [.assign (.field path) (.paramOf name)]]
  | none => [.assign (.field path) (.paramOf name)]

/-- The code of an operation. -/
def body (e : Engine) : ScriptOp → List Stmt
  | .setUpdatedAt => [.assign (.field "updatedAt") (.param "updatedAt")]
  | .addFollowers =>
    let followers := Expr.field "followers"
    [ensureList followers,
      .each "id" (.param "followers")
        [.when (.not (.callWith followers "contains" (.var "id")))
          [.run (.callWith followers "add" (.var "id"))]]]
  | .removeFollowers =>
    let followers := Expr.field "followers"
    [.when followers.isThere [.run (.callWith followers "removeAll" (.param "removedFollowers"))]]
  | .replaceField name =>
    [.choose (Expr.paramOf name).isNull [dropField name] [.assign (.field name) (.paramOf name)]]
  | .mergeFields =>
    [.each "key" (.call .params "keySet")
      [.assign (.entry .document (.var "key")) (.entry .params (.var "key"))]]
  | .propagateField name => [.assign (.field name) (.paramOf name)]
  | .removePropagatedField name => [dropField name]
  | .propagateReference name =>
    [.when ((Expr.field name).isNull.oneOf
        (Expr.equal (.member (.field name) "inherited") (.bool true)))
      [.assign (.field name) (.paramOf name)]]
  | .updatePropagatedReference name =>
    [.when ((Expr.field name).isNull.oneOf
        (Expr.equal (.member (.field name) "id")
          (.member (.paramOf (name ++ "BeforeUpdate")) "id")))
      [.assign (.field name) (.paramOf name)]]
  | .removePropagatedReference name =>
    [.when ((Expr.field name).isThere.both
        (Expr.equal (.member (.field name) "id") (.member (.paramOf name) "id")))
      [dropField name]]
  | .propagateNested path name => propagateNested path name
  | .propagateTestSuites => [.assign (.field "testSuites") (.param "testSuites")]
  | .addOwners => addOwners e
  | .removeOwners => removeOwners e
  | .updateCertification => updateCertification
  | .updateDerivedTags => updateDerivedTags e
  | .updateTags => updateTags
  | .setDeleted deleted => [.assign (.field "deleted") (.bool deleted)]
  | .flagSoleMember deleted =>
    let dashboards := Expr.field "dashboards"
    [.when (dashboards.isThere.both (Expr.equal (.call dashboards "size") (.number 1)))
      [.assign (.field "deleted") (.bool deleted)]]
  | .endMembership =>
    let dashboards := Expr.field "dashboards"
    [removeWhere e dashboards "dashboard"
        (Expr.equal (.member (.var "dashboard") "id") (.param "dashboardId")),
      .when (dashboards.isThere.both (.call dashboards "isEmpty"))
        [.assign (.field "deleted") (.bool true)]]
  | .removeDomain => [dropField "domain"]
  | .removeDataProduct =>
    [removeWhere e (.field "dataProducts") "product"
      (Expr.equal (.member (.var "product") "fullyQualifiedName") (.param "fqn"))]
  | .removeTags =>
    let name := Expr.member (.var "tag") "tagFQN"
    [removeWhere e (.field "tags") "tag"
      ((name.equal (.param "fqn")).oneOf
        (.callWith name "startsWith" (.op .plus (.param "fqn") (.text "."))))]
  | .removeTestSuite =>
    [removeWhere e (.field "testSuites") "suite"
      (Expr.equal (.member (.var "suite") "id") (.param "testSuiteId"))]
  | .renameStart field => renameStart field

/-! ## §3. Scripts. -/

/-- The language of the code. -/
def scriptLanguage : String := "painless"

/-- The code of a script. -/
def scriptText (e : Engine) (s : Script) : String := Stmt.textAll e (s.ops.flatMap e.body)

/-- A script in the form the engine takes. -/
def encodeScript (e : Engine) (s : Script) : Json :=
  .object
    [("source", .str (e.scriptText s)), ("lang", .str scriptLanguage), ("params", .obj s.params)]

end CatalogIndex.Engine
