/-
  CatalogIndex.Cascade.Update — what follows from a change of an entity.

  Four planners look at a mutation one after the other, and each has nothing to do unless the type of
  the entity and the changed fields concern it.

  ## Main definitions

    * `inheritedFields` — children take over the fields of their parent;
    * `glossaryTags` — documents with a glossary term take over the tags of the term;
    * `certification` — certified documents take over the tag that certifies them;
    * `relatedEntities` — names that start with a name that changed follow the change;
    * `UpdateCascade.plan` — a planner by its name.
-/
import CatalogIndex.Cascade.Inherited
import CatalogIndex.Cascade.Op
import CatalogIndex.Entity.TagLabel

namespace CatalogIndex

namespace Mutation

/-! ## §1. Inherited fields. -/

/-- The documents of children take over the fields that changed.  What is inside a service keeps its
    domain and display name under `service`. -/
def inheritedFields (m : Mutation) : List CascadeOp :=
  match m.change with
  | none => []
  | some c =>
    let update := InheritedUpdate.of c m.entity
    if update.isEmpty || m.children.isEmpty then []
    else
      let underService := (update.touches "domain" || update.touches "displayName")
        && isServiceType m.entity.entityType
      let matcher := if underService then m.idMatch "service.id" else m.parentMatch
      [.update { target := .aliases m.children, matcher, script := update.script }]

/-! ## §2. Tags of a glossary term. -/

/-- The labels of a change, marked as derived. -/
def derivedLabels (labels : Outcome (List TagLabel)) : Outcome Json :=
  labels.map fun labels => .arr (labels.map fun label => label.asDerived.toJson)

/-- The labels under one name: those of the last of the given fields, or none. -/
def lastLabels (read : FieldChange → Outcome (List TagLabel)) (fields : List FieldChange) :
    Outcome Json :=
  fields.foldlM (fun _ f => derivedLabels (read f)) (.arr [])

/-- Documents with a glossary term take over the tags that the term got or lost. -/
def glossaryTags (m : Mutation) : Outcome (List CascadeOp) :=
  match m.change with
  | none => .ok []
  | some c =>
    if !m.entity.hasType "glossaryTerm" then .ok []
    else do
      let tagsOf (fields : List FieldChange) := fields.filter (·.name == "tags")
      let added ←
        lastLabels (·.newAs (Source.listOf? TagLabel.decode?)) (tagsOf c.fieldsAdded)
      let deleted ←
        lastLabels (·.oldAs (Source.listOf? TagLabel.decode?)) (tagsOf c.fieldsDeleted)
      if (tagsOf c.fieldsAdded).isEmpty && (tagsOf c.fieldsDeleted).isEmpty then return []
      let script := Script.of .updateDerivedTags [("tagAdded", added), ("tagDeleted", deleted)]
      return [updateEverywhere "tags.tagFQN" m.entity.fullyQualifiedName script]

/-! ## §3. Certification. -/

/-- The classification whose tags certify. -/
def certifying : String := "Certification"

/-- The classification of a tag: what the entity says, or else the parent of its name. -/
def classification? (json : Fields) (fqn : String) : Option String :=
  let named := (Keyed.get? json "classification").bind fun c =>
    (c.field? "fullyQualifiedName").or (c.field? "name")
  (named.bind Json.asStr?).or (Name.parent? fqn)

/-- The fully qualified name of the entity as it was or is under the given name. -/
def siblingName (fqn name : String) : Outcome String :=
  match Name.parent? fqn with
  | some parent => Name.add parent name
  | none => Name.quote name

/-- Whether the entity is a tag that certifies. -/
def certifies (m : Mutation) : Bool :=
  (classification? m.entity.toFields m.entity.fullyQualifiedName).any
    (Name.unquote · == certifying)

/-- Certified documents take over the name, description and style of the tag. -/
def certification (m : Mutation) : Outcome (List CascadeOp) :=
  match m.change with
  | none => .ok []
  | some c =>
    let shown := ["name", "description", "style", "displayName"].any c.touches
    if !(m.entity.hasType "tag" && m.certifies && shown) then .ok []
    else do
      let fqn := m.entity.fullyQualifiedName
      let renamed := (c.fieldsUpdated.find? (·.name == "name")).bind FieldChange.oldText?
      let matched ← match renamed with
        | some oldName => siblingName fqn oldName
        | none => pure fqn
      let field (key : String) : Json := Json.orNull (Keyed.get? m.entity.toFields key)
      let script := Script.of .updateCertification
        [("name", .str m.entity.name), ("description", field "description"), ("tagFQN", .str fqn),
          ("style", field "style")]
      return [updateEverywhere "certification.tagLabel.tagFQN" matched script]

/-! ## §4. Names that start with a changed name. -/

/-- The name of the parent that a page had before the change. -/
def previousParent (f : FieldChange) : Outcome String := do
  let parent ← f.oldAs EntityReference.decode?
  match parent.fullyQualifiedName with
  | some fqn => .ok fqn
  | none => .error (.namelessPrevious f.name)

/-- A page takes the pages below it along when it gets, changes or loses its parent. -/
def movedPages (m : Mutation) (c : ChangeDescription) : Outcome (List CascadeOp) := do
  let index ← m.registry.index m.entity.entityType
  let name := m.entity.name
  let fqn := m.entity.fullyQualifiedName
  let parentsOf (fields : List FieldChange) := fields.filter (Text.contains ·.name "parent")
  let moved (oldName newName : String) := CascadeOp.rename index oldName newName "fullyQualifiedName"
  let movedFrom (newName : String) (f : FieldChange) : Outcome CascadeOp := do
    let oldName ← Name.add (← previousParent f) name
    return moved oldName newName
  let gained := (parentsOf c.fieldsAdded).map fun _ => moved name fqn
  let changed ← (parentsOf c.fieldsUpdated).mapM (movedFrom fqn)
  let lost ← (parentsOf c.fieldsDeleted).mapM (movedFrom "")
  return gained ++ changed ++ lost

/-- What one updated field of a tag means for the documents that carry it. -/
def tagFieldOps (m : Mutation) (f : FieldChange) : Outcome (List CascadeOp) :=
  let fqn := m.entity.fullyQualifiedName
  if f.name = "name" then
    match f.oldText?, f.newText? with
    | some oldName, some newName => do
      let oldName ← siblingName fqn oldName
      let newName ← siblingName fqn newName
      return [.rename m.registry.globalAlias oldName newName "tags.tagFQN"]
    | _, _ => .ok []
  else if f.name = "displayName" then
    let shown := Json.orNull (f.newText?.map .str)
    let script := Script.of .updateTags
      [("tagFQN", .str fqn), ("updates", .object [("displayName", shown)])]
    .ok [updateEverywhere "tags.tagFQN" fqn script]
  else .ok []

/-- Documents that carry a tag, or something below it, follow its name. -/
def renamedTags (m : Mutation) (c : ChangeDescription) : Outcome (List CascadeOp) :=
  (c.fieldsUpdated.mapM m.tagFieldOps).map List.flatten

/-- The types of things that documents are tagged with. -/
def tagTypes : List String := ["classification", "glossary", "glossaryTerm", "tag"]

/-- Names that start with a changed name follow the change. -/
def relatedEntities (m : Mutation) : Outcome (List CascadeOp) :=
  match m.change with
  | none => .ok []
  | some c =>
    if m.entity.hasType "page" then m.movedPages c
    else if tagTypes.any m.entity.hasType then m.renamedTags c
    else .ok []

end Mutation

/-! ## §5. The planners. -/

/-- A planner of cascades. -/
inductive UpdateCascade where
  | inheritedFields | glossaryTags | certification | relatedEntities
  deriving DecidableEq

namespace UpdateCascade

/-- The planners in the order they are asked. -/
def all : List UpdateCascade := [.inheritedFields, .glossaryTags, .certification, .relatedEntities]

/-- The word for a planner. -/
def word : UpdateCascade → String
  | .inheritedFields => "inherited_fields"
  | .glossaryTags => "glossary_tags"
  | .certification => "certification"
  | .relatedEntities => "related_entities"

/-- What a planner plans. -/
def plan (m : Mutation) : UpdateCascade → Outcome (List CascadeOp)
  | .inheritedFields => .ok m.inheritedFields
  | .glossaryTags => m.glossaryTags
  | .certification => m.certification
  | .relatedEntities => m.relatedEntities

/-- What all planners plan, if none of them fails. -/
def planAll (m : Mutation) : Outcome (List CascadeOp) := (all.mapM (plan m)).map List.flatten

end UpdateCascade

end CatalogIndex
