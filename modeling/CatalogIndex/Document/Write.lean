/-
  CatalogIndex.Document.Write — how a changed entity reaches its own document.

  Most changes build the document anew.  A few fields can be brought up to date by a script instead:
  followers, who are added and removed one by one, and fields that are copied as a whole.  A script
  is used only if it covers every change, and if the version of the entity follows on the version the
  change was recorded against.

  ## Main definitions

    * `selfPatch?` — the script that covers all changes, if there is one;
    * `planWrite` — script or rebuild.
-/
import CatalogIndex.Entity.Record
import CatalogIndex.Script.Basic

namespace CatalogIndex

/-- How the document of a changed entity is written. -/
inductive DocumentWrite where
  | patch (script : Script)
  | rebuild
  deriving DecidableEq

/-! ## §1. Fields that a script can bring up to date. -/

/-- Fields that are copied as a whole. -/
def copiedFields : List String := ["usageSummary", "votes", "pipelineStatus", "testSuites"]

/-- Whether a field of a type is copied as a whole. -/
def isCopied (entityType field : String) : Bool :=
  copiedFields.contains field || (field == "queryUsedIn" && entityType == "query")

/-- The ids of followers, who come as pointers or as bare ids. -/
def followerIds? (f : FieldChange)
    (read : ∀ {α : Type}, (∀ {ν : Type} [Source ν], ν → Option α) → FieldChange → Outcome α) :
    Option Json :=
  match read (Source.listOf? EntityReference.decode?) f with
  | .ok references => some (.arr (references.map (·.id.toJson)))
  | .error _ =>
    match read (Source.listOf? Source.text?) f with
    | .ok ids => some (Json.strings ids)
    | .error _ => none

/-- Adds a copy of a field of the entity. -/
def copyField (json : Fields) (s : Script) (field : String) : Script :=
  let op := ScriptOp.replaceField field
  let s := if op ∈ s.ops then s else s.push op
  s.setParam field (Json.orNull (Keyed.get? json field))

/-! ## §2. The script. -/

/-- The script extended by an added field. -/
def patchAdded (e : Entity) (s : Script) (f : FieldChange) : Option Script :=
  if f.name = "followers" then
    (followerIds? f FieldChange.newAs).map fun ids =>
      (s.push .addFollowers).setParam "followers" ids
  else if isCopied e.entityType f.name then some (copyField e.toFields s f.name)
  else none

/-- The script extended by an updated field. -/
def patchUpdated (e : Entity) (s : Script) (f : FieldChange) : Option Script :=
  if isCopied e.entityType f.name then some (copyField e.toFields s f.name) else none

/-- The script extended by a deleted field. -/
def patchDeleted (e : Entity) (s : Script) (f : FieldChange) : Option Script :=
  if f.name = "followers" then
    (followerIds? f FieldChange.oldAs).map fun ids =>
      (s.push .removeFollowers).setParam "removedFollowers" ids
  else if isCopied e.entityType f.name then some (copyField e.toFields s f.name)
  else none

/-- The script that covers all changes; `none` if there are none, or if one cannot be covered. -/
def selfPatch? (e : Entity) (c : ChangeDescription) : Option Script :=
  if c.isEmpty then none
  else do
    let start := Script.of .setUpdatedAt [("updatedAt", .int e.updatedAt)]
    let s ← c.fieldsAdded.foldlM (patchAdded e) start
    let s ← c.fieldsUpdated.foldlM (patchUpdated e) s
    c.fieldsDeleted.foldlM (patchDeleted e) s

/-! ## §3. The decision. -/

/-- Whether the version of the entity is the one that its change was recorded against. -/
def isPatchable (e : Entity) : Bool :=
  match e.change with
  | some c => c.previousVersion.same e.version
  | none => false

/-- How the document of a changed entity is written. -/
def planWrite (e : Entity) : DocumentWrite :=
  match e.selectedChange? with
  | none => .rebuild
  | some c =>
    if isPatchable e then
      match selfPatch? e c with
      | some script => .patch script
      | none => .rebuild
    else .rebuild

end CatalogIndex
