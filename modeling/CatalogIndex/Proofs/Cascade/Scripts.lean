/-
  CatalogIndex.Proofs.Cascade.Scripts — the scripts that are planned are closed.

  Scripts come from the patch of a document, from the planners of updates, from the rules for deletion and
  from renames.  Whatever an entity holds and whatever has changed, each of these scripts has operations
  for the type of the entity only, and brings the parameters that they read.  Values that cannot be read
  lead to other operations, or to other values of parameters, but to nothing else.

  ## Main definitions

    * `CascadeOp.Closed` — the script of a cascade is closed.

  ## Main results

    * `closed_of_planWrite` — the patch of a document;
    * `InheritedUpdate.closed_of` — the fields that children copy;
    * `UpdateCascade.closed_plan`, `DeleteRules.closed_planDelete`, `DeleteRules.closed_planFlag` — the
      planned cascades.
-/
import CatalogIndex.Cascade.Delete
import CatalogIndex.Cascade.Update
import CatalogIndex.Proofs.Cascade.InheritedFields
import CatalogIndex.Proofs.Cascade.Planned
import CatalogIndex.Proofs.Cascade.Store
import CatalogIndex.Proofs.Document.Coverage
import CatalogIndex.Proofs.Script.Closed

namespace CatalogIndex

variable {entityType : String}

/-! ## §1. The patch of a document. -/

section Patch

variable {e : Entity} {s s' : Script}

theorem closed_copyField {json : Fields} (h : s.Closed entityType) {field : String}
    (hfield : isCopied entityType field = true) : (copyField json s field).Closed entityType := by
  have hop := mem_scriptOps_of_copied hfield
  unfold copyField
  dsimp only
  by_cases hthere : .replaceField field ∈ s.ops
  · rw [if_pos hthere]
    exact h.setParam _ _
  · rw [if_neg hthere]
    exact h.pushWith hop rfl _

theorem closed_patchAdded (h : s.Closed e.entityType) {f : FieldChange}
    (hf : patchAdded e s f = some s') : s'.Closed e.entityType := by
  rcases patchAdded_cases hf with ⟨-, ids, -, rfl⟩ | ⟨hcopied, rfl⟩
  · exact h.pushWith (by simp [scriptOps]) rfl _
  · exact closed_copyField h hcopied

theorem closed_patchUpdated (h : s.Closed e.entityType) {f : FieldChange}
    (hf : patchUpdated e s f = some s') : s'.Closed e.entityType := by
  obtain ⟨hcopied, rfl⟩ := patchUpdated_cases hf
  exact closed_copyField h hcopied

theorem closed_patchDeleted (h : s.Closed e.entityType) {f : FieldChange}
    (hf : patchDeleted e s f = some s') : s'.Closed e.entityType := by
  rcases patchDeleted_cases hf with ⟨-, ids, -, rfl⟩ | ⟨hcopied, rfl⟩
  · exact h.pushWith (by simp [scriptOps]) rfl _
  · exact closed_copyField h hcopied

/-- A script that is closed stays closed field by field. -/
theorem closed_foldlM {step : Script → FieldChange → Option Script}
    (hstep : ∀ s s' f, s.Closed entityType → step s f = some s' → s'.Closed entityType)
    {fs : List FieldChange} (h : s.Closed entityType) (hrun : fs.foldlM step s = some s') :
    s'.Closed entityType := by
  induction fs generalizing s with
  | nil =>
    cases hrun
    exact h
  | cons f rest ih =>
    rw [List.foldlM_cons] at hrun
    obtain ⟨next, hnext, hrun⟩ := Option.bind_eq_some_iff.1 hrun
    exact ih (hstep s next f h hnext) hrun

theorem closed_selfPatch {c : ChangeDescription} (h : selfPatch? e c = some s) :
    s.Closed e.entityType := by
  unfold selfPatch? at h
  split at h
  · cases h
  · obtain ⟨added, hadded, h⟩ := Option.bind_eq_some_iff.1 h
    obtain ⟨updated, hupdated, hdeleted⟩ := Option.bind_eq_some_iff.1 h
    have hstart : (Script.of .setUpdatedAt [("updatedAt", .int e.updatedAt)]).Closed e.entityType :=
      Script.closed_of (by simp [scriptOps]) (by simp [ScriptOp.paramNames])
    have hadded := closed_foldlM (fun _ _ _ h hf => closed_patchAdded h hf) hstart hadded
    have hupdated := closed_foldlM (fun _ _ _ h hf => closed_patchUpdated h hf) hadded hupdated
    exact closed_foldlM (fun _ _ _ h hf => closed_patchDeleted h hf) hupdated hdeleted

/-- **The patch of a document is closed.** -/
theorem closed_of_planWrite (h : planWrite e = .patch s) : s.Closed e.entityType := by
  unfold planWrite at h
  split at h
  · cases h
  · split at h
    · split at h
      · rename_i hpatch
        cases h
        exact closed_selfPatch hpatch
      · cases h
    · cases h

end Patch

/-! ## §2. Inherited fields. -/

namespace InheritedUpdate

variable {e : Entity} {s : Script} {f : FieldChange}

/-- A field that children copy has operations of its own, whatever the type. -/
theorem mem_scriptOps (entityType : String) (hf : isInheritable f.name = true) :
    .propagateField f.name ∈ scriptOps entityType ∧ .removePropagatedField f.name ∈ scriptOps entityType
      ∧ .propagateReference f.name ∈ scriptOps entityType
      ∧ .updatePropagatedReference f.name ∈ scriptOps entityType
      ∧ .removePropagatedReference f.name ∈ scriptOps entityType := by
  refine ⟨?_, ?_, ?_, ?_, ?_⟩ <;> exact mem_scriptOps_of_inheritable hf (by simp [inheritedOps])

theorem closed_assign (hf : isInheritable f.name = true) (h : s.Closed entityType) :
    (assign entityType s f).Closed entityType := by
  unfold assign
  split
  · exact h.pushWith (by simp [scriptOps]) rfl _
  · split
    · rename_i hname
      rw [hname]
      exact h.pushWith (by simp [scriptOps]) rfl _
    · exact h.pushWith (mem_scriptOps entityType hf).1 rfl _

theorem closed_setOwners (h : s.Closed entityType) : (setOwners e s).Closed entityType :=
  h.pushWith (by simp [scriptOps]) rfl _

theorem closed_deleted (hf : isInheritable f.name = true) (h : s.Closed e.entityType) :
    (deleted e s f).Closed e.entityType := by
  obtain ⟨-, hremove, -, -, hremoveReference⟩ := mem_scriptOps e.entityType hf
  unfold deleted
  split
  · exact h.pushWith₂ (by simp [scriptOps]) rfl _ _
  · split
    · exact h.pushWith hremoveReference rfl _
    · exact h.push_of_reads_nothing hremove rfl

theorem closed_updated (hf : isInheritable f.name = true) (h : s.Closed e.entityType) :
    (updated e s f).Closed e.entityType := by
  obtain ⟨-, -, -, hupdate, -⟩ := mem_scriptOps e.entityType hf
  unfold updated
  split
  · exact closed_setOwners h
  · split
    · exact h.pushWith₂ hupdate rfl _ _
    · exact closed_assign hf h

theorem closed_added (hf : isInheritable f.name = true) (h : s.Closed e.entityType) :
    (added e s f).Closed e.entityType := by
  obtain ⟨-, -, hset, -, -⟩ := mem_scriptOps e.entityType hf
  unfold added
  split
  · exact closed_setOwners h
  · split
    · exact h.pushWith hset rfl _
    · exact closed_assign hf h

/-- **The script for the fields that children copy is closed.** -/
theorem closed_of (c : ChangeDescription) (e : Entity) : (of c e).script.Closed e.entityType := by
  have hcollected : (collected c e).Closed e.entityType :=
    keeps_collected (P := Script.Closed e.entityType) (Script.closed_start e.entityType [])
      (fun _ _ => closed_deleted) (fun _ _ => closed_updated) (fun _ _ => closed_added)
  rw [script_of]
  exact hcollected.of_subset fun op hop => mem_dropRepeats.1 hop

end InheritedUpdate

/-! ## §3. Planned cascades. -/

/-- The script of the cascade, if it has one, is closed. -/
def CascadeOp.Closed (entityType : String) (op : CascadeOp) : Prop :=
  ∀ s, op.script? = some s → s.Closed entityType

namespace Mutation

variable {m : Mutation} {ops : List CascadeOp}

/-! ### Forms of cascades. -/

theorem closed_update {u : PartialUpdate} (h : u.script.Closed entityType) :
    (CascadeOp.update u).Closed entityType := by
  intro s hs
  cases hs
  exact h

theorem closed_deleteMatching (aliases : List String) (matchers : List FieldMatch) :
    (CascadeOp.deleteMatching aliases matchers).Closed entityType := by
  intro s hs
  cases hs

theorem closed_flagMatching (aliases : List String) (matchers : List FieldMatch)
    (h : Script.Closed entityType s) : (CascadeOp.flagMatching aliases matchers s).Closed entityType := by
  intro s' hs
  cases hs
  exact h

/-- Names are changed in the labels of tags, and in the names of pages. -/
theorem closed_rename (index oldStart newStart : String) {field : String}
    (hfield : field = "tags.tagFQN" ∨ field = "fullyQualifiedName") :
    (CascadeOp.rename index oldStart newStart field).Closed entityType := by
  intro s hs
  cases hs
  refine Script.closed_of ?_ (by simp [ScriptOp.paramNames])
  rcases hfield with rfl | rfl
  · simp [scriptOps]
  · simp [scriptOps]

theorem closed_deleteChildren (matcher : FieldMatch) :
    ∀ op ∈ m.deleteChildren matcher, op.Closed entityType := by
  intro op hop
  unfold deleteChildren at hop
  split at hop
  · cases hop
  · rw [List.mem_singleton.1 hop]
    exact closed_deleteMatching _ _

theorem closed_flagChildren (matcher : FieldMatch) {s : Script} (h : s.Closed entityType) :
    ∀ op ∈ m.flagChildren matcher s, op.Closed entityType := by
  intro op hop
  unfold flagChildren at hop
  split at hop
  · cases hop
  · rw [List.mem_singleton.1 hop]
    exact closed_flagMatching _ _ h

/-! ### Updates. -/

theorem closed_inheritedFields : ∀ op ∈ m.inheritedFields, op.Closed m.entity.entityType := by
  intro op hop
  unfold inheritedFields at hop
  split at hop
  · cases hop
  · dsimp only at hop
    split at hop
    · cases hop
    · rw [List.mem_singleton.1 hop]
      exact closed_update (InheritedUpdate.closed_of _ _)

theorem closed_glossaryTags (h : m.glossaryTags = .ok ops) : ∀ op ∈ ops, op.Closed entityType := by
  intro op hop
  unfold glossaryTags at h
  split at h
  · cases h
    cases hop
  · dsimp only at h
    split at h
    · cases h
      cases hop
    · obtain ⟨added, -, h⟩ := Outcome.bind_eq_ok h
      obtain ⟨deleted, -, h⟩ := Outcome.bind_eq_ok h
      split at h
      · cases h
        cases hop
      · cases h
        rw [List.mem_singleton.1 hop]
        exact closed_update (Script.closed_of (by simp [scriptOps]) (by simp [ScriptOp.paramNames]))

theorem closed_certification (h : m.certification = .ok ops) :
    ∀ op ∈ ops, op.Closed entityType := by
  intro op hop
  unfold certification at h
  split at h
  · cases h
    cases hop
  · dsimp only at h
    split at h
    · cases h
      cases hop
    · -- the name before a change is matched with, and is no part of the script
      split at h
      · obtain ⟨matched, -, h⟩ := Outcome.bind_eq_ok h
        cases h
        rw [List.mem_singleton.1 hop]
        exact closed_update (Script.closed_of (by simp [scriptOps]) (by simp [ScriptOp.paramNames]))
      · cases h
        rw [List.mem_singleton.1 hop]
        exact closed_update (Script.closed_of (by simp [scriptOps]) (by simp [ScriptOp.paramNames]))

theorem closed_tagFieldOps {f : FieldChange} (h : m.tagFieldOps f = .ok ops) :
    ∀ op ∈ ops, op.Closed entityType := by
  intro op hop
  unfold tagFieldOps at h
  dsimp only at h
  split at h
  · split at h
    · obtain ⟨oldName, -, h⟩ := Outcome.bind_eq_ok h
      obtain ⟨newName, -, h⟩ := Outcome.bind_eq_ok h
      cases h
      rw [List.mem_singleton.1 hop]
      exact closed_rename _ _ _ (Or.inl rfl)
    · cases h
      cases hop
  · split at h
    · cases h
      rw [List.mem_singleton.1 hop]
      exact closed_update (Script.closed_of (by simp [scriptOps]) (by simp [ScriptOp.paramNames]))
    · cases h
      cases hop

theorem closed_relatedEntities (h : m.relatedEntities = .ok ops) :
    ∀ op ∈ ops, op.Closed entityType := by
  intro op hop
  unfold relatedEntities at h
  split at h
  · cases h
    cases hop
  · split at h
    · obtain ⟨index, oldName, newName, -, rfl⟩ := mem_movedPages h hop
      exact closed_rename _ _ _ (Or.inr rfl)
    · split at h
      · obtain ⟨parts, hparts, rfl⟩ := Outcome.map_eq_ok h
        obtain ⟨part, hpart, hop⟩ := List.mem_flatten.1 hop
        obtain ⟨f, -, hf⟩ := Outcome.mem_of_mapM_eq_ok hparts hpart
        exact closed_tagFieldOps hf op hop
      · cases h
        cases hop

/-! ### Deletions. -/

theorem closed_onDelete (rule : DeleteRule) : ∀ op ∈ rule.onDelete m, op.Closed entityType := by
  intro op hop
  cases rule with
  | byParent => exact closed_deleteChildren _ op hop
  | service => exact closed_deleteChildren _ op hop
  | domain =>
    rcases List.mem_cons.1 hop with rfl | hop
    · exact closed_update (Script.closed_of (by simp [scriptOps]) (by simp [ScriptOp.paramNames]))
    · exact closed_deleteChildren _ op hop
  | dataProduct =>
    rw [List.mem_singleton.1 hop]
    exact closed_update (Script.closed_of (by simp [scriptOps]) (by simp [ScriptOp.paramNames]))
  | tag =>
    rw [List.mem_singleton.1 hop]
    exact closed_update (Script.closed_of (by simp [scriptOps]) (by simp [ScriptOp.paramNames]))
  | dashboard =>
    refine closed_flagChildren _ ?_ op hop
    exact Script.closed_of (by simp [scriptOps]) (by simp [ScriptOp.paramNames])
  | testSuite =>
    change op ∈ m.deleteTestSuite at hop
    unfold deleteTestSuite at hop
    dsimp only at hop
    split at hop
    · exact closed_deleteChildren _ op hop
    · split at hop
      · cases hop
      · rw [List.mem_singleton.1 hop]
        exact closed_update (Script.closed_of (by simp [scriptOps]) (by simp [ScriptOp.paramNames]))

theorem closed_setDeleted (deleted : Bool) :
    (Script.of (.setDeleted deleted)).Closed entityType := by
  refine Script.closed_of ?_ (by simp [ScriptOp.paramNames])
  cases deleted <;> simp [scriptOps]

theorem closed_flagSoleMember (deleted : Bool) :
    (Script.of (.flagSoleMember deleted)).Closed entityType := by
  refine Script.closed_of ?_ (by simp [ScriptOp.paramNames])
  cases deleted <;> simp [scriptOps]

theorem closed_onFlag (rule : DeleteRule) (deleted : Bool) :
    ∀ op ∈ rule.onFlag m deleted, op.Closed entityType := by
  cases rule with
  | dashboard => exact closed_flagChildren _ (closed_flagSoleMember deleted)
  | byParent | domain | dataProduct | tag | testSuite | service =>
    exact closed_flagChildren _ (closed_setDeleted deleted)

end Mutation

open Mutation

/-- **What a planner of updates plans is closed.** -/
theorem UpdateCascade.closed_plan {m : Mutation} {cascade : UpdateCascade} {ops : List CascadeOp}
    (h : cascade.plan m = .ok ops) : ∀ op ∈ ops, op.Closed m.entity.entityType := by
  cases cascade with
  | inheritedFields =>
    cases h
    exact closed_inheritedFields
  | glossaryTags => exact closed_glossaryTags h
  | certification => exact closed_certification h
  | relatedEntities => exact closed_relatedEntities h

/-- **What a rule plans for a deletion is closed**, whichever rule the type has. -/
theorem DeleteRules.closed_planDelete (rs : DeleteRules) (m : Mutation) :
    ∀ op ∈ rs.planDelete m, op.Closed m.entity.entityType :=
  closed_onDelete (rs.rule m.entity.entityType)

/-- **What a rule plans for a flag is closed**, whichever rule the type has. -/
theorem DeleteRules.closed_planFlag (rs : DeleteRules) (m : Mutation) (deleted : Bool) :
    ∀ op ∈ rs.planFlag m deleted, op.Closed m.entity.entityType :=
  closed_onFlag (rs.rule m.entity.entityType) deleted

end CatalogIndex
