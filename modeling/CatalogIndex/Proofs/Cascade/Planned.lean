/-
  CatalogIndex.Proofs.Cascade.Planned — what the planners plan.

  A planner either has nothing to do, or fails, or plans writes of a known form.  One lemma per
  planner says which writes these are; what holds of planned writes is then proved form by form.  The
  first such property is that planning never asks for a write that the client would not send.

  ## Main definitions

    * `CascadeOp.matchers` — what planned writes select documents by.

  ## Main results

    * `filter_eq_nil`, `filter_eq_singleton_cases` — fields that a change does not have, or has once;
    * `tagFieldOps_cases`, `glossaryTags_cases`, `certification_cases` — the planned writes;
    * `sendable_plan`, `sendable_planDelete`, `sendable_planFlag` — planned writes have something to
      do.
-/
import CatalogIndex.Cascade.Delete
import CatalogIndex.Cascade.Update
import CatalogIndex.Proofs.Cluster.Asks
import CatalogIndex.Proofs.Outcome

namespace CatalogIndex

/-- The fields by which a write selects documents. -/
def CascadeOp.matchers : CascadeOp → List FieldMatch
  | .update u => [u.matcher]
  | .deleteMatching _ ms | .flagMatching _ ms _ => ms
  | .rename .. => []

/-! ## §1. The fields of a change. -/

namespace ChangeDescription

variable {c : ChangeDescription}

theorem touches_eq_false_iff {field : String} : c.touches field = false ↔ ∀ f ∈ c.all, f.name ≠ field := by
  unfold touches
  simp

theorem mem_all_of_updated {f : FieldChange} (h : f ∈ c.fieldsUpdated) : f ∈ c.all :=
  List.mem_append_left _ (List.mem_append_right _ h)

/-- What is not among all changed fields is in none of the three lists. -/
theorem filter_eq_nil {p : FieldChange → Bool} (h : ∀ f ∈ c.all, p f = false) :
    c.fieldsAdded.filter p = [] ∧ c.fieldsUpdated.filter p = [] ∧ c.fieldsDeleted.filter p = [] := by
  have hall : c.all.filter p = [] :=
    List.filter_eq_nil_iff.2 fun f hf => Bool.eq_false_iff.1 (h f hf)
  unfold all at hall
  rw [List.filter_append, List.filter_append, List.append_eq_nil_iff, List.append_eq_nil_iff] at hall
  obtain ⟨⟨hadded, hupdated⟩, hdeleted⟩ := hall
  exact ⟨hadded, hupdated, hdeleted⟩

/-- A field that stands in one of the three lists, and nowhere else. -/
theorem filter_eq_singleton_cases {p : FieldChange → Bool} {f : FieldChange} (h : c.all.filter p = [f]) :
    (c.fieldsAdded.filter p = [f] ∧ c.fieldsUpdated.filter p = [] ∧ c.fieldsDeleted.filter p = [])
      ∨ (c.fieldsAdded.filter p = [] ∧ c.fieldsUpdated.filter p = [f] ∧ c.fieldsDeleted.filter p = [])
      ∨ (c.fieldsAdded.filter p = [] ∧ c.fieldsUpdated.filter p = [] ∧ c.fieldsDeleted.filter p = [f]) := by
  unfold all at h
  rw [List.filter_append, List.filter_append] at h
  rcases List.append_eq_singleton_iff.1 h with ⟨hfront, hdeleted⟩ | ⟨hfront, hdeleted⟩
  · obtain ⟨hadded, hupdated⟩ := List.append_eq_nil_iff.1 hfront
    exact Or.inr (Or.inr ⟨hadded, hupdated, hdeleted⟩)
  · rcases List.append_eq_singleton_iff.1 hfront with ⟨hadded, hupdated⟩ | ⟨hadded, hupdated⟩
    · exact Or.inr (Or.inl ⟨hadded, hupdated, hdeleted⟩)
    · exact Or.inl ⟨hadded, hupdated, hdeleted⟩

theorem mem_of_filter_eq_singleton {p : FieldChange → Bool} {fields : List FieldChange} {f : FieldChange}
    (h : fields.filter p = [f]) : f ∈ fields ∧ p f = true := by
  have hmem : f ∈ fields.filter p := by
    rw [h]
    exact List.mem_singleton_self f
  exact List.mem_filter.1 hmem

end ChangeDescription

namespace Mutation

variable {m : Mutation} {ops : List CascadeOp}

/-! ## §2. The planners of updates. -/

/-- Inherited fields are sent to the children, if there are any and there is something to send. -/
theorem mem_inheritedFields {op : CascadeOp} (h : op ∈ m.inheritedFields) :
    m.children ≠ [] ∧ ∃ matcher script, (matcher = m.idMatch "service.id" ∨ matcher = m.parentMatch)
      ∧ script.isEmpty = false
      ∧ op = .update { target := .aliases m.children, matcher, script } := by
  unfold inheritedFields at h
  split at h
  · cases h
  · rename_i c hc
    dsimp only at h
    split at h
    · cases h
    · rename_i hsome
      rw [Bool.or_eq_true, not_or] at hsome
      obtain ⟨hscript, hchildren⟩ := hsome
      refine ⟨fun hnil => hchildren (List.isEmpty_iff.2 hnil), _, _, ?_, Bool.eq_false_iff.2 hscript,
        List.mem_singleton.1 h⟩
      split
      · exact Or.inl rfl
      · exact Or.inr rfl

/-- The entity is a glossary term that got or lost tags. -/
def TermTagsChanged (m : Mutation) (c : ChangeDescription) : Prop :=
  m.entity.hasType "glossaryTerm" = true
    ∧ ∃ f ∈ c.fieldsAdded ++ c.fieldsDeleted, f.name = "tags"

/-- Tags that a glossary term got or lost are sent to all documents that carry the term. -/
theorem glossaryTags_cases {c : ChangeDescription} (hc : m.change = some c)
    (h : m.glossaryTags = .ok ops) :
    (m.TermTagsChanged c ∧ ∃ params, ops = [updateEverywhere "tags.tagFQN"
        m.entity.fullyQualifiedName (Script.of .updateDerivedTags params)])
      ∨ (¬ m.TermTagsChanged c ∧ ops = []) := by
  unfold glossaryTags at h
  rw [hc] at h
  dsimp only at h
  split at h
  · rename_i htype
    cases h
    refine Or.inr ⟨fun hchanged => ?_, rfl⟩
    rw [hchanged.1] at htype
    cases htype
  · rename_i htype
    rw [Bool.not_eq_true, Bool.not_eq_false'] at htype
    obtain ⟨added, -, h⟩ := Outcome.bind_eq_ok h
    obtain ⟨deleted, -, h⟩ := Outcome.bind_eq_ok h
    have hnone : ∀ fs : List FieldChange, (fs.filter (·.name == "tags")).isEmpty = true
        ↔ ¬ ∃ f ∈ fs, f.name = "tags" := by
      intro fs
      simp [List.filter_eq_nil_iff]
    split at h
    · rename_i hempty
      cases h
      rw [Bool.and_eq_true, hnone, hnone] at hempty
      refine Or.inr ⟨fun hchanged => ?_, rfl⟩
      obtain ⟨f, hf, hname⟩ := hchanged.2
      rcases List.mem_append.1 hf with hf | hf
      · exact hempty.1 ⟨f, hf, hname⟩
      · exact hempty.2 ⟨f, hf, hname⟩
    · rename_i hsome
      cases h
      refine Or.inl ⟨⟨htype, ?_⟩, _, rfl⟩
      rw [Bool.and_eq_true, hnone, hnone, ← not_or, not_not] at hsome
      rcases hsome with ⟨f, hf, hname⟩ | ⟨f, hf, hname⟩
      · exact ⟨f, List.mem_append_left _ hf, hname⟩
      · exact ⟨f, List.mem_append_right _ hf, hname⟩

/-- A certifying tag that changed is sent to all documents that carry it. -/
theorem certification_cases (h : m.certification = .ok ops) :
    ops = [] ∨ ∃ fqn params, ops = [updateEverywhere "certification.tagLabel.tagFQN" fqn
      (Script.of .updateCertification params)] := by
  unfold certification at h
  split at h
  · cases h
    exact Or.inl rfl
  · dsimp only at h
    split at h
    · cases h
      exact Or.inl rfl
    · -- the name to match is the old one after a rename, and the current one otherwise
      split at h
      · obtain ⟨fqn, -, h⟩ := Outcome.bind_eq_ok h
        cases h
        exact Or.inr ⟨fqn, _, rfl⟩
      · cases h
        exact Or.inr ⟨_, _, rfl⟩

/-- The field is a name with an old and a new text. -/
def Renames (f : FieldChange) : Prop :=
  f.name = "name" ∧ f.oldText?.isSome = true ∧ f.newText?.isSome = true

/-- A new name is a rename from the old one, a new display name goes to all documents that carry the
    tag, and other fields do not matter. -/
theorem tagFieldOps_cases {f : FieldChange} (h : m.tagFieldOps f = .ok ops) :
    (Renames f ∧ ∃ oldName newText newName, f.newText? = some newText
        ∧ siblingName m.entity.fullyQualifiedName newText = .ok newName
        ∧ ops = [.rename m.registry.globalAlias oldName newName "tags.tagFQN"])
      ∨ (f.name = "displayName" ∧ ∃ params, ops = [updateEverywhere "tags.tagFQN"
          m.entity.fullyQualifiedName (Script.of .updateTags params)])
      ∨ (¬ Renames f ∧ f.name ≠ "displayName" ∧ ops = []) := by
  unfold tagFieldOps at h
  dsimp only at h
  split at h
  · rename_i hname
    have hshown : f.name ≠ "displayName" := by
      rw [hname]
      decide
    split at h
    · rename_i oldText newText hold hnew
      obtain ⟨oldName, -, h⟩ := Outcome.bind_eq_ok h
      obtain ⟨newName, hnewName, h⟩ := Outcome.bind_eq_ok h
      cases h
      exact Or.inl ⟨⟨hname, by rw [hold]; rfl, by rw [hnew]; rfl⟩, oldName, newText, newName, hnew,
        hnewName, rfl⟩
    · rename_i hmissing
      cases h
      refine Or.inr (Or.inr ⟨fun hrenames => ?_, hshown, rfl⟩)
      obtain ⟨oldText, hold⟩ := Option.isSome_iff_exists.1 hrenames.2.1
      obtain ⟨newText, hnew⟩ := Option.isSome_iff_exists.1 hrenames.2.2
      exact hmissing _ _ hold hnew
  · rename_i hname
    split at h
    · rename_i hshown
      cases h
      exact Or.inr (Or.inl ⟨hshown, _, rfl⟩)
    · rename_i hshown
      cases h
      exact Or.inr (Or.inr ⟨fun hrenames => hname hrenames.1, hshown, rfl⟩)

/-- The writes for the updated fields of a tag, field by field. -/
theorem renamedTags_cases {c : ChangeDescription} (h : m.renamedTags c = .ok ops) :
    ∃ parts, List.Forall₂ (fun f part => m.tagFieldOps f = .ok part) c.fieldsUpdated parts
      ∧ ops = parts.flatten := by
  obtain ⟨parts, hparts, rfl⟩ := Outcome.map_eq_ok h
  exact ⟨parts, Outcome.mapM_eq_ok_iff.1 hparts, rfl⟩

/-- Pages are moved by renaming only, in the index of their type. -/
theorem mem_movedPages {c : ChangeDescription} (h : m.movedPages c = .ok ops) {op : CascadeOp}
    (hop : op ∈ ops) :
    ∃ index oldName newName, m.registry.index m.entity.entityType = .ok index
      ∧ op = .rename index oldName newName "fullyQualifiedName" := by
  unfold movedPages at h
  obtain ⟨index, hindex, h⟩ := Outcome.bind_eq_ok h
  obtain ⟨changed, hchanged, h⟩ := Outcome.bind_eq_ok h
  obtain ⟨lost, hlost, h⟩ := Outcome.bind_eq_ok h
  cases h
  rcases List.mem_append.1 hop with hop | hop
  · rcases List.mem_append.1 hop with hop | hop
    · obtain ⟨f, -, rfl⟩ := List.mem_map.1 hop
      exact ⟨index, _, _, hindex, rfl⟩
    · obtain ⟨f, -, hf⟩ := Outcome.mem_of_mapM_eq_ok hchanged hop
      obtain ⟨parent, -, hf⟩ := Outcome.bind_eq_ok hf
      obtain ⟨oldName, -, hf⟩ := Outcome.bind_eq_ok hf
      cases hf
      exact ⟨index, _, _, hindex, rfl⟩
  · obtain ⟨f, -, hf⟩ := Outcome.mem_of_mapM_eq_ok hlost hop
    obtain ⟨parent, -, hf⟩ := Outcome.bind_eq_ok hf
    obtain ⟨oldName, -, hf⟩ := Outcome.bind_eq_ok hf
    cases hf
    exact ⟨index, _, _, hindex, rfl⟩

/-! ## §3. Planned writes have something to do. -/

theorem sendable_updateEverywhere (r : Registry) (field value : String) {script : Script}
    (h : script.isEmpty = false) : (updateEverywhere field value script).Sendable r :=
  ⟨List.cons_ne_nil _ _, h⟩

theorem sendable_rename (r : Registry) (index oldStart newStart field : String) :
    (CascadeOp.rename index oldStart newStart field).Sendable r :=
  ⟨List.cons_ne_nil _ _, trivial⟩

theorem sendable_deleteChildren (matcher : FieldMatch) :
    ∀ op ∈ m.deleteChildren matcher, op.Sendable m.registry := by
  intro op hop
  unfold deleteChildren at hop
  split at hop
  · cases hop
  · rename_i hchildren
    rw [List.mem_singleton.1 hop]
    exact ⟨fun hnil => hchildren (List.isEmpty_iff.2 hnil), List.cons_ne_nil _ _⟩

theorem sendable_flagChildren (matcher : FieldMatch) {script : Script}
    (hscript : script.isEmpty = false) :
    ∀ op ∈ m.flagChildren matcher script, op.Sendable m.registry := by
  intro op hop
  unfold flagChildren at hop
  split at hop
  · cases hop
  · rename_i hchildren
    rw [List.mem_singleton.1 hop]
    exact ⟨fun hnil => hchildren (List.isEmpty_iff.2 hnil), hscript⟩

theorem sendable_relatedEntities (h : m.relatedEntities = .ok ops) :
    ∀ op ∈ ops, op.Sendable m.registry := by
  intro op hop
  unfold relatedEntities at h
  split at h
  · cases h
    cases hop
  · rename_i c hc
    split at h
    · obtain ⟨index, oldName, newName, -, rfl⟩ := mem_movedPages h hop
      exact sendable_rename _ _ _ _ _
    · split at h
      · obtain ⟨parts, hparts, rfl⟩ := renamedTags_cases h
        obtain ⟨part, hpart, hop⟩ := List.mem_flatten.1 hop
        obtain ⟨f, -, hf⟩ := Outcome.mem_of_mapM_eq_ok (Outcome.mapM_eq_ok_iff.2 hparts) hpart
        rcases tagFieldOps_cases hf with ⟨-, _, _, _, -, -, rfl⟩ | ⟨-, _, rfl⟩ | ⟨-, -, rfl⟩
        · rw [List.mem_singleton.1 hop]
          exact sendable_rename _ _ _ _ _
        · rw [List.mem_singleton.1 hop]
          exact sendable_updateEverywhere _ _ _ rfl
        · cases hop
      · cases h
        cases hop

end Mutation

open Mutation

/-- What all planners plan is what each of them plans, in their order. -/
theorem UpdateCascade.planAll_eq_ok {m : Mutation} {ops : List CascadeOp} (h : planAll m = .ok ops) :
    ∃ tags certified related, m.glossaryTags = .ok tags ∧ m.certification = .ok certified
      ∧ m.relatedEntities = .ok related
      ∧ ops = m.inheritedFields ++ (tags ++ (certified ++ related)) := by
  obtain ⟨parts, hparts, rfl⟩ := Outcome.map_eq_ok h
  have hall := Outcome.mapM_eq_ok_iff.1 hparts
  clear h hparts
  cases hall with | cons hinherited hall =>
  cases hall with | cons htags hall =>
  cases hall with | cons hcertified hall =>
  cases hall with | cons hrelated hall =>
  cases hall
  cases hinherited
  exact ⟨_, _, _, htags, hcertified, hrelated, by simp⟩

/-- **Every write that a planner of updates plans has something to do.** -/
theorem UpdateCascade.sendable_plan {m : Mutation} {cascade : UpdateCascade} {ops : List CascadeOp}
    (h : cascade.plan m = .ok ops) : ∀ op ∈ ops, op.Sendable m.registry := by
  intro op hop
  cases cascade with
  | inheritedFields =>
    cases h
    obtain ⟨hchildren, matcher, script, -, hscript, rfl⟩ := mem_inheritedFields hop
    exact ⟨hchildren, hscript⟩
  | glossaryTags =>
    change m.glossaryTags = .ok ops at h
    cases hc : m.change with
    | none =>
      unfold Mutation.glossaryTags at h
      rw [hc] at h
      cases h
      cases hop
    | some c =>
      rcases glossaryTags_cases hc h with ⟨-, params, rfl⟩ | ⟨-, rfl⟩
      · rw [List.mem_singleton.1 hop]
        exact sendable_updateEverywhere _ _ _ rfl
      · cases hop
  | certification =>
    rcases certification_cases h with rfl | ⟨fqn, params, rfl⟩
    · cases hop
    · rw [List.mem_singleton.1 hop]
      exact sendable_updateEverywhere _ _ _ rfl
  | relatedEntities => exact sendable_relatedEntities h op hop

/-- **Every write that a rule plans for a deletion has something to do.** -/
theorem DeleteRules.sendable_planDelete (rs : DeleteRules) (m : Mutation) :
    ∀ op ∈ rs.planDelete m, op.Sendable m.registry := by
  intro op hop
  unfold planDelete at hop
  cases hrule : rs.rule m.entity.entityType with
  | byParent =>
    rw [hrule] at hop
    exact sendable_deleteChildren _ op hop
  | domain =>
    rw [hrule] at hop
    rcases List.mem_cons.1 hop with rfl | hop
    · exact ⟨List.cons_ne_nil _ _, rfl⟩
    · exact sendable_deleteChildren _ op hop
  | dataProduct =>
    rw [hrule] at hop
    rw [List.mem_singleton.1 hop]
    exact ⟨List.cons_ne_nil _ _, rfl⟩
  | tag =>
    rw [hrule] at hop
    rw [List.mem_singleton.1 hop]
    exact sendable_updateEverywhere _ _ _ rfl
  | dashboard =>
    rw [hrule] at hop
    exact sendable_flagChildren _ rfl op hop
  | testSuite =>
    rw [hrule] at hop
    change op ∈ m.deleteTestSuite at hop
    unfold deleteTestSuite at hop
    dsimp only at hop
    split at hop
    · exact sendable_deleteChildren _ op hop
    · split at hop
      · cases hop
      · rename_i hchildren
        rw [List.mem_singleton.1 hop]
        exact ⟨fun hnil => hchildren (List.isEmpty_iff.2 hnil), rfl⟩
  | service =>
    rw [hrule] at hop
    exact sendable_deleteChildren _ op hop

/-- **Every write that a rule plans for a flag has something to do.** -/
theorem DeleteRules.sendable_planFlag (rs : DeleteRules) (m : Mutation) (deleted : Bool) :
    ∀ op ∈ rs.planFlag m deleted, op.Sendable m.registry := by
  intro op hop
  unfold planFlag at hop
  -- every rule flags children, and only the match and the script differ
  cases hrule : rs.rule m.entity.entityType <;> rw [hrule] at hop
  all_goals exact sendable_flagChildren _ rfl op hop

end CatalogIndex
