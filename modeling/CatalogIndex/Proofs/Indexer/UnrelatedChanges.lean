/-
  CatalogIndex.Proofs.Indexer.UnrelatedChanges — changes that nothing follows from.

  Each planner of an update has its own types and its own fields, and reads the values of a change only
  where the change names one of these fields.  A change that names none of them leaves all planners
  silent: they plan nothing, and they do not fail either, however its values are shaped.  Then an update
  is its first write and nothing else, whatever the cluster answers.

  ## Main definitions

    * `Entity.Unrelated` — a change that no planner is concerned with.

  ## Main results

    * `plan_unrelated` — of such a change, each planner plans nothing;
    * `unrelated_sends_nothing` — an update with such a change sends no request but the first.
-/
import CatalogIndex.Proofs.Indexer.Isolation

namespace CatalogIndex

/-! ## §1. Changes without consequences. -/

/-- The change names no field that children inherit, and none that documents copy from an entity of this
    type.  Types are compared without regard to case. -/
structure Entity.Unrelated (e : Entity) (c : ChangeDescription) : Prop where
  inherited : ∀ field ∈ inheritableFields, c.touches field = false
  /-- Tags of a glossary term that stay, with whatever values, are not passed on. -/
  termTags : e.hasType "glossaryTerm" = true →
    ∀ f ∈ c.fieldsAdded ++ c.fieldsDeleted, f.name ≠ "tags"
  certified : e.hasType "tag" = true →
    ∀ field ∈ ["name", "description", "style"], c.touches field = false
  /-- A name that is added or taken away is no rename. -/
  renamed : ["classification", "glossary", "glossaryTerm"].any e.hasType = true →
    ∀ f ∈ c.fieldsUpdated, f.name ≠ "name"
  moved : e.hasType "page" = true → ∀ f ∈ c.all, Text.contains f.name "parent" = false

open ChangeDescription

namespace Mutation

variable {m : Mutation} {c : ChangeDescription}

/-! ## §2. The planners. -/

/-- No change of a field that children inherit: there is nothing to tell them. -/
theorem inheritedFields_unrelated (hc : m.change = some c)
    (h : ∀ field ∈ inheritableFields, c.touches field = false) : m.inheritedFields = [] := by
  have hnone : ∀ f ∈ c.all, isInheritable f.name = false := by
    intro f hf
    refine Bool.eq_false_iff.2 fun hinheritable => ?_
    have htouches := h f.name (List.contains_iff_mem.1 hinheritable)
    exact touches_eq_false_iff.1 htouches f hf rfl
  obtain ⟨hadded, hupdated, hdeleted⟩ := filter_eq_nil hnone
  have hempty : (InheritedUpdate.of c m.entity).isEmpty = true := by
    unfold InheritedUpdate.of InheritedUpdate.relevant
    rw [hadded, hupdated, hdeleted]
    rfl
  unfold inheritedFields
  rw [hc]
  dsimp only
  rw [hempty, Bool.true_or, if_pos rfl]

/-- No tags that a glossary term got or lost: no labels are read, so none can be malformed. -/
theorem glossaryTags_unrelated (hc : m.change = some c)
    (h : m.entity.hasType "glossaryTerm" = true →
      ∀ f ∈ c.fieldsAdded ++ c.fieldsDeleted, f.name ≠ "tags") :
    m.glossaryTags = .ok [] := by
  unfold glossaryTags
  rw [hc]
  dsimp only
  cases hterm : m.entity.hasType "glossaryTerm" with
  | false => rfl
  | true =>
    have hnone : (c.fieldsAdded ++ c.fieldsDeleted).filter (·.name == "tags") = [] :=
      List.filter_eq_nil_iff.2 fun f hf htags => h hterm f hf (beq_iff_eq.1 htags)
    rw [List.filter_append, List.append_eq_nil_iff] at hnone
    obtain ⟨hadded, hdeleted⟩ := hnone
    simp only [hadded, hdeleted]
    rfl

/-- Nothing that certified documents show of a tag: the old name of the tag is not asked for. -/
theorem certification_unrelated (hc : m.change = some c) (h : m.entity.Unrelated c) :
    m.certification = .ok [] := by
  unfold certification
  rw [hc]
  dsimp only
  cases htag : m.entity.hasType "tag" with
  | false => rfl
  | true =>
    have hshown : ["name", "description", "style", "displayName"].any c.touches = false := by
      rw [List.any_eq_false]
      intro field hfield
      rw [Bool.not_eq_true]
      rcases List.mem_append.1 (show field ∈ ["name", "description", "style"] ++ ["displayName"]
        from hfield) with hown | hdisplay
      · exact h.certified htag field hown
      · exact h.inherited field (List.mem_singleton.1 hdisplay ▸ by decide)
    rw [hshown, Bool.and_false]
    rfl

/-- No parent among the changed fields: a page of a type with a mapping stays where it is. -/
theorem movedPages_unrelated (hm : m.registry.mapping? m.entity.entityType = some m.mapping)
    (h : ∀ f ∈ c.all, Text.contains f.name "parent" = false) : m.movedPages c = .ok [] := by
  have hindex : m.registry.index m.entity.entityType = .ok (m.mapping.index m.registry.clusterAlias) := by
    unfold Registry.index Registry.require
    rw [hm]
    rfl
  obtain ⟨hadded, hupdated, hdeleted⟩ := filter_eq_nil h
  unfold movedPages
  rw [hindex]
  dsimp only [bind, Except.bind]
  rw [hadded, hupdated, hdeleted]
  rfl

/-- No name and no display name among the updated fields: documents keep their tags as they are. -/
theorem renamedTags_unrelated (h : ∀ f ∈ c.fieldsUpdated, f.name ≠ "name" ∧ f.name ≠ "displayName") :
    m.renamedTags c = .ok [] := by
  have hparts : List.Forall₂ (fun f part => m.tagFieldOps f = .ok part) c.fieldsUpdated
      (c.fieldsUpdated.map fun _ => []) := by
    rw [List.forall₂_map_right_iff, List.forall₂_same]
    intro f hf
    obtain ⟨hname, hdisplay⟩ := h f hf
    unfold tagFieldOps
    dsimp only
    rw [if_neg hname, if_neg hdisplay]
  have hflat : (c.fieldsUpdated.map fun _ => ([] : List CascadeOp)).flatten = [] := by
    simp
  unfold renamedTags
  rw [Outcome.mapM_eq_ok_iff.2 hparts]
  exact congrArg Except.ok hflat

theorem relatedEntities_unrelated (hm : m.registry.mapping? m.entity.entityType = some m.mapping)
    (hc : m.change = some c) (h : m.entity.Unrelated c) : m.relatedEntities = .ok [] := by
  unfold relatedEntities
  rw [hc]
  dsimp only
  split
  · rename_i hpage
    exact movedPages_unrelated hm (h.moved hpage)
  · split
    · rename_i htype
      refine renamedTags_unrelated fun f hf => ?_
      have hall : f ∈ c.all := mem_all_of_updated hf
      have hdisplay : f.name ≠ "displayName" :=
        touches_eq_false_iff.1 (h.inherited "displayName" (by decide)) f hall
      -- a tag is told apart from the other types: it may not have a name in any list
      rw [show tagTypes = ["classification", "glossary", "glossaryTerm"] ++ ["tag"] from rfl,
        List.any_append, Bool.or_eq_true] at htype
      rcases htype with hnamed | htag
      · exact ⟨h.renamed hnamed f hf, hdisplay⟩
      · have htag : m.entity.hasType "tag" = true := by simpa using htag
        exact ⟨touches_eq_false_iff.1 (h.certified htag "name" List.mem_cons_self) f hall, hdisplay⟩
    · rfl

end Mutation

namespace UpdateCascade

variable {m : Mutation}

/-- Without a change there is nothing to plan. -/
theorem plan_unchanged (hc : m.change = none) (cascade : UpdateCascade) : cascade.plan m = .ok [] := by
  obtain ⟨registry, mapping, entity, change⟩ := m
  cases hc
  cases cascade <;> rfl

/-- **Of an unrelated change, each planner plans nothing.** -/
theorem plan_unrelated (hm : m.registry.mapping? m.entity.entityType = some m.mapping)
    (h : ∀ c, m.change = some c → m.entity.Unrelated c) (cascade : UpdateCascade) :
    cascade.plan m = .ok [] := by
  cases hc : m.change with
  | none => exact plan_unchanged hc cascade
  | some c =>
    have hc' := h c hc
    cases cascade with
    | inheritedFields => exact congrArg Except.ok (Mutation.inheritedFields_unrelated hc hc'.inherited)
    | glossaryTags => exact Mutation.glossaryTags_unrelated hc hc'.termTags
    | certification => exact Mutation.certification_unrelated hc hc'
    | relatedEntities => exact Mutation.relatedEntities_unrelated hm hc hc'

theorem planAll_unrelated (hm : m.registry.mapping? m.entity.entityType = some m.mapping)
    (h : ∀ c, m.change = some c → m.entity.Unrelated c) : planAll m = .ok [] := by
  have hplan : plan m = fun _ => .ok [] := funext (plan_unrelated hm h)
  unfold planAll
  rw [hplan]
  rfl

end UpdateCascade

/-! ## §3. The update. -/

namespace EntityWrite

variable {σ : Type} {e : Entity} {i : Indexer σ} {m : IndexMapping}

/-- An update with an unrelated change has plans, and all of them are empty. -/
theorem plans_unrelated (hm : i.registry.mapping? e.entityType = some m)
    (h : ∀ c, e.selectedChange? = some c → e.Unrelated c) :
    EntityWrite.update.plans e i m = UpdateCascade.all.map fun cascade => (cascade.word, .ok []) := by
  refine List.map_congr_left fun cascade _ => ?_
  rw [UpdateCascade.plan_unrelated hm h cascade]

/-- An update with an unrelated change sends its first request, if there is one, and leaves the counters
    of cascades alone. -/
theorem update_unrelated (hm : i.registry.mapping? e.entityType = some m)
    (h : ∀ c, e.selectedChange? = some c → e.Unrelated c) (b : Backend σ) (s : Session σ) :
    (EntityWrite.update.after e i b s).link.sent
        = s.link.sent ++ (EntityWrite.update.primary e i).toOption.toList
      ∧ (EntityWrite.update.after e i b s).stats.cascades = s.stats.cascades
      ∧ (EntityWrite.update.after e i b s).stats.cascadeFailures = s.stats.cascadeFailures := by
  have hplans := plans_unrelated hm h
  have hrequests : EntityWrite.update.cascadeRequests e i m = [] := by
    unfold cascadeRequests
    rw [hplans]
    rfl
  have hfailed : failedPlans (EntityWrite.update.plans e i m) = 0 := by
    rw [hplans]
    rfl
  by_cases hpasses : Passes b s (EntityWrite.update.primary e i) EntityWrite.update.accepts
  · obtain ⟨first, hfirst, -⟩ := id hpasses
    have hrun := cascaded_of_passes hfirst hm hpasses
    have hcounts := hrun.counts
    rw [hrequests, hfailed] at hcounts
    -- the write itself is a patch or a rebuild, and neither counts as a cascade
    have hcounted : (EntityWrite.update.counted e s.stats).cascades = s.stats.cascades
        ∧ (EntityWrite.update.counted e s.stats).cascadeFailures = s.stats.cascadeFailures := by
      unfold counted
      split <;> exact ⟨rfl, rfl⟩
    refine ⟨?_, hcounts.cascades.trans hcounted.1, hcounts.cascadeFailures.trans hcounted.2⟩
    rw [hrun.sent, hrequests, hfirst]
    rfl
  · rcases EntityWrite.update.run_program e { i with backend := b } s with ⟨h, -⟩ | ⟨-, failure, hrun⟩
    · exact absurd h hpasses
    · have hafter : EntityWrite.update.after e i b s
          = { link := s.link.afterPlanned b (EntityWrite.update.primary e i)
              stats := s.stats.addWriteFailure failure } := hrun
      rw [hafter]
      exact ⟨Link.afterAll_sent b s.link _, rfl, rfl⟩

end EntityWrite

/-- **Nothing follows from an unrelated change.**  For an entity of a type with a mapping, and a change
    that no planner is concerned with, or none at all, the planners plan nothing, and none of them fails.
    An update with this change sends the write of the entity's own document and no other request,
    whatever the backend replies, and it moves no counter of cascades. -/
theorem unrelated_sends_nothing {e : Entity} {r : Registry} {m : IndexMapping}
    {change : Option ChangeDescription} (hm : r.mapping? e.entityType = some m)
    (h : ∀ c, change = some c → e.Unrelated c) :
    UpdateCascade.planAll { registry := r, mapping := m, entity := e, change } = .ok []
      ∧ ∀ (σ : Type) (i : Indexer σ) (b : Backend σ) (s : Session σ), i.registry = r →
          e.selectedChange? = change →
          (EntityWrite.update.after e i b s).link.sent
              = s.link.sent ++ (EntityWrite.update.primary e i).toOption.toList
            ∧ (EntityWrite.update.after e i b s).stats.cascades = s.stats.cascades
            ∧ (EntityWrite.update.after e i b s).stats.cascadeFailures = s.stats.cascadeFailures := by
  refine ⟨UpdateCascade.planAll_unrelated hm h, fun σ i b s hr hchange => ?_⟩
  subst hr hchange
  exact EntityWrite.update_unrelated hm h b s

/-- A glossary term got a name without a value, has a number for tags, and lost a style: one request is
    sent, whatever the backend makes of it. -/
theorem unrelated_sends_nothing_term :
    let change : ChangeDescription :=
      { fieldsAdded := [{ name := "name" }]
        fieldsUpdated := [{ name := "tags", newValue := some (.nat 3) }]
        fieldsDeleted := [{ name := "style" }] }
    let e : Entity :=
      { id := .nil, entityType := "glossaryTerm", name := "Price", fullyQualifiedName := "Sales.Price"
        version := .zero, updatedAt := 1, change := some change }
    let mapping : IndexMapping := { indexName := "glossary_term_index", indexMappingFile := "" }
    let r : Registry :=
      { mappings := [("glossaryTerm", mapping)], clusterAlias := "", language := "en", schemaRoot := "" }
    let i : Indexer Nat :=
      { config := {}, registry := r, fileText := fun _ => none
        backend := fun _ n => (.error (.outside .io "lost"), n) }
    UpdateCascade.planAll { registry := r, mapping, entity := e, change := some change } = .ok []
      ∧ ∀ b : Backend Nat,
          (EntityWrite.update.after e i b { link := { state := 0 } }).link.sent.length = 1 := by
  intro change e mapping r i
  have hunrelated : e.Unrelated change := {
    inherited := by decide
    termTags := by decide
    certified := by decide
    renamed := by decide
    moved := by decide }
  obtain ⟨hplan, hrun⟩ := @unrelated_sends_nothing e r mapping (some change) rfl
    fun c hc => Option.some.inj hc ▸ hunrelated
  refine ⟨hplan, fun b => ?_⟩
  have hfirst : (EntityWrite.update.primary e i).toOption.toList.length = 1 := by decide +kernel
  rw [(hrun Nat i b { link := { state := 0 } } rfl rfl).1, List.length_append, hfirst]
  rfl

end CatalogIndex
