/-
  CatalogIndex.Proofs.Cascade.Destination — where planned writes go.

  A planner has no names of its own to write to.  It sends a write to all documents of the deployment,
  to the aliases of the children of the mapping, or, when pages move, to the index of their type.  All
  of these are names of the deployment, since the registry is where they come from.

  ## Main definitions

    * `Mutation.Destination` — the three places.

  ## Main results

    * `destination_plan`, `destination_planDelete`, `destination_planFlag` — planned writes go there;
    * `Destination.ownName` — these are names of the deployment.
-/
import CatalogIndex.Proofs.Cascade.Reach

namespace CatalogIndex

namespace Mutation

/-- The places that planned writes go to. -/
inductive Destination (m : Mutation) : List String → Prop where
  | everywhere : Destination m [m.registry.globalAlias]
  | children : Destination m m.children
  | index {name : String} (h : m.registry.index m.entity.entityType = .ok name) : Destination m [name]

variable {m : Mutation} {ops : List CascadeOp}

/-! ## §1. Updates. -/

theorem destination_renamedTags {c : ChangeDescription} (h : m.renamedTags c = .ok ops) :
    ∀ op ∈ ops, m.Destination (op.targets m.registry) := by
  intro op hop
  obtain ⟨parts, hparts, rfl⟩ := renamedTags_cases h
  obtain ⟨part, hpart, hop⟩ := List.mem_flatten.1 hop
  obtain ⟨f, -, hf⟩ := Outcome.mem_of_mapM_eq_ok (Outcome.mapM_eq_ok_iff.2 hparts) hpart
  -- a new name is a rename, and a new display name an update, of all documents
  rcases tagFieldOps_cases hf with ⟨-, _, _, _, -, -, rfl⟩ | ⟨-, _, rfl⟩ | ⟨-, -, rfl⟩
  · rw [List.mem_singleton.1 hop]
    exact .everywhere
  · rw [List.mem_singleton.1 hop]
    exact .everywhere
  · cases hop

theorem destination_relatedEntities (h : m.relatedEntities = .ok ops) :
    ∀ op ∈ ops, m.Destination (op.targets m.registry) := by
  intro op hop
  unfold relatedEntities at h
  split at h
  · cases h
    cases hop
  · split at h
    · obtain ⟨index, _, _, hindex, rfl⟩ := mem_movedPages h hop
      exact .index hindex
    · split at h
      · exact destination_renamedTags h op hop
      · cases h
        cases hop

theorem destination_glossaryTags (h : m.glossaryTags = .ok ops) :
    ∀ op ∈ ops, m.Destination (op.targets m.registry) := by
  intro op hop
  cases hc : m.change with
  | none =>
    unfold glossaryTags at h
    rw [hc] at h
    cases h
    cases hop
  | some c =>
    rcases glossaryTags_cases hc h with ⟨-, _, rfl⟩ | ⟨-, rfl⟩
    · rw [List.mem_singleton.1 hop]
      exact .everywhere
    · cases hop

/-- **The writes of every planner of updates go to one of the places.** -/
theorem destination_plan {cascade : UpdateCascade} (h : cascade.plan m = .ok ops) :
    ∀ op ∈ ops, m.Destination (op.targets m.registry) := by
  cases cascade with
  | inheritedFields =>
    cases h
    intro op hop
    obtain ⟨-, _, _, -, -, rfl⟩ := mem_inheritedFields hop
    exact .children
  | glossaryTags => exact destination_glossaryTags h
  | certification =>
    intro op hop
    rcases certification_cases h with rfl | ⟨_, _, rfl⟩
    · cases hop
    · rw [List.mem_singleton.1 hop]
      exact .everywhere
  | relatedEntities => exact destination_relatedEntities h

/-! ## §2. Removals. -/

theorem RemovalWrite.destination {rs : DeleteRules} {op : CascadeOp} (h : RemovalWrite rs m op) :
    m.Destination (op.targets m.registry) := by
  cases h with
  | strip script hrule => exact .everywhere
  | detach field script => exact .everywhere
  | detachChildren field script hchildren => exact .children
  | delete field hchildren => exact .children
  | flag field script hchildren => exact .children

theorem destination_planDelete (rs : DeleteRules) :
    ∀ op ∈ rs.planDelete m, m.Destination (op.targets m.registry) :=
  fun _ hop => (DeleteRules.removalWrite_planDelete hop).destination

theorem destination_planFlag (rs : DeleteRules) (deleted : Bool) :
    ∀ op ∈ rs.planFlag m deleted, m.Destination (op.targets m.registry) := by
  intro op hop
  obtain ⟨-, _, _, rfl⟩ := DeleteRules.flag_of_mem_planFlag hop
  exact .children

/-! ## §3. Names. -/

/-- **The places are names of the deployment.** -/
theorem Destination.ownName {targets : List String} (h : m.Destination targets)
    (hmapping : m.mapping.CommaFree) (hmappings : ∀ entry ∈ m.registry.mappings, entry.2.CommaFree) :
    ∀ name ∈ targets, OwnName m.registry.clusterAlias name := by
  intro name hname
  cases h with
  | everywhere =>
    rw [List.mem_singleton.1 hname]
    exact m.registry.ownName_globalAlias
  | children => exact hmapping.ownName_children _ name hname
  | index hindex =>
    rw [List.mem_singleton.1 hname]
    exact Registry.ownName_index hmappings hindex

end Mutation

end CatalogIndex
