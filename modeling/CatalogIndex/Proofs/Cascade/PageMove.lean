/-
  CatalogIndex.Proofs.Cascade.PageMove — from where pages are moved.

  When a page gets, changes or loses its parent, the pages below it follow: names that start with the
  name it had before get another start.  That name is the name of the page added to the parent before
  the change, or standing alone.  A page that had a parent is looked for under exactly that name.  One
  that had none is looked for under its name without quotes, and if its name needs them, nothing is found
  there.

  ## Main definitions

    * `HadParent` — the parent before a change.

  ## Main results

    * `movedPages_gained`, `movedPages_changed`, `movedPages_lost` — the planned move;
    * `moved_from_previous_iff` — exactly when the move starts at the previous name;
    * `quoted_page_not_moved` — a page for which it does not.
-/
import CatalogIndex.Proofs.Cascade.Planned
import CatalogIndex.Proofs.Name.Parent

namespace CatalogIndex

open ChangeDescription

namespace Mutation

variable {m : Mutation} {c : ChangeDescription} {f : FieldChange} {index parent old : String}

/-! ## §1. The parent before a change. -/

/-- What a change says about the parent. -/
def parentFields (fields : List FieldChange) : List FieldChange :=
  fields.filter (Text.contains ·.name "parent")

/-- Whether there was a parent before, and with which name: none before one was added, and else the
    old value tells. -/
def HadParent (c : ChangeDescription) (f : FieldChange) : Option String → Prop
  | none => f ∈ c.fieldsAdded
  | some parent => f ∈ c.fieldsUpdated ++ c.fieldsDeleted
    ∧ ∃ r, f.oldAs EntityReference.decode? = .ok r ∧ r.fullyQualifiedName = some parent

/-- A list with the only field about the parent has a field about the parent. -/
theorem parentFields_ne_nil (honce : parentFields c.all = [f]) {fields : List FieldChange}
    (hf : f ∈ fields) : parentFields fields ≠ [] := by
  refine List.ne_nil_of_mem (List.mem_filter.2 ⟨hf, ?_⟩)
  exact (mem_of_filter_eq_singleton honce).2

theorem previousParent_eq {r : EntityReference} (hr : f.oldAs EntityReference.decode? = .ok r)
    (hparent : r.fullyQualifiedName = some parent) : previousParent f = .ok parent := by
  unfold previousParent
  simp only [hr, hparent, bind, Except.bind]

/-- A page without a parent before gets one. -/
theorem HadParent.gained (h : HadParent c f none) (honce : parentFields c.all = [f]) :
    parentFields c.fieldsAdded = [f] ∧ parentFields c.fieldsUpdated = []
      ∧ parentFields c.fieldsDeleted = [] := by
  have hsome := parentFields_ne_nil honce h
  rcases filter_eq_singleton_cases honce with hgained | ⟨hnone, -⟩ | ⟨hnone, -⟩
  · exact hgained
  · exact absurd hnone hsome
  · exact absurd hnone hsome

/-- A page with a parent before changes or loses it, and the old value has its name. -/
theorem HadParent.changed_or_lost (h : HadParent c f (some parent)) (honce : parentFields c.all = [f]) :
    previousParent f = .ok parent
      ∧ ((parentFields c.fieldsAdded = [] ∧ parentFields c.fieldsUpdated = [f]
          ∧ parentFields c.fieldsDeleted = [])
        ∨ (parentFields c.fieldsAdded = [] ∧ parentFields c.fieldsUpdated = []
          ∧ parentFields c.fieldsDeleted = [f])) := by
  obtain ⟨hf, r, hr, hname⟩ := h
  refine ⟨previousParent_eq hr hname, ?_⟩
  rcases filter_eq_singleton_cases honce with ⟨-, hupdated, hdeleted⟩ | hother
  · rcases List.mem_append.1 hf with hf | hf
    · exact absurd hupdated (parentFields_ne_nil honce hf)
    · exact absurd hdeleted (parentFields_ne_nil honce hf)
  · exact hother

/-! ## §2. The planned move. -/

theorem relatedEntities_page (hc : m.change = some c) (hpage : m.entity.hasType "page" = true) :
    m.relatedEntities = m.movedPages c := by
  unfold relatedEntities
  rw [hc]
  dsimp only
  rw [if_pos hpage]

variable (hindex : m.registry.index m.entity.entityType = .ok index)

include hindex

/-- A page that gets a parent is looked for under its own name, as it is. -/
theorem movedPages_gained (hadded : parentFields c.fieldsAdded = [f])
    (hupdated : parentFields c.fieldsUpdated = []) (hdeleted : parentFields c.fieldsDeleted = []) :
    m.movedPages c = .ok [.rename index m.entity.name m.entity.fullyQualifiedName "fullyQualifiedName"] := by
  unfold movedPages
  unfold parentFields at hadded hupdated hdeleted
  dsimp only
  rw [hindex, hadded, hupdated, hdeleted]
  rfl

/-- A page that changes its parent is looked for under the one before. -/
theorem movedPages_changed (hadded : parentFields c.fieldsAdded = [])
    (hupdated : parentFields c.fieldsUpdated = [f]) (hdeleted : parentFields c.fieldsDeleted = [])
    (hparent : previousParent f = .ok parent) (hold : Name.add parent m.entity.name = .ok old) :
    m.movedPages c = .ok [.rename index old m.entity.fullyQualifiedName "fullyQualifiedName"] := by
  unfold movedPages
  unfold parentFields at hadded hupdated hdeleted
  simp only [hindex, hadded, hupdated, hdeleted, List.mapM_cons, hparent, hold, bind, Except.bind]
  rfl

/-- So is a page that loses its parent, and the start is taken away. -/
theorem movedPages_lost (hadded : parentFields c.fieldsAdded = [])
    (hupdated : parentFields c.fieldsUpdated = []) (hdeleted : parentFields c.fieldsDeleted = [f])
    (hparent : previousParent f = .ok parent) (hold : Name.add parent m.entity.name = .ok old) :
    m.movedPages c = .ok [.rename index old "" "fullyQualifiedName"] := by
  unfold movedPages
  unfold parentFields at hadded hupdated hdeleted
  simp only [hindex, hadded, hupdated, hdeleted, List.mapM_cons, hparent, hold, bind, Except.bind]
  rfl

end Mutation

open Mutation

/-- **When a page is moved from the name it had.**  Whatever a change says about the parent of a page, one
    rename is planned in the index of the page.  It starts at the previous name of the page exactly if
    the page had a parent, or if its name is a segment as it stands; otherwise it misses every page at
    or below the previous name. -/
theorem moved_from_previous_iff {m : Mutation} {c : ChangeDescription} {f : FieldChange}
    {index previous : String} {before : Option String} (hc : m.change = some c)
    (hpage : m.entity.hasType "page" = true)
    (hindex : m.registry.index m.entity.entityType = .ok index)
    (honce : parentFields c.all = [f]) (hbefore : HadParent c f before)
    (hprevious : Name.add (before.getD "") m.entity.name = .ok previous) :
    ∃ oldName newName,
      m.relatedEntities = .ok [.rename index oldName newName "fullyQualifiedName"]
      ∧ (oldName = previous ↔ before.isSome = true ∨ Name.quote m.entity.name = .ok m.entity.name)
      ∧ (oldName ≠ previous →
          ∀ fqn, Name.AtOrBelow previous fqn → ¬ Name.AtOrBelow oldName fqn) := by
  rw [relatedEntities_page hc hpage]
  cases before with
  | none =>
    have hquote : Name.quote m.entity.name = .ok previous := by
      obtain ⟨segment, hsegment, rfl⟩ := Name.add_eq_ok hprevious
      exact hsegment
    obtain ⟨hadded, hupdated, hdeleted⟩ := hbefore.gained honce
    refine ⟨_, _, movedPages_gained hindex hadded hupdated hdeleted, ?_, fun hne => ?_⟩
    · rw [hquote]
      constructor
      · rintro rfl
        exact Or.inr rfl
      · rintro (hsome | hsame)
        · cases hsome
        · exact (Except.ok.inj hsame).symm
    · exact fun fqn => Name.not_atOrBelow_of_quote hquote (Ne.symm hne)
  | some parent =>
    -- whether the parent changed or went, the rename starts at the previous name
    have hsame : (previous = previous ↔ (some parent).isSome = true
        ∨ Name.quote m.entity.name = .ok m.entity.name) := ⟨fun _ => Or.inl rfl, fun _ => rfl⟩
    obtain ⟨hparent, hlists⟩ := hbefore.changed_or_lost honce
    rcases hlists with ⟨hadded, hupdated, hdeleted⟩ | ⟨hadded, hupdated, hdeleted⟩
    · exact ⟨_, _, movedPages_changed hindex hadded hupdated hdeleted hparent hprevious, hsame,
        fun hne => absurd rfl hne⟩
    · exact ⟨_, _, movedPages_lost hindex hadded hupdated hdeleted hparent hprevious, hsame,
        fun hne => absurd rfl hne⟩

/-- A page with a dot in its name, and what a change says about its parent. -/
def versionPage (change : ChangeDescription) : Mutation where
  registry :=
    { mappings := [("page", { indexName := "page_search_index", aliasName := "page", indexMappingFile := "" })]
      clusterAlias := "", language := "en", schemaRoot := "" }
  mapping := { indexName := "page_search_index", aliasName := "page", indexMappingFile := "" }
  entity :=
    { id := .nil, entityType := "page", name := "v1.2", fullyQualifiedName := "root.\"v1.2\""
      version := .zero, updatedAt := 1 }
  change := some change

/-- The parent of a page, as a change tells it. -/
def parentField (before after : Option Json) : FieldChange :=
  { name := "parent", oldValue := before, newValue := after }

/-- A pointer to a page with the given name. -/
def pageReference (fqn : String) : EntityReference :=
  { id := .nil, entityType := "page", fullyQualifiedName := some fqn }

/-- A page below a page with a dot in its name is moved to another parent. -/
theorem moved_from_previous_iff_quoted :
    let f := parentField (some (pageReference "\"a.b\"").toJson) (some (pageReference "root").toJson)
    let m := versionPage { fieldsUpdated := [f] }
    Name.add "\"a.b\"" m.entity.name = .ok "\"a.b\".\"v1.2\""
      ∧ ∃ newName, m.relatedEntities
        = .ok [.rename "page_search_index" "\"a.b\".\"v1.2\"" newName "fullyQualifiedName"] := by
  intro f m
  have hindex : m.registry.index m.entity.entityType = .ok "page_search_index" := by decide +kernel
  have honce : parentFields [f] = [f] := by decide +kernel
  have hbefore : HadParent { fieldsUpdated := [f] } f (some "\"a.b\"") :=
    ⟨List.mem_singleton_self f, pageReference "\"a.b\"", by decide +kernel, rfl⟩
  have hprevious : Name.add "\"a.b\"" m.entity.name = .ok "\"a.b\".\"v1.2\"" := by decide +kernel
  obtain ⟨oldName, newName, hplan, hiff, -⟩ :=
    moved_from_previous_iff (m := m) rfl (by decide) hindex honce hbefore hprevious
  rw [hiff.2 (Or.inl rfl)] at hplan
  exact ⟨hprevious, newName, hplan⟩

/-- **A page that is not moved from the name it had**: it had no parent, so its name was the quoted
    segment alone, and the rename starts at the name without quotes. -/
theorem quoted_page_not_moved :
    let f := parentField none (some (pageReference "root").toJson)
    let m := versionPage { fieldsAdded := [f] }
    Name.add "" m.entity.name = .ok "\"v1.2\""
      ∧ m.relatedEntities
        = .ok [.rename "page_search_index" "v1.2" "root.\"v1.2\"" "fullyQualifiedName"]
      ∧ ¬ Name.AtOrBelow "v1.2" "\"v1.2\"" := by
  decide +kernel

end CatalogIndex
