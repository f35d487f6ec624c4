/-
  CatalogIndex.Proofs.Cascade.RenameOrder — whether a rename comes before what relies on it.

  When a tag is renamed, the documents that carry it get its new name by a rename; and whatever else
  a change brings for these documents is sent to those that carry the new name.  So the rename has
  to come first.  The planners do not see to that: tags of a glossary term are planned before names,
  and the updated fields of a tag are planned in the order in which they are listed.

  ## Main definitions

    * `CascadeOp.SelectsTag`, `CascadeOp.GivesTag` — writes to documents with a tag, and writes after
      which documents have it;
    * `RenameFirst` — no write to documents with a tag comes before one that gives it.

  ## Main results

    * `renameFirst_iff` — exactly which changes are planned in that order;
    * `displayName_before_rename` — a change that is not.
-/
import CatalogIndex.Proofs.Cascade.Planned

namespace CatalogIndex

/-! ## §1. Writes to documents with a tag. -/

namespace CascadeOp

/-- The write goes to the documents that have the tag. -/
def SelectsTag (fqn : String) (op : CascadeOp) : Prop := ⟨"tags.tagFQN", fqn⟩ ∈ op.matchers

/-- The write gives the tag its name in documents that have it under another one. -/
def GivesTag (fqn : String) (op : CascadeOp) : Prop :=
  ∃ index oldStart, op = .rename index oldStart fqn "tags.tagFQN"

theorem selectsTag_updateEverywhere {fqn field value : String} {script : Script} :
    SelectsTag fqn (Mutation.updateEverywhere field value script)
      ↔ field = "tags.tagFQN" ∧ value = fqn := by
  unfold SelectsTag Mutation.updateEverywhere matchers
  rw [List.mem_singleton, FieldMatch.mk.injEq, eq_comm, @eq_comm _ fqn]

theorem not_givesTag_update {fqn : String} (u : PartialUpdate) : ¬ GivesTag fqn (.update u) := by
  rintro ⟨index, oldStart, h⟩
  cases h

theorem not_selectsTag_rename {fqn : String} (index oldStart newStart field : String) :
    ¬ SelectsTag fqn (.rename index oldStart newStart field) := List.not_mem_nil

end CascadeOp

open CascadeOp

/-- No write to the documents with a tag comes before a write that gives the tag its name. -/
def RenameFirst (fqn : String) (ops : List CascadeOp) : Prop :=
  ops.Pairwise fun a b => SelectsTag fqn a → ¬ GivesTag fqn b

namespace RenameFirst

variable {fqn : String} {xs ys : List CascadeOp}

/-- Writes in front that do not go to documents with the tag make no difference. -/
theorem append_iff_of_not_selects (h : ∀ x ∈ xs, ¬ SelectsTag fqn x) :
    RenameFirst fqn (xs ++ ys) ↔ RenameFirst fqn ys := by
  unfold RenameFirst
  rw [List.pairwise_append]
  refine ⟨fun hall => hall.2.1, fun hys => ⟨?_, hys, ?_⟩⟩
  · exact List.pairwise_of_forall_mem_list fun a ha b _ hselects => absurd hselects (h a ha)
  · exact fun a ha b _ hselects => absurd hselects (h a ha)

/-- One write in front that does. -/
theorem cons_iff_of_selects {x : CascadeOp} (h : SelectsTag fqn x) :
    RenameFirst fqn (x :: ys) ↔ (∀ y ∈ ys, ¬ GivesTag fqn y) ∧ RenameFirst fqn ys := by
  unfold RenameFirst
  rw [List.pairwise_cons]
  refine and_congr_left fun _ => ?_
  exact ⟨fun hall y hy => hall y hy h, fun hall y hy _ => hall y hy⟩

end RenameFirst

/-! ## §2. The fields of a change. -/

namespace Mutation

variable {m : Mutation} {ops : List CascadeOp}

/-- The field is a name with an old and a new text, and the new one leads to the name of the tag. -/
def RenamesTag (m : Mutation) (f : FieldChange) : Prop :=
  Renames f ∧ ∃ newText, f.newText? = some newText
    ∧ siblingName m.entity.fullyQualifiedName newText = .ok m.entity.fullyQualifiedName

/-- Of the writes for one field, exactly that for a new display name goes to documents with the
    tag. -/
theorem exists_selectsTag_iff {f : FieldChange} (h : m.tagFieldOps f = .ok ops) :
    (∃ op ∈ ops, SelectsTag m.entity.fullyQualifiedName op) ↔ f.name = "displayName" := by
  rcases tagFieldOps_cases h with ⟨hrenames, _, _, _, -, -, rfl⟩ | ⟨hname, _, rfl⟩ | ⟨-, hname, rfl⟩
  · constructor
    · rintro ⟨op, hop, hselects⟩
      rw [List.mem_singleton.1 hop] at hselects
      exact absurd hselects (not_selectsTag_rename _ _ _ _)
    · intro hname
      rw [hrenames.1] at hname
      exact absurd hname (by decide)
  · refine ⟨fun _ => hname, fun _ => ⟨_, List.mem_singleton_self _, ?_⟩⟩
    exact selectsTag_updateEverywhere.2 ⟨rfl, rfl⟩
  · constructor
    · rintro ⟨op, hop, -⟩
      cases hop
    · exact fun h => absurd h hname

/-- Of the writes for one field, exactly that for a new name gives documents the tag. -/
theorem exists_givesTag_iff {f : FieldChange} (h : m.tagFieldOps f = .ok ops) :
    (∃ op ∈ ops, GivesTag m.entity.fullyQualifiedName op) ↔ m.RenamesTag f := by
  rcases tagFieldOps_cases h with
    ⟨hrenames, oldName, newText, newName, hnewText, hnewName, rfl⟩ | ⟨hname, _, rfl⟩ | ⟨hnot, -, rfl⟩
  · constructor
    · rintro ⟨op, hop, index, oldStart, rfl⟩
      cases List.mem_singleton.1 hop
      exact ⟨hrenames, newText, hnewText, hnewName⟩
    · rintro ⟨-, newText', hnewText', hnewName'⟩
      rw [hnewText] at hnewText'
      cases hnewText'
      rw [hnewName] at hnewName'
      cases hnewName'
      exact ⟨_, List.mem_singleton_self _, _, _, rfl⟩
  · constructor
    · rintro ⟨op, hop, hgives⟩
      rw [List.mem_singleton.1 hop] at hgives
      exact absurd hgives (not_givesTag_update _)
    · intro hrenames
      rw [hrenames.1.1] at hname
      exact absurd hname (by decide)
  · constructor
    · rintro ⟨op, hop, -⟩
      cases hop
    · exact fun hrenames => absurd hrenames.1 hnot

/-- The writes for one field are at most one. -/
theorem tagFieldOps_pairwise {f : FieldChange} (h : m.tagFieldOps f = .ok ops) (fqn : String) :
    RenameFirst fqn ops := by
  unfold RenameFirst
  rcases tagFieldOps_cases h with ⟨-, _, _, _, -, -, rfl⟩ | ⟨-, _, rfl⟩ | ⟨-, -, rfl⟩
  · exact List.pairwise_singleton _ _
  · exact List.pairwise_singleton _ _
  · exact List.Pairwise.nil

/-- The writes for the updated fields of a tag give documents the tag if one of the fields does. -/
theorem exists_givesTag_flatten_iff {fs : List FieldChange} {parts : List (List CascadeOp)}
    (h : List.Forall₂ (fun f part => m.tagFieldOps f = .ok part) fs parts) :
    (∃ op ∈ parts.flatten, GivesTag m.entity.fullyQualifiedName op) ↔ ∃ f ∈ fs, m.RenamesTag f := by
  induction h with
  | nil => simp
  | cons hhead _ ih =>
    have hfirst := exists_givesTag_iff hhead
    constructor
    · rintro ⟨op, hop, hgives⟩
      rcases List.mem_append.1 hop with hop | hop
      · exact ⟨_, List.mem_cons_self, hfirst.1 ⟨op, hop, hgives⟩⟩
      · obtain ⟨f, hf, hrenames⟩ := ih.1 ⟨op, hop, hgives⟩
        exact ⟨f, List.mem_cons_of_mem _ hf, hrenames⟩
    · rintro ⟨f, hf, hrenames⟩
      rcases List.mem_cons.1 hf with rfl | hf
      · obtain ⟨op, hop, hgives⟩ := hfirst.2 hrenames
        exact ⟨op, List.mem_append_left _ hop, hgives⟩
      · obtain ⟨op, hop, hgives⟩ := ih.2 ⟨f, hf, hrenames⟩
        exact ⟨op, List.mem_append_right _ hop, hgives⟩

/-- **The writes for the updated fields of a tag are in the order of the fields.** -/
theorem renameFirst_flatten_iff {fs : List FieldChange} {parts : List (List CascadeOp)}
    (h : List.Forall₂ (fun f part => m.tagFieldOps f = .ok part) fs parts) :
    RenameFirst m.entity.fullyQualifiedName parts.flatten
      ↔ fs.Pairwise fun f g => f.name = "displayName" → ¬ m.RenamesTag g := by
  induction h with
  | nil => exact ⟨fun _ => List.Pairwise.nil, fun _ => List.Pairwise.nil⟩
  | @cons f part fs parts hhead htail ih =>
    have hgives := exists_givesTag_flatten_iff htail
    have hselects := exists_selectsTag_iff hhead
    rw [List.pairwise_cons, ← ih]
    unfold RenameFirst
    rw [List.flatten_cons, List.pairwise_append]
    constructor
    · rintro ⟨-, hrest, hcross⟩
      refine ⟨fun g hg hname hrenames => ?_, hrest⟩
      obtain ⟨a, ha, ha'⟩ := hselects.2 hname
      obtain ⟨b, hb, hb'⟩ := hgives.2 ⟨g, hg, hrenames⟩
      exact hcross a ha b hb ha' hb'
    · rintro ⟨hcross, hrest⟩
      refine ⟨tagFieldOps_pairwise hhead _, hrest, fun a ha b hb ha' hb' => ?_⟩
      obtain ⟨g, hg, hrenames⟩ := hgives.1 ⟨b, hb, hb'⟩
      exact hcross g hg (hselects.1 ⟨a, ha, ha'⟩) hrenames

/-! ## §3. Whole plans. -/

/-- Inherited fields are not sent to the documents with a tag. -/
theorem not_selectsTag_inheritedFields (fqn : String) :
    ∀ op ∈ m.inheritedFields, ¬ SelectsTag fqn op := by
  intro op hop hselects
  obtain ⟨-, matcher, script, hmatcher, -, rfl⟩ := mem_inheritedFields hop
  have hfield : matcher = ⟨"tags.tagFQN", fqn⟩ := (List.mem_singleton.1 hselects).symm
  rcases hmatcher with rfl | rfl
  · have hname : "service.id" = "tags.tagFQN" := congrArg FieldMatch.field hfield
    exact absurd hname (by decide)
  · -- whatever the type is called, the field ends in another letter
    have hname : m.entity.entityType ++ ".id" = "tags.tagFQN" := congrArg FieldMatch.field hfield
    have hlast := congrArg (fun s : String => s.toList.getLast?) hname
    rw [String.toList_append] at hlast
    simp at hlast

/-- Neither is a certification. -/
theorem certification_cases_tag {certified : List CascadeOp} (h : m.certification = .ok certified)
    (fqn : String) : ∀ op ∈ certified, ¬ SelectsTag fqn op ∧ ¬ GivesTag fqn op := by
  intro op hop
  rcases certification_cases h with rfl | ⟨name, params, rfl⟩
  · cases hop
  · rw [List.mem_singleton.1 hop]
    refine ⟨fun hselects => ?_, not_givesTag_update _⟩
    exact absurd (selectsTag_updateEverywhere.1 hselects).1 (by decide)

/-- A type that tags documents is not that of a page. -/
theorem hasType_page {e : Entity} (h : tagTypes.any e.hasType = true) : e.hasType "page" = false := by
  cases hpage : e.hasType "page" with
  | false => rfl
  | true =>
    obtain ⟨t, ht, hsame⟩ := List.any_eq_true.1 h
    unfold Entity.hasType Text.sameName at hpage hsame
    have heq : "page".toList.map Char.toLower = t.toList.map Char.toLower :=
      (beq_iff_eq.1 hpage).symm.trans (beq_iff_eq.1 hsame)
    have hall : ∀ t ∈ tagTypes, "page".toList.map Char.toLower ≠ t.toList.map Char.toLower := by
      decide
    exact absurd heq (hall t ht)

end Mutation

open Mutation

/-- **When the rename of a tag comes before the writes that rely on it**: exactly if no new display
    name is listed before the new name, and no tags of a glossary term changed along with its
    name. -/
theorem renameFirst_iff {m : Mutation} {c : ChangeDescription} {ops : List CascadeOp}
    (hc : m.change = some c) (htype : tagTypes.any m.entity.hasType = true)
    (hplan : UpdateCascade.planAll m = .ok ops) :
    RenameFirst m.entity.fullyQualifiedName ops
      ↔ (c.fieldsUpdated.Pairwise fun f g => f.name = "displayName" → ¬ m.RenamesTag g)
        ∧ (m.TermTagsChanged c → ∀ g ∈ c.fieldsUpdated, ¬ m.RenamesTag g) := by
  obtain ⟨tags, certified, related, htags, hcertified, hrelated, rfl⟩ :=
    UpdateCascade.planAll_eq_ok hplan
  have hcert := certification_cases_tag hcertified m.entity.fullyQualifiedName
  have hfields : m.renamedTags c = .ok related := by
    unfold relatedEntities at hrelated
    rw [hc, hasType_page htype, htype] at hrelated
    exact hrelated
  obtain ⟨parts, hparts, rfl⟩ := renamedTags_cases hfields
  have hgives := exists_givesTag_flatten_iff hparts
  -- inherited fields and certifications do not count, so the order is that of the fields ...
  have hrest : RenameFirst m.entity.fullyQualifiedName (certified ++ parts.flatten)
      ↔ c.fieldsUpdated.Pairwise fun f g => f.name = "displayName" → ¬ m.RenamesTag g := by
    rw [RenameFirst.append_iff_of_not_selects fun op hop => (hcert op hop).1]
    exact renameFirst_flatten_iff hparts
  rw [RenameFirst.append_iff_of_not_selects (not_selectsTag_inheritedFields _)]
  rcases glossaryTags_cases hc htags with ⟨hchanged, params, rfl⟩ | ⟨hunchanged, rfl⟩
  · -- ... but for the tags of a term, which come before all of them
    have hselects : SelectsTag m.entity.fullyQualifiedName (updateEverywhere "tags.tagFQN"
        m.entity.fullyQualifiedName (Script.of .updateDerivedTags params)) :=
      selectsTag_updateEverywhere.2 ⟨rfl, rfl⟩
    rw [List.singleton_append, RenameFirst.cons_iff_of_selects hselects, hrest]
    constructor
    · rintro ⟨hnone, horder⟩
      refine ⟨horder, fun _ g hg hrenames => ?_⟩
      obtain ⟨op, hop, hgives'⟩ := hgives.2 ⟨g, hg, hrenames⟩
      exact hnone op (List.mem_append_right _ hop) hgives'
    · rintro ⟨horder, hnone⟩
      refine ⟨fun op hop hgives' => ?_, horder⟩
      rcases List.mem_append.1 hop with hop | hop
      · exact (hcert op hop).2 hgives'
      · obtain ⟨g, hg, hrenames⟩ := hgives.1 ⟨op, hop, hgives'⟩
        exact hnone hchanged g hg hrenames
  · rw [List.nil_append, hrest]
    exact ⟨fun horder => ⟨horder, fun hchanged => absurd hchanged hunchanged⟩, fun h => h.1⟩

/-- A change of a tag with the given updated fields. -/
def goldTag (fields : List FieldChange) : Mutation where
  registry := { mappings := [], clusterAlias := "", language := "en", schemaRoot := "" }
  mapping := { indexName := "tag_search_index", aliasName := "tag", indexMappingFile := "" }
  entity :=
    { id := .nil, entityType := "tag", name := "Gold", fullyQualifiedName := "Tier.Gold"
      version := .zero, updatedAt := 1 }
  change := some { fieldsUpdated := fields }

/-- The tag has a new name. -/
def goldName : FieldChange :=
  { name := "name", oldValue := some (.str "Silver"), newValue := some (.str "Gold") }

/-- The tag has a new display name. -/
def goldShown : FieldChange := { name := "displayName", newValue := some (.str "Golden") }

/-- A name that is listed before the display name is planned first. -/
theorem renameFirst_iff_gold :
    ∃ ops, UpdateCascade.planAll (goldTag [goldName, goldShown]) = .ok ops
      ∧ RenameFirst "Tier.Gold" ops := by
  have hplan : UpdateCascade.planAll (goldTag [goldName, goldShown]) = .ok
      [.rename "all" "Tier.Silver" "Tier.Gold" "tags.tagFQN",
        updateEverywhere "tags.tagFQN" "Tier.Gold" (Script.of .updateTags
          [("tagFQN", .str "Tier.Gold"), ("updates", .object [("displayName", .str "Golden")])])] := by
    decide +kernel
  refine ⟨_, hplan, (renameFirst_iff rfl (by decide) hplan).2 ⟨?_, ?_⟩⟩
  · refine List.pairwise_pair.2 fun hname => ?_
    exact absurd hname (by decide)
  · intro hchanged
    exact absurd hchanged.1 (by decide)

/-- **A display name that is listed before the name is planned before the rename**, and does not reach
    the documents that still have the old name. -/
theorem displayName_before_rename :
    tagTypes.any (goldTag [goldShown, goldName]).entity.hasType = true ∧ Renames goldName
      ∧ ∃ ops, UpdateCascade.planAll (goldTag [goldShown, goldName]) = .ok ops
        ∧ ¬ RenameFirst "Tier.Gold" ops := by
  have hplan : UpdateCascade.planAll (goldTag [goldShown, goldName]) = .ok
      [updateEverywhere "tags.tagFQN" "Tier.Gold" (Script.of .updateTags
          [("tagFQN", .str "Tier.Gold"), ("updates", .object [("displayName", .str "Golden")])]),
        .rename "all" "Tier.Silver" "Tier.Gold" "tags.tagFQN"] := by
    decide +kernel
  refine ⟨by decide, ⟨rfl, rfl, rfl⟩, _, hplan, fun horder => ?_⟩
  exact List.pairwise_pair.1 horder (selectsTag_updateEverywhere.2 ⟨rfl, rfl⟩) ⟨_, _, rfl⟩

end CatalogIndex
