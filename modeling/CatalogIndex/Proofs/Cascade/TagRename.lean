/-
  CatalogIndex.Proofs.Cascade.TagRename — what documents know of a tag that was renamed.

  Documents keep the name of a tag in their labels, and certified documents keep it in their
  certification as well.  Two planners follow a rename of the tag, one for each place, and neither is
  told the name that the tag had: both take the last segment off its name and put the old text in its
  place.  That gives the old name, since a name that is added to another one is a single segment; so
  both planners look for the same old name, and leave the same new one behind.

  ## Main definitions

    * `CascadeOp.isRename` — a change of the start of names;
    * `Entity.labelParts` — what a certification says about its tag.

  ## Main results

    * `siblingName_add` — the name of an entity under another text;
    * `rename_from_previous` — both planners go from the previous name to the current one.
-/
import CatalogIndex.Proofs.Cascade.RenameOrder
import CatalogIndex.Proofs.Name.Parent
import CatalogIndex.Proofs.Script.Certification

namespace CatalogIndex

open ChangeDescription

/-! ## §1. Labels. -/

/-- The write changes the start of names. -/
def CascadeOp.isRename : CascadeOp → Bool
  | .rename .. => true
  | _ => false

/-- What a certification says about its tag. -/
def Entity.labelParts (e : Entity) : List (String × Json) :=
  [("name", .str e.name), ("description", valueAt e.toFields "description"),
    ("tagFQN", .str e.fullyQualifiedName), ("style", valueAt e.toFields "style")]

namespace Mutation

variable {m : Mutation} {c : ChangeDescription} {f : FieldChange}

/-! ## §2. Names of siblings. -/

/-- **An entity under another text has the name that this text gives under the same parent.** -/
theorem siblingName_add {start name fqn : String} (hquotes : Name.Balanced start)
    (h : Name.add start name = .ok fqn) (other : String) : siblingName fqn other = Name.add start other := by
  unfold siblingName
  rw [Name.parent?_add hquotes h]
  by_cases hempty : start.isEmpty = true
  · -- without a parent there is nothing to add to
    rw [if_pos hempty]
    unfold Name.add
    cases Name.quote other with
    | error e => rfl
    | ok segment => exact (congrArg Except.ok (if_pos hempty)).symm
  · rw [if_neg hempty]

/-! ## §3. The labels of documents. -/

/-- A new name is one rename. -/
theorem tagFieldOps_name {old new oldFqn newFqn : String} (hname : f.name = "name")
    (hold : f.oldText? = some old) (hnew : f.newText? = some new)
    (holdFqn : siblingName m.entity.fullyQualifiedName old = .ok oldFqn)
    (hnewFqn : siblingName m.entity.fullyQualifiedName new = .ok newFqn) :
    m.tagFieldOps f = .ok [.rename m.registry.globalAlias oldFqn newFqn "tags.tagFQN"] := by
  unfold tagFieldOps
  dsimp only
  rw [if_pos hname, hold, hnew]
  dsimp only
  rw [holdFqn, hnewFqn]
  rfl

/-- Another field is no rename. -/
theorem tagFieldOps_other (hname : f.name ≠ "name") :
    ∃ ops, m.tagFieldOps f = .ok ops ∧ ops.filter CascadeOp.isRename = [] := by
  unfold tagFieldOps
  dsimp only
  rw [if_neg hname]
  split
  · exact ⟨_, rfl, rfl⟩
  · exact ⟨_, rfl, rfl⟩

/-- The renames for updated fields are those for the names among them. -/
theorem renames_of_fields {op : CascadeOp} (hop : op.isRename = true) {fs : List FieldChange}
    (hnames : ∀ f ∈ fs, f.name = "name" → m.tagFieldOps f = .ok [op]) :
    ∃ parts, List.Forall₂ (fun f part => m.tagFieldOps f = .ok part) fs parts
      ∧ parts.flatten.filter CascadeOp.isRename = (fs.filter (·.name == "name")).map fun _ => op := by
  induction fs with
  | nil => exact ⟨[], List.Forall₂.nil, rfl⟩
  | cons f rest ih =>
    obtain ⟨parts, hparts, hrenames⟩ := ih fun g hg => hnames g (List.mem_cons_of_mem _ hg)
    -- a name adds the rename, and any other field adds none
    by_cases hname : f.name = "name"
    · refine ⟨[op] :: parts, .cons (hnames f List.mem_cons_self hname) hparts, ?_⟩
      rw [List.flatten_cons, List.filter_append, hrenames, List.filter_cons_of_pos hop, List.filter_cons,
        if_pos (beq_iff_eq.2 hname)]
      rfl
    · obtain ⟨ops, hops, hnone⟩ := tagFieldOps_other (m := m) hname
      refine ⟨ops :: parts, .cons hops hparts, ?_⟩
      rw [List.flatten_cons, List.filter_append, hrenames, hnone, List.filter_cons,
        if_neg fun h => hname (beq_iff_eq.1 h)]
      rfl

/-- **The labels of documents follow a single new name by a single rename.** -/
theorem relatedEntities_renamed (hc : m.change = some c)
    (htype : tagTypes.any m.entity.hasType = true)
    (honce : c.fieldsUpdated.filter (·.name == "name") = [f]) {op : CascadeOp}
    (hrename : op.isRename = true) (hop : m.tagFieldOps f = .ok [op]) :
    ∃ related, m.relatedEntities = .ok related ∧ related.filter CascadeOp.isRename = [op] := by
  have hnames : ∀ g ∈ c.fieldsUpdated, g.name = "name" → m.tagFieldOps g = .ok [op] := by
    intro g hg hname
    have hmem : g ∈ c.fieldsUpdated.filter (·.name == "name") :=
      List.mem_filter.2 ⟨hg, beq_iff_eq.2 hname⟩
    rw [honce, List.mem_singleton] at hmem
    rw [hmem, hop]
  obtain ⟨parts, hparts, hrenames⟩ := renames_of_fields hrename hnames
  refine ⟨parts.flatten, ?_, ?_⟩
  · unfold relatedEntities
    rw [hc]
    dsimp only
    rw [hasType_page htype, htype]
    show (c.fieldsUpdated.mapM m.tagFieldOps).map List.flatten = _
    rw [Outcome.mapM_eq_ok_iff.2 hparts]
    rfl
  · rw [hrenames, honce]
    rfl

/-! ## §4. Certifications. -/

/-- **Certified documents are looked for by the name that the old text gives**, and their label gets
    what there is to say about the tag. -/
theorem certification_renamed {old oldFqn : String} (hc : m.change = some c)
    (honce : c.fieldsUpdated.filter (·.name == "name") = [f]) (hold : f.oldText? = some old)
    (holdFqn : siblingName m.entity.fullyQualifiedName old = .ok oldFqn) :
    ∃ script : Script, script.SetsLabel m.entity.labelParts
      ∧ m.certification = .ok (if m.entity.hasType "tag" && m.certifies
          then [updateEverywhere "certification.tagLabel.tagFQN" oldFqn script] else []) := by
  have hfind : c.fieldsUpdated.find? (·.name == "name") = some f := by
    rw [← List.head?_filter, honce]
    rfl
  have hshown : ["name", "description", "style", "displayName"].any c.touches = true := by
    obtain ⟨hmem, hname⟩ := mem_of_filter_eq_singleton honce
    refine List.any_eq_true.2 ⟨"name", List.mem_cons_self, List.any_eq_true.2 ⟨f, ?_, hname⟩⟩
    exact mem_all_of_updated hmem
  refine ⟨.of .updateCertification m.entity.labelParts, Script.setsLabel_updateCertification _ _ _ _, ?_⟩
  unfold certification
  rw [hc]
  dsimp only
  rw [hshown, hfind, Bool.and_true]
  cases m.entity.hasType "tag" && m.certifies with
  | false => rfl
  | true =>
    dsimp only [Option.bind_some]
    rw [hold]
    dsimp only
    rw [holdFqn]
    rfl

end Mutation

open Mutation

/-- **A rename goes from the previous name to the current one**, in labels and in certifications: for a
    tag whose name is a text added to `start`, which may be empty, both planners look for the old text
    added to `start`.  The script for certified documents sets the parts of their label and nothing else;
    in every document that has such a label, the current name is found in it afterwards. -/
theorem rename_from_previous {m : Mutation} {c : ChangeDescription} {f : FieldChange}
    {start old new oldFqn : String} (hc : m.change = some c)
    (htype : tagTypes.any m.entity.hasType = true) (hquotes : Name.Balanced start)
    (holdFqn : Name.add start old = .ok oldFqn)
    (hnewFqn : Name.add start new = .ok m.entity.fullyQualifiedName)
    (honce : c.fieldsUpdated.filter (·.name == "name") = [f]) (hold : f.oldText? = some old)
    (hnew : f.newText? = some new) :
    (∃ related, m.relatedEntities = .ok related
        ∧ related.filter CascadeOp.isRename
          = [.rename m.registry.globalAlias oldFqn m.entity.fullyQualifiedName "tags.tagFQN"])
      ∧ ∃ script : Script, script.SetsLabel m.entity.labelParts
        ∧ (∀ (e : Engine) (source label : Fields),
          Engine.valueAlong? (.obj source) ["certification", "tagLabel"] = some (.obj label) →
          ∃ source', script.runOn? e source = some source'
            ∧ Engine.valueAlong? (.obj source') ["certification", "tagLabel", "tagFQN"]
              = some (.str m.entity.fullyQualifiedName))
        ∧ m.certification = .ok (if m.entity.hasType "tag" && m.certifies
            then [updateEverywhere "certification.tagLabel.tagFQN" oldFqn script] else []) := by
  have hsibling := siblingName_add hquotes hnewFqn
  have hprevious : siblingName m.entity.fullyQualifiedName old = .ok oldFqn := (hsibling old).trans holdFqn
  have hcurrent : siblingName m.entity.fullyQualifiedName new = .ok m.entity.fullyQualifiedName :=
    (hsibling new).trans hnewFqn
  have hname := beq_iff_eq.1 (mem_of_filter_eq_singleton honce).2
  have hfield := tagFieldOps_name hname hold hnew hprevious hcurrent
  constructor
  · exact relatedEntities_renamed hc htype honce rfl hfield
  · obtain ⟨script, hlabel, hcertification⟩ := certification_renamed hc honce hold hprevious
    exact ⟨script, hlabel, fun e _ _ hthere => hlabel.exists_part rfl e hthere, hcertification⟩

/-- A certifying tag that was called `Silver`, in quotes that it did not need, and now has a dot in its
    name. -/
def plusTag : Mutation where
  registry := { mappings := [], clusterAlias := "", language := "en", schemaRoot := "" }
  mapping := { indexName := "tag_search_index", aliasName := "tag", indexMappingFile := "" }
  entity :=
    { id := .nil, entityType := "tag", name := "Gold.Plus"
      fullyQualifiedName := "Certification.\"Gold.Plus\"", version := .zero, updatedAt := 1 }
  change := some { fieldsUpdated := [plusName] }
where
  plusName : FieldChange :=
    { name := "name", oldValue := some (.str "\"Silver\""), newValue := some (.str "Gold.Plus") }

/-- A document with a label in its certification. -/
def certifiedBy (name fqn : String) : Fields :=
  [("certification", .obj [("tagLabel",
    .obj [("description", .null), ("name", .str name), ("style", .null), ("tagFQN", .str fqn)])])]

/-- Its documents are looked for under `Certification.Silver`, and a document that has this label gets the
    new one. -/
theorem rename_from_previous_quoted :
    (∃ related, plusTag.relatedEntities = .ok related
        ∧ related.filter CascadeOp.isRename
          = [.rename "all" "Certification.Silver" "Certification.\"Gold.Plus\"" "tags.tagFQN"])
      ∧ ∃ script : Script, script.runOn? .opensearch (certifiedBy "Silver" "Certification.Silver")
          = some (certifiedBy "Gold.Plus" "Certification.\"Gold.Plus\"")
        ∧ plusTag.certification = .ok
          [updateEverywhere "certification.tagLabel.tagFQN" "Certification.Silver" script] := by
  have hold : Name.add "Certification" "\"Silver\"" = .ok "Certification.Silver" := by decide +kernel
  have hnew : Name.add "Certification" "Gold.Plus" = .ok plusTag.entity.fullyQualifiedName := by
    decide +kernel
  have hcertifies : (plusTag.entity.hasType "tag" && plusTag.certifies) = true := by decide +kernel
  obtain ⟨hrelated, script, hlabel, -, hcertification⟩ := rename_from_previous (m := plusTag) rfl (by decide)
    (by decide) hold hnew (f := plusTag.plusName) (by decide) (by decide) (by decide)
  rw [hcertifies] at hcertification
  refine ⟨hrelated, script, ?_, hcertification⟩
  rw [hlabel]
  decide +kernel

end CatalogIndex
