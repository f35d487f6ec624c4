/-
  CatalogIndex.Proofs.Cascade.TermTags — the tags of a glossary term on other documents.

  Documents that carry a glossary term carry its tags as well, as derived labels.  So when the term gets or
  loses tags, the script for these documents holds every label that the change names, in order and with
  all it says, but for its type.  A label that kept its type would count as given by hand, and no later
  change of the term would take it away.

  The labels come in two spellings, and are written in one.  They are read back from the script as they
  were, since no label that was read is one that cannot be written.

  ## Main definitions

    * `lastRead` — the labels that count: those of the last entry for tags, or none;
    * `Script.HoldsLabels` — what is read back from a parameter.

  ## Main results

    * `TagLabel.readValue_derived` — derived labels are read back;
    * `lastLabels_eq`, `lastLabels_error` — entries that can be read, and entries that cannot;
    * `term_tags_derived` — the script for the tags of a term.
-/
import CatalogIndex.Proofs.Cascade.Planned
import CatalogIndex.Proofs.Entity.Encoded
import CatalogIndex.Proofs.Entity.Written

namespace CatalogIndex

/-! ## §1. Labels of a change. -/

/-- The labels that a changed field had. -/
def FieldChange.oldLabels (f : FieldChange) : Outcome (List TagLabel) :=
  f.oldAs (Source.listOf? TagLabel.decode?)

/-- The labels that a changed field has. -/
def FieldChange.newLabels (f : FieldChange) : Outcome (List TagLabel) :=
  f.newAs (Source.listOf? TagLabel.decode?)

/-- What is known of labels that were read: they can be written, and otherwise there is a parse error. -/
structure ReadsLabels (read : FieldChange → Outcome (List TagLabel)) : Prop where
  proper : ∀ {f labels}, read f = .ok labels → ∀ l ∈ labels, l.Proper
  kind : ∀ {f e}, read f = .error e → e.kind = .parse

/-- A value that may be missing reads as labels, as long as a missing one is a parse error too. -/
theorem readsLabels_value (value : FieldChange → Option Json) (missing : FieldChange → Error)
    (hmissing : ∀ f, (missing f).kind = .parse) :
    ReadsLabels fun f => match value f with
      | some v => readValue (Source.listOf? TagLabel.decode?) v
      | none => .error (missing f) := by
  constructor
  · intro f labels h
    cases hvalue : value f with
    | none =>
      simp only [hvalue] at h
      cases h
    | some v =>
      simp only [hvalue] at h
      exact TagLabel.proper_of_readValue h
  · intro f e h
    cases hvalue : value f with
    | none =>
      simp only [hvalue] at h
      cases h
      exact hmissing f
    | some v =>
      simp only [hvalue] at h
      exact kind_of_readValue h

theorem readsLabels_old : ReadsLabels FieldChange.oldLabels :=
  readsLabels_value FieldChange.oldValue (fun f => .noOldValue f.name) fun _ => rfl

theorem readsLabels_new : ReadsLabels FieldChange.newLabels :=
  readsLabels_value FieldChange.newValue (fun f => .noNewValue f.name) fun _ => rfl

/-- **Derived labels are read back** from the value that they were written to. -/
theorem TagLabel.readValue_derived {labels : List TagLabel} (h : ∀ l ∈ labels, l.Proper) :
    readValue (Source.listOf? TagLabel.decode?) (.arr (labels.map fun label => label.asDerived.toJson))
      = .ok (labels.map TagLabel.asDerived) := by
  have hform : labels.map (fun label => label.asDerived.toJson)
      = (labels.map TagLabel.asDerived).map TagLabel.toJson := by
    rw [List.map_map]
    rfl
  rw [hform]
  refine readValue_list fun derived hderived => ?_
  obtain ⟨l, hl, hl'⟩ := List.mem_map.1 hderived
  rw [← hl']
  exact TagLabel.decode?_written (h l hl).asDerived

namespace Mutation

/-! ## §2. The labels that count. -/

/-- The entries for tags. -/
def tagEntries (fields : List FieldChange) : List FieldChange := fields.filter (·.name == "tags")

/-- Every entry can be read. -/
def Readable (read : FieldChange → Outcome (List TagLabel)) (entries : List FieldChange) : Prop :=
  ∀ f ∈ entries, ∃ labels, read f = .ok labels

/-- The labels of the last entry, and none if there is no entry. -/
def lastRead (read : FieldChange → Outcome (List TagLabel)) (entries : List FieldChange) :
    Outcome (List TagLabel) :=
  match entries.getLast? with
  | none => .ok []
  | some f => read f

variable {read : FieldChange → Outcome (List TagLabel)} {entries : List FieldChange}

theorem lastRead_singleton (read : FieldChange → Outcome (List TagLabel)) (f : FieldChange) :
    lastRead read [f] = read f := rfl

/-- What an entry is read as replaces what the entries before it were read as. -/
theorem foldlM_derivedLabels (h : Readable read entries) (start : Json) :
    entries.foldlM (fun _ f => derivedLabels (read f)) start
      = match entries.getLast? with
        | none => .ok start
        | some f => derivedLabels (read f) := by
  induction entries generalizing start with
  | nil => rfl
  | cons f rest ih =>
    obtain ⟨labels, hlabels⟩ := h f List.mem_cons_self
    have hrest := ih fun g hg => h g (List.mem_cons_of_mem _ hg)
    rw [List.foldlM_cons, List.getLast?_cons, hlabels]
    show List.foldlM _ _ rest = _
    rw [hrest]
    cases rest.getLast? with
    | none => simp only [Option.getD_none, hlabels]; rfl
    | some g => rfl

/-- Entries that can be read give the labels of the last one, derived. -/
theorem lastLabels_eq (h : Readable read entries) :
    lastLabels read entries = derivedLabels (lastRead read entries) := by
  unfold lastLabels lastRead
  rw [foldlM_derivedLabels h]
  cases entries.getLast? <;> rfl

/-- **One entry that cannot be read is enough to stop.** -/
theorem lastLabels_error (h : ¬ Readable read entries) :
    ∃ f ∈ entries, ∃ e, read f = .error e ∧ lastLabels read entries = .error e := by
  have hstop : ∀ start : Json, ∃ f ∈ entries, ∃ e, read f = .error e
      ∧ entries.foldlM (fun _ f => derivedLabels (read f)) start = .error e := by
    induction entries with
    | nil => exact absurd (fun f hf => absurd hf List.not_mem_nil) h
    | cons f rest ih =>
      intro start
      cases hf : read f with
      | error e =>
        refine ⟨f, List.mem_cons_self, e, hf, ?_⟩
        rw [List.foldlM_cons, hf]
        rfl
      | ok labels =>
        have hrest : ¬ Readable read rest := by
          intro hrest
          refine h fun g hg => ?_
          rcases List.mem_cons.1 hg with hg | hg
          · exact ⟨labels, hg ▸ hf⟩
          · exact hrest g hg
        obtain ⟨g, hg, e, hread, hfold⟩ := ih hrest (.arr (labels.map fun l => l.asDerived.toJson))
        refine ⟨g, List.mem_cons_of_mem _ hg, e, hread, ?_⟩
        rw [List.foldlM_cons, hf]
        exact hfold
  exact hstop _

theorem lastRead_of_readable (h : Readable read entries) : ∃ labels, lastRead read entries = .ok labels := by
  unfold lastRead
  cases hlast : entries.getLast? with
  | none => exact ⟨[], rfl⟩
  | some f => exact h f (List.mem_of_getLast? hlast)

/-- Labels that count can be written, wherever they were read. -/
theorem proper_of_lastRead {labels : List TagLabel} (hread : ReadsLabels read)
    (h : lastRead read entries = .ok labels) : ∀ l ∈ labels, l.Proper := by
  unfold lastRead at h
  cases hlast : entries.getLast? with
  | none =>
    rw [hlast] at h
    cases h
    exact fun l hl => absurd hl List.not_mem_nil
  | some f =>
    rw [hlast] at h
    exact hread.proper h

/-- A change of tags is planned as one update, if all of its labels can be read. -/
theorem glossaryTags_eq {m : Mutation} {c : ChangeDescription} (hc : m.change = some c)
    (hchanged : m.TermTagsChanged c) :
    m.glossaryTags = (do
      let added ← lastLabels FieldChange.newLabels (tagEntries c.fieldsAdded)
      let deleted ← lastLabels FieldChange.oldLabels (tagEntries c.fieldsDeleted)
      return [updateEverywhere "tags.tagFQN" m.entity.fullyQualifiedName
        (Script.of .updateDerivedTags [("tagAdded", added), ("tagDeleted", deleted)])]) := by
  obtain ⟨htype, f, hf, hname⟩ := hchanged
  have hsome : ¬ ((tagEntries c.fieldsAdded).isEmpty && (tagEntries c.fieldsDeleted).isEmpty) = true := by
    intro hempty
    rw [Bool.and_eq_true, List.isEmpty_iff, List.isEmpty_iff] at hempty
    have hmem : f ∈ tagEntries (c.fieldsAdded ++ c.fieldsDeleted) :=
      List.mem_filter.2 ⟨hf, by simp [hname]⟩
    unfold tagEntries at hmem hempty
    rw [List.filter_append, hempty.1, hempty.2] at hmem
    cases hmem
  unfold glossaryTags
  rw [hc]
  dsimp only
  rw [htype, if_neg (by decide)]
  show (do
      let added ← lastLabels FieldChange.newLabels (tagEntries c.fieldsAdded)
      let deleted ← lastLabels FieldChange.oldLabels (tagEntries c.fieldsDeleted)
      if (tagEntries c.fieldsAdded).isEmpty && (tagEntries c.fieldsDeleted).isEmpty then return []
      return [updateEverywhere "tags.tagFQN" m.entity.fullyQualifiedName
        (Script.of .updateDerivedTags [("tagAdded", added), ("tagDeleted", deleted)])]) = _
  simp only [if_neg hsome]

/-! ## §3. The script. -/

end Mutation

/-- The labels that are read back from a parameter. -/
def Script.HoldsLabels (s : Script) (key : String) (labels : List TagLabel) : Prop :=
  ∃ v, Keyed.get? s.params key = some v ∧ readValue (Source.listOf? TagLabel.decode?) v = .ok labels

/-- A parameter that was written with derived labels holds them. -/
theorem Script.holdsLabels_of {op : ScriptOp} {params : List (String × Json)} {key : String}
    {labels : List TagLabel} (hproper : ∀ l ∈ labels, l.Proper)
    (hparam : Keyed.get? params.reverse key
      = some (.arr (labels.map fun label => label.asDerived.toJson))) :
    (Script.of op params).HoldsLabels key (labels.map TagLabel.asDerived) := by
  exact ⟨_, (Keyed.get?_ofList params key).trans hparam, TagLabel.readValue_derived hproper⟩

open Mutation

/-- **The tags of a glossary term follow it, as derived labels.**  If all entries for tags can be read, one
    update goes to every document of the deployment that carries the term.  From its parameters are read
    back the labels that the term got and lost, all of them and in order, and only their type is another
    one; of several entries the last one counts, and without an entry there are none.  If some entry
    cannot be read, nothing is planned. -/
theorem term_tags_derived {m : Mutation} {c : ChangeDescription} (hc : m.change = some c)
    (hchanged : m.TermTagsChanged c) :
    (Readable FieldChange.newLabels (tagEntries c.fieldsAdded) →
      Readable FieldChange.oldLabels (tagEntries c.fieldsDeleted) →
      ∃ script added deleted,
        UpdateCascade.glossaryTags.plan m
            = .ok [updateEverywhere "tags.tagFQN" m.entity.fullyQualifiedName script]
          ∧ script.ops = [.updateDerivedTags]
          ∧ lastRead FieldChange.newLabels (tagEntries c.fieldsAdded) = .ok added
          ∧ script.HoldsLabels "tagAdded" (added.map TagLabel.asDerived)
          ∧ lastRead FieldChange.oldLabels (tagEntries c.fieldsDeleted) = .ok deleted
          ∧ script.HoldsLabels "tagDeleted" (deleted.map TagLabel.asDerived))
      ∧ (¬ (Readable FieldChange.newLabels (tagEntries c.fieldsAdded)
            ∧ Readable FieldChange.oldLabels (tagEntries c.fieldsDeleted)) →
          ∃ e, UpdateCascade.glossaryTags.plan m = .error e ∧ e.kind = .parse) := by
  have hplan : UpdateCascade.glossaryTags.plan m = _ := glossaryTags_eq hc hchanged
  constructor
  · intro hadded hdeleted
    obtain ⟨added, hadded'⟩ := lastRead_of_readable hadded
    obtain ⟨deleted, hdeleted'⟩ := lastRead_of_readable hdeleted
    rw [lastLabels_eq hadded, lastLabels_eq hdeleted, hadded', hdeleted'] at hplan
    refine ⟨_, added, deleted, hplan, rfl, hadded', ?_, hdeleted', ?_⟩
    · exact Script.holdsLabels_of (proper_of_lastRead readsLabels_new hadded') (by simp [Keyed.get?])
    · exact Script.holdsLabels_of (proper_of_lastRead readsLabels_old hdeleted') (by simp [Keyed.get?])
  · intro hunread
    rw [hplan]
    by_cases hadded : Readable FieldChange.newLabels (tagEntries c.fieldsAdded)
    · have hdeleted : ¬ Readable FieldChange.oldLabels (tagEntries c.fieldsDeleted) :=
        fun hdeleted => hunread ⟨hadded, hdeleted⟩
      obtain ⟨added, hadded'⟩ := lastRead_of_readable hadded
      obtain ⟨f, -, e, hf, hstop⟩ := lastLabels_error hdeleted
      refine ⟨e, ?_, readsLabels_old.kind hf⟩
      rw [lastLabels_eq hadded, hadded', hstop]
      rfl
    · obtain ⟨f, -, e, hf, hstop⟩ := lastLabels_error hadded
      refine ⟨e, ?_, readsLabels_new.kind hf⟩
      rw [hstop]
      rfl

/-- A tag that a term got by propagation, in a text that holds a list of labels. -/
def sensitiveGained : FieldChange where
  name := "tags"
  newValue := some <| .str
    "[\x7b\"tagFQN\":\"PII.Sensitive\",\"labelType\":\"Propagated\",\"style\":null\x7d]"

/-- A term that got the tag, its type in other letters. -/
def taggedTerm : Mutation where
  registry := { mappings := [], clusterAlias := "", language := "en", schemaRoot := "" }
  mapping := { indexName := "glossary_term_search_index", indexMappingFile := "" }
  entity :=
    { id := .nil, entityType := "GlossaryTERM", name := "Revenue"
      fullyQualifiedName := "Business.Revenue", version := .zero, updatedAt := 1 }
  change := some { fieldsAdded := [{ name := "owners" }, sensitiveGained] }

/-- Documents that carry the term get the tag as a derived one, and lose none. -/
theorem term_tags_derived_propagated :
    ∃ script, UpdateCascade.glossaryTags.plan taggedTerm
          = .ok [updateEverywhere "tags.tagFQN" "Business.Revenue" script]
        ∧ script.HoldsLabels "tagAdded" [{ tagFQN := "PII.Sensitive", labelType := .derived }]
        ∧ script.HoldsLabels "tagDeleted" [] := by
  have hentries : tagEntries [{ name := "owners" }, sensitiveGained] = [sensitiveGained] := by
    decide +kernel
  have hlabels : sensitiveGained.newLabels
      = .ok [{ tagFQN := "PII.Sensitive", labelType := .propagated }] := by decide +kernel
  have hchanged : taggedTerm.TermTagsChanged
      { fieldsAdded := [{ name := "owners" }, sensitiveGained] } :=
    ⟨by decide, sensitiveGained, by simp, by decide⟩
  have hreadable : Readable FieldChange.newLabels
      (tagEntries [{ name := "owners" }, sensitiveGained]) := by
    rw [hentries]
    intro f hf
    cases List.mem_singleton.1 hf
    exact ⟨_, hlabels⟩
  obtain ⟨script, added, deleted, hplan, -, hadded, hheld, hdeleted, hheld'⟩ :=
    (term_tags_derived (m := taggedTerm) rfl hchanged).1 hreadable
      fun f hf => absurd hf List.not_mem_nil
  rw [hentries, lastRead_singleton, hlabels] at hadded
  cases hadded
  cases hdeleted
  exact ⟨script, hplan, hheld, hheld'⟩

end CatalogIndex
