/-
  CatalogIndex.Proofs.Cascade.TagRemoval — what is left of a deleted tag.

  The plan for a deleted tag is one update of all documents.  Its query asks for a label of the tag itself,
  and its script drops the labels of the tag and of all tags below it.  A document with labels of both
  loses both.  A document that has only labels of tags below the deleted one is not selected, and keeps
  them.

  ## Main definitions

    * `Carries`, `Labelled` — the tags of a document, and labels that can be read;
    * `storeAfterRemoval?` — the documents after an update that takes elements from lists;
    * `Stripped` — what becomes of one of them.

  ## Main results

    * `carries_removed_iff` — what is left of one document;
    * `tag_removal_iff` — the plan strips the tags below exactly where it finds the tag itself;
    * `nested_tag_survives` — a label that outlives the tag above it.
-/
import CatalogIndex.Cascade.Delete
import CatalogIndex.Proofs.Outcome
import CatalogIndex.Proofs.Query.Selection
import CatalogIndex.Proofs.Script.Removal

namespace CatalogIndex

open Engine Name

/-! ## §1. Labels. -/

/-- A document has a label of the tag, as queries find it. -/
def Carries (d : Document) (tag : String) : Prop :=
  .str tag ∈ d.source.valuesAt (Text.split '.' "tags.tagFQN")

/-- The labels of a document are a list, and each of them names its tag. -/
def Labelled (d : Document) : Prop :=
  ∃ labels, Keyed.get? d.fields "tags" = some (.arr labels)
    ∧ ∀ label ∈ labels, (labelName? label).isSome = true

theorem Json.mem_valuesInItems {items : List Json} {path : List String} {v : Json} :
    v ∈ Json.valuesInItems items path ↔ ∃ item ∈ items, v ∈ item.valuesAt path := by
  induction items with
  | nil => simp [Json.valuesInItems]
  | cons item rest ih => simp [Json.valuesInItems, ih]

/-- A label that names its tag has no other value there. -/
theorem valuesAt_label {label : Json} {name : String} (h : labelName? label = some name) :
    label.valuesAt ["tagFQN"] = [.str name] := by
  cases label with
  | obj fields =>
    obtain ⟨v, hv, hname⟩ := Option.bind_eq_some_iff.1 h
    cases v with
    | str text =>
      cases hname
      exact Json.valuesAt_field hv
    | _ => cases hname
  | _ => cases h

variable {d : Document} {labels : List Json}

theorem carries_iff_field (tag : String) :
    Carries d tag ↔ ∃ v, Keyed.get? d.fields "tags" = some v ∧ .str tag ∈ v.valuesAt ["tagFQN"] := by
  unfold Carries
  rw [show Text.split '.' "tags.tagFQN" = ["tags", "tagFQN"] by decide]
  show .str tag ∈ Json.valuesInField d.fields "tags" ["tagFQN"] ↔ _
  rw [Json.valuesInField_eq]
  cases Keyed.get? d.fields "tags" <;> simp

/-- The tags of a document whose labels can be read. -/
theorem carries_iff_label (htags : Keyed.get? d.fields "tags" = some (.arr labels))
    (hlabels : ∀ label ∈ labels, (labelName? label).isSome = true) (tag : String) :
    Carries d tag ↔ ∃ label ∈ labels, labelName? label = some tag := by
  have hfield : Carries d tag ↔ .str tag ∈ Json.valuesInItems labels ["tagFQN"] := by
    rw [carries_iff_field]
    simp only [htags, Option.some.injEq, exists_eq_left']
    rfl
  rw [hfield, Json.mem_valuesInItems]
  refine exists_congr fun label => and_congr_right fun hlabel => ?_
  obtain ⟨name, hname⟩ := Option.isSome_iff_exists.1 (hlabels label hlabel)
  rw [valuesAt_label hname, hname, List.mem_singleton, Json.str.injEq, Option.some.injEq, eq_comm]

/-! ## §2. One document. -/

/-- What a plan for a deleted tag does to a document. -/
def tagScript (tag : String) : Script := Script.of .removeTags [("fqn", .str tag)]

variable {tag : String} {fields : Fields}

theorem removed?_tagScript (doc : Fields) :
    (tagScript tag).removed? doc = tagRemoval.applied? (tagScript tag).params doc := by
  show Option.bind (tagRemoval.applied? _ doc) some = _
  exact Option.bind_fun_some _

theorem drops?_tagScript (source : Fields) (label : Json) :
    tagRemoval.drops? { params := (tagScript tag).params, source } label
      = (labelName? label).map fun name => decide (AtOrBelow tag name) :=
  drops?_tagRemoval rfl label

/-- **The script succeeds exactly on labels that can be read**, where it finds the tag. -/
theorem removed?_isSome_iff (h : Carries d tag) :
    ((tagScript tag).removed? d.fields).isSome = true ↔ Labelled d := by
  obtain ⟨v, hv, hmem⟩ := (carries_iff_field tag).1 h
  have hlist : Keyed.get? d.fields tagRemoval.list = some v := hv
  rw [removed?_tagScript]
  cases v with
  | arr labels =>
    rw [Removal.applied?_of_list hlist, Option.isSome_map, Removal.kept?_isSome_iff]
    simp only [drops?_tagScript, Option.isSome_map]
    constructor
    · intro hlabels
      exact ⟨labels, hv, hlabels⟩
    · rintro ⟨labels', hv', hlabels⟩
      rw [hv] at hv'
      cases hv'
      exact hlabels
  | null => cases hmem
  | _ =>
    -- what is no list has no labels, and the script fails on it
    unfold Removal.applied? Labelled
    rw [hlist, hv]
    constructor
    · intro hsome
      cases hsome
    · rintro ⟨labels, hlabels, -⟩
      cases hlabels

/-- **The script takes the tag and the tags below it**, where it finds the tag, and no others. -/
theorem carries_removed_iff (h : Carries d tag) (hrun : (tagScript tag).removed? d.fields = some fields)
    (other : String) :
    Carries { d with fields } other ↔ Carries d other ∧ ¬ AtOrBelow tag other := by
  obtain ⟨labels, htags, hlabels⟩ := (removed?_isSome_iff h).1 (by rw [hrun]; rfl)
  rw [removed?_tagScript, Removal.applied?_of_list htags] at hrun
  obtain ⟨kept, hkept, rfl⟩ := Option.map_eq_some_iff.1 hrun
  have hstays : ∀ label, label ∈ kept ↔ label ∈ labels
      ∧ ∃ name, labelName? label = some name ∧ ¬ AtOrBelow tag name := by
    intro label
    rw [Removal.mem_kept? hkept, drops?_tagScript, Option.map_eq_some_iff]
    simp only [decide_eq_false_iff_not]
  have hafter : Keyed.get? (Keyed.insert d.fields tagRemoval.list (.arr kept)) "tags" = some (.arr kept) :=
    Keyed.get?_insert_self d.fields tagRemoval.list (.arr kept)
  have hread : ∀ label ∈ kept, (labelName? label).isSome = true :=
    fun label hlabel => hlabels label ((hstays label).1 hlabel).1
  rw [carries_iff_label (d := { d with fields := _ }) hafter hread, carries_iff_label htags hlabels]
  constructor
  · rintro ⟨label, hlabel, hname⟩
    obtain ⟨hold, name, hname', hother⟩ := (hstays label).1 hlabel
    rw [hname] at hname'
    cases hname'
    exact ⟨⟨label, hold, hname⟩, hother⟩
  · rintro ⟨⟨label, hlabel, hname⟩, hother⟩
    exact ⟨label, (hstays label).2 ⟨hlabel, other, hname, hother⟩, hname⟩

/-! ## §3. The plan. -/

/-- A document after an update that takes elements from lists. -/
def afterRemoval? (r : Registry) (u : PartialUpdate) (d : Stored) : Option Stored :=
  if (CascadeOp.update u).selects r d = true then
    (u.script.removed? d.doc.fields).map fun fields => { d with doc := { d.doc with fields } }
  else some d

/-- The documents after such an update. -/
def storeAfterRemoval? (r : Registry) (u : PartialUpdate) (store : List Stored) : Option (List Stored) :=
  store.mapM (afterRemoval? r u)

namespace Mutation

variable {m : Mutation}

/-- The update that a plan for a deleted tag consists of. -/
def tagUpdate (m : Mutation) : PartialUpdate where
  target := .everywhere
  matcher := ⟨"tags.tagFQN", m.entity.fullyQualifiedName⟩
  script := tagScript m.entity.fullyQualifiedName

theorem planDelete_tag (h : m.entity.entityType = "tag" ∨ m.entity.entityType = "glossaryTerm") :
    DeleteRules.standard.planDelete m = [.update m.tagUpdate] := by
  have hrule : DeleteRules.standard.rule m.entity.entityType = .tag := by
    rcases h with h | h
    · rw [h]
      decide
    · rw [h]
      decide
  unfold DeleteRules.planDelete
  rw [hrule]
  rfl

/-- The update goes to the documents of the deployment with a label of the tag itself. -/
theorem selects_tagUpdate {d : Stored} :
    (CascadeOp.update m.tagUpdate).selects m.registry d = true
      ↔ d.isUnder [m.registry.globalAlias] = true ∧ Carries d.doc m.entity.fullyQualifiedName := by
  show (d.isUnder [m.registry.globalAlias] && m.tagUpdate.matcher.holds d.doc) = true ↔ _
  rw [Bool.and_eq_true]
  exact and_congr_right fun _ => List.contains_iff_mem

/-- What becomes of a stored document: it stays where it is, and where the update goes it loses its labels
    of the tag and of the tags below it. -/
structure Stripped (m : Mutation) (d d' : Stored) : Prop where
  key : d'.key = d.key
  isUnder : ∀ names, d'.isUnder names = d.isUnder names
  carries : ∀ tag, Carries d'.doc tag ↔ Carries d.doc tag
    ∧ ((CascadeOp.update m.tagUpdate).selects m.registry d = true →
      ¬ AtOrBelow m.entity.fullyQualifiedName tag)

/-- **The step of the update**: one document. -/
theorem stripped_of_afterRemoval? {d d' : Stored}
    (h : afterRemoval? m.registry m.tagUpdate d = some d') : Stripped m d d' := by
  unfold afterRemoval? at h
  by_cases hselects : (CascadeOp.update m.tagUpdate).selects m.registry d = true
  · rw [if_pos hselects] at h
    obtain ⟨fields, hfields, rfl⟩ := Option.map_eq_some_iff.1 h
    refine ⟨rfl, fun _ => rfl, fun tag => ?_⟩
    rw [carries_removed_iff (selects_tagUpdate.1 hselects).2 hfields]
    exact and_congr_right fun _ => ⟨fun hother _ => hother, fun hother => hother hselects⟩
  · rw [if_neg hselects] at h
    cases h
    exact ⟨rfl, fun _ => rfl, fun tag => (and_iff_left fun h => absurd h hselects).symm⟩

/-- The step succeeds exactly if the labels can be read of a document that the update goes to. -/
theorem exists_afterRemoval?_iff {d : Stored} :
    (∃ d', afterRemoval? m.registry m.tagUpdate d = some d')
      ↔ ((CascadeOp.update m.tagUpdate).selects m.registry d = true → Labelled d.doc) := by
  unfold afterRemoval?
  rw [← Option.isSome_iff_exists]
  by_cases hselects : (CascadeOp.update m.tagUpdate).selects m.registry d = true
  · rw [if_pos hselects, Option.isSome_map, ← removed?_isSome_iff (selects_tagUpdate.1 hselects).2]
    exact ⟨fun h _ => h, fun h => h hselects⟩
  · rw [if_neg hselects]
    exact ⟨fun _ h => absurd h hselects, fun _ => rfl⟩

/-- **The whole update**: document by document. -/
theorem stripped_of_storeAfterRemoval? {store after : List Stored}
    (h : storeAfterRemoval? m.registry m.tagUpdate store = some after) :
    List.Forall₂ (Stripped m) store after :=
  (Outcome.mapM_eq_some_iff.1 h).imp fun _ _ => stripped_of_afterRemoval?

/-- The update succeeds exactly if it goes to documents whose labels can be read. -/
theorem exists_storeAfterRemoval?_iff {store : List Stored} :
    (∃ after, storeAfterRemoval? m.registry m.tagUpdate store = some after)
      ↔ ∀ d ∈ store, (CascadeOp.update m.tagUpdate).selects m.registry d = true → Labelled d.doc := by
  unfold storeAfterRemoval?
  simp only [Outcome.mapM_eq_some_iff, Outcome.exists_forall₂_iff, exists_afterRemoval?_iff]

end Mutation

/-! ## §4. What the deletion of a tag achieves. -/

/-- **The plan strips the tags below a deleted one exactly where it finds the tag itself.**  It is one
    update of all documents, whose code takes labels from a list.  It succeeds if the labels of the
    documents it goes to can be read.  Every document stays where it is, and one that the update goes to
    loses its labels of the tag and of the tags below it, and no others.  So no label of these is left if
    and only if every document with one of them had one of the tag itself. -/
theorem tag_removal_iff {m : Mutation}
    (h : m.entity.entityType = "tag" ∨ m.entity.entityType = "glossaryTerm") (store : List Stored) :
    ∃ u, DeleteRules.standard.planDelete m = [.update u]
      ∧ (∀ e : Engine, u.script.ops.flatMap e.body = [tagRemoval.code e])
      ∧ ((∃ after, storeAfterRemoval? m.registry u store = some after)
        ↔ ∀ d ∈ store, d.isUnder [m.registry.globalAlias] = true →
          Carries d.doc m.entity.fullyQualifiedName → Labelled d.doc)
      ∧ ∀ after, storeAfterRemoval? m.registry u store = some after →
        List.Forall₂ (m.Stripped) store after
        ∧ ((∀ d ∈ after, d.isUnder [m.registry.globalAlias] = true → ∀ tag, Carries d.doc tag →
            ¬ AtOrBelow m.entity.fullyQualifiedName tag)
          ↔ ∀ d ∈ store, d.isUnder [m.registry.globalAlias] = true → ∀ tag, Carries d.doc tag →
            AtOrBelow m.entity.fullyQualifiedName tag → Carries d.doc m.entity.fullyQualifiedName) := by
  refine ⟨m.tagUpdate, Mutation.planDelete_tag h, ?_, ?_, ?_⟩
  · intro e
    have hops : m.tagUpdate.script.ops.flatMap e.body = e.body .removeTags :=
      List.flatMap_singleton e.body .removeTags
    rw [hops]
    exact body_of_removal? e rfl
  · rw [Mutation.exists_storeAfterRemoval?_iff]
    simp only [Mutation.selects_tagUpdate, and_imp]
  · intro after hafter
    have hstripped := Mutation.stripped_of_storeAfterRemoval? hafter
    refine ⟨hstripped, ?_⟩
    rw [← Outcome.forall_mem_congr hstripped]
    intro d d' hd
    rw [hd.isUnder]
    refine imp_congr_right fun hunder => forall_congr' fun tag => ?_
    rw [hd.carries, Mutation.selects_tagUpdate]
    -- a label of these tags is left exactly where the update did not go
    constructor
    · rintro hself ⟨hcarries, hgone⟩ hbelow
      exact hgone ⟨hunder, hself hcarries hbelow⟩ hbelow
    · intro hleft hcarries hbelow
      by_contra hself
      exact hleft ⟨hcarries, fun hselected => absurd hselected.2 hself⟩ hbelow

/-- A tag with others below it is deleted. -/
def goldRemoval : Mutation where
  registry := { mappings := [], clusterAlias := "", language := "en", schemaRoot := "" }
  mapping :=
    { indexName := "tag_search_index", aliasName := "tag", parentAliases := ["all"]
      childAliases := [], indexMappingFile := "" }
  entity :=
    { id := .nil, entityType := "tag", name := "Gold", fullyQualifiedName := "Tier.Gold"
      version := .zero, updatedAt := 1 }
  change := none

/-- A table with labels of the given tags. -/
def labelledTable (tags : List String) : Stored where
  index := "table_search_index"
  aliases := ["table", "all"]
  doc :=
    { id := "orders"
      fields := [("tags", .arr (tags.map fun tag => .object [("tagFQN", .str tag)]))] }

/-- The tags of such a table are the given ones. -/
theorem carries_labelledTable {tags : List String} (tag : String) :
    Carries (labelledTable tags).doc tag ↔ tag ∈ tags := by
  have hread : ∀ label ∈ tags.map fun tag => Json.object [("tagFQN", .str tag)],
      (labelName? label).isSome = true := by
    intro label hlabel
    obtain ⟨_, -, rfl⟩ := List.mem_map.1 hlabel
    rfl
  rw [carries_iff_label rfl hread]
  constructor
  · rintro ⟨label, hlabel, hname⟩
    obtain ⟨_, htag, rfl⟩ := List.mem_map.1 hlabel
    cases hname
    exact htag
  · exact fun htag => ⟨_, List.mem_map_of_mem htag, rfl⟩

/-- A table with labels of the deleted tag and of one below it loses both, and keeps the label of a third
    tag, whose name goes on behind that of the deleted one. -/
theorem tag_removal_gold :
    ∃ u after, DeleteRules.standard.planDelete goldRemoval = [.update u]
      ∧ storeAfterRemoval? goldRemoval.registry u
        [labelledTable ["Tier.Gold", "Tier.Golden", "Tier.Gold.Fine"]] = some after
      ∧ (∀ d ∈ after, d.isUnder [goldRemoval.registry.globalAlias] = true → ∀ tag, Carries d.doc tag →
        ¬ AtOrBelow "Tier.Gold" tag)
      ∧ ∃ d ∈ after, d.isUnder [goldRemoval.registry.globalAlias] = true
        ∧ Carries d.doc "Tier.Golden" := by
  obtain ⟨u, hplan, -, hsuccess, hafter⟩ := tag_removal_iff (m := goldRemoval) (Or.inl rfl)
    [labelledTable ["Tier.Gold", "Tier.Golden", "Tier.Gold.Fine"]]
  obtain ⟨after, hrun⟩ := hsuccess.2 (by
    intro d hd _ _
    rw [List.mem_singleton.1 hd]
    exact ⟨_, rfl, by decide⟩)
  obtain ⟨hstripped, hgone⟩ := hafter after hrun
  refine ⟨u, after, hplan, hrun, hgone.2 ?_, ?_⟩
  · intro d hd _ _ _ _
    rw [List.mem_singleton.1 hd, carries_labelledTable]
    decide
  · obtain ⟨d, _, hd, -, rfl⟩ := List.forall₂_cons_left_iff.1 hstripped
    refine ⟨d, List.mem_cons_self, (hd.isUnder _).trans (by decide), ?_⟩
    rw [hd.carries, carries_labelledTable]
    exact ⟨by decide, fun _ => by decide⟩

/-- **A label outlives the tag above it.** -/
theorem nested_tag_survives :
    ∃ u after, DeleteRules.standard.planDelete goldRemoval = [.update u]
      ∧ storeAfterRemoval? goldRemoval.registry u [labelledTable ["Tier.Gold.Fine"]] = some after
      ∧ ∃ d ∈ after, d.isUnder [goldRemoval.registry.globalAlias] = true
        ∧ ∃ tag, Carries d.doc tag ∧ AtOrBelow goldRemoval.entity.fullyQualifiedName tag := by
  refine ⟨_, [labelledTable ["Tier.Gold.Fine"]], Mutation.planDelete_tag (Or.inl rfl), ?_, ?_⟩
  · decide +kernel
  · exact ⟨_, List.mem_singleton_self _, by decide, "Tier.Gold.Fine",
      (carries_labelledTable _).2 (List.mem_singleton_self _), by decide⟩

end CatalogIndex
