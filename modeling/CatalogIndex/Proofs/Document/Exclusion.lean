/-
  CatalogIndex.Proofs.Document.Exclusion — fields that are left out leave no trace.

  Some fields of an entity must not be found: the connection of a service, how a user logs in, the data
  of a table, the history of changes.  A builder drops them, and then its enrichments look at the body
  once more, where these fields still are.  What a document says of them is nothing at all if no
  enrichment reads such a field or writes one, and if no field of the names is one of them; builders of
  this kind are discreet, and all builders of known types are.

  Entities that differ only in what is left out have therefore the same document, and not only documents
  that look the same: fields are kept in the order of their keys, so equal lookups mean equal fields.

  ## Main definitions

    * `Builder.hidden` — the fields that a builder leaves out;
    * `Builder.Discreet` — a builder that neither reads nor writes such a field;
    * `Entity.AgreesBut` — two entities that agree but for some attributes and for their changes.

  ## Main results

    * `standardBuilders_discreet` — all builders of known types are discreet;
    * `Builder.build_discreet` — of bodies that agree but for hidden fields the document is the same;
    * `hidden_leaves_no_trace` — the same of entities.
-/
import CatalogIndex.Proofs.Document.Patch
import CatalogIndex.Proofs.Outcome

namespace CatalogIndex

/-! ## §1. Discreet builders. -/

namespace Builder

/-- The fields that a builder leaves out. -/
def hidden (b : Builder) : List String := alwaysExcluded ++ b.excluded

/-- The fields that every document of an entity gets from its names and its type. -/
def givenFields : List String := ["suggest", "fqnParts", "fqnDepth", "entityType"]

/-- No enrichment reads or writes a field that is left out, and neither names nor type do. -/
def Discreet (b : Builder) : Prop :=
  ∀ key ∈ b.hidden, key ∉ givenFields ∧ ∀ e ∈ b.enrichments, key ∉ e.sources ∧ e.target ≠ key

instance (b : Builder) : Decidable b.Discreet :=
  inferInstanceAs (Decidable (∀ key ∈ b.hidden, key ∉ givenFields
    ∧ ∀ e ∈ b.enrichments, key ∉ e.sources ∧ e.target ≠ key))

end Builder

/-- **All builders of known types are discreet.** -/
theorem standardBuilders_discreet {entityType : String} {b : Builder}
    (h : Keyed.get? standardBuilders entityType = some b) : b.Discreet := by
  have hall : ∀ b ∈ Keyed.values standardBuilders, b.Discreet := by decide +kernel
  exact hall b (List.mem_map.2 ⟨(entityType, b), Keyed.mem_of_get?_eq_some h, rfl⟩)

/-! ## §2. Documents keep their fields in order. -/

theorem ascending_adjust {fields : Fields} (h : Keyed.Ascending fields) (key : String)
    (f : Json → Json) : Keyed.Ascending (adjust fields key f) := by
  unfold adjust
  split
  · exact Keyed.ascending_insert h _ _
  · exact h

theorem ascending_putSuggestions {fields : Fields} (h : Keyed.Ascending fields) (key : String)
    (suggestions : List Suggestion) : Keyed.Ascending (putSuggestions fields key suggestions) := by
  unfold putSuggestions
  split
  · exact h
  · exact Keyed.ascending_insert h _ _

theorem Enrichment.ascending_apply {e : Enrichment} {body fields after : Fields}
    (h : Keyed.Ascending fields) (hafter : e.apply body fields = .ok after) :
    Keyed.Ascending after := by
  rw [apply_eq] at hafter
  obtain ⟨suggestions, -, rfl⟩ := Outcome.map_eq_ok hafter
  exact ascending_putSuggestions h _ _

namespace Builder

theorem ascending_plainFields (b : Builder) {x : Indexable} (h : Keyed.Ascending x.body) :
    Keyed.Ascending (b.plainFields x) := by
  have hshaped := ascending_adjust (ascending_adjust h "owners" namedOwners) "followers" bareFollowers
  have hkept := Keyed.ascending_eraseAll hshaped (alwaysExcluded ++ b.excluded)
  unfold plainFields
  dsimp only
  split
  · exact hkept
  · exact Keyed.ascending_layer hkept _

/-- A body in order gives a document in order. -/
theorem ascending_build {b : Builder} {x : Indexable} {d : Document} (h : Keyed.Ascending x.body)
    (hd : b.build x = .ok d) : Keyed.Ascending d.fields := by
  obtain ⟨fields, hrun, rfl⟩ := build_eq_ok hd
  have hfields : Keyed.Ascending fields :=
    Outcome.foldlM_keeps (P := fun _ fields => Keyed.Ascending fields)
      (fun _ _ _ _ hfields happly => Enrichment.ascending_apply hfields happly)
      (b.ascending_plainFields h) hrun
  exact Keyed.ascending_insert hfields _ _

/-! ## §3. What discreet builders show. -/

/-- A hidden field is in no document. -/
theorem get?_build_hidden {b : Builder} (hb : b.Discreet) {x : Indexable} {d : Document}
    (hd : b.build x = .ok d) {key : String} (hkey : key ∈ b.hidden) : Keyed.get? d.fields key = none := by
  obtain ⟨hgiven, henrichments⟩ := hb key hkey
  simp only [givenFields, List.mem_cons, List.not_mem_nil, or_false, not_or] at hgiven
  obtain ⟨hsuggest, hparts, hdepth, htype⟩ := hgiven
  have hnames : Keyed.get? (nameFields x).reverse key = none := by
    simp [nameFields, Keyed.get?, Ne.symm hsuggest, Ne.symm hparts, Ne.symm hdepth]
  rw [get?_build hd htype fun e he => (henrichments e he).2, get?_plainFields, hnames, ite_self,
    Option.none_or, if_pos (show key ∈ alwaysExcluded ++ b.excluded from hkey)]

/-- **Of bodies that agree but for hidden fields, a discreet builder makes the same document.** -/
theorem build_discreet {b : Builder} (hb : b.Discreet) {x y : Indexable} (hid : x.id = y.id)
    (hname : x.name = y.name) (hfqn : x.fullyQualifiedName = y.fullyQualifiedName)
    (hx : x.timeSeries = false) (hy : y.timeSeries = false)
    (hbody : AgreeOutside (· ∈ b.hidden) x.body y.body) (hascending : Keyed.Ascending x.body)
    (hascending' : Keyed.Ascending y.body) :
    ∃ d, b.build x = .ok d ∧ b.build y = .ok d ∧ ∀ key ∈ b.hidden, Keyed.get? d.fields key = none := by
  obtain ⟨d, hd⟩ := b.build_ok hx
  obtain ⟨d', hd'⟩ := b.build_ok hy
  have hlooks : ∀ e ∈ b.enrichments, (∀ key ∈ e.sources, ¬ key ∈ b.hidden) ∧ ¬ e.target ∈ b.hidden := by
    intro e he
    refine ⟨fun key hsource hkey => ?_, fun hkey => ?_⟩
    · exact ((hb key hkey).2 e he).1 hsource
    · exact ((hb e.target hkey).2 e he).2 rfl
  have hagree := build_agree hlooks hname hfqn (hx.trans hy.symm) hbody hd hd'
  have hlookups : ∀ key, Keyed.get? d.fields key = Keyed.get? d'.fields key := by
    intro key
    by_cases hkey : key ∈ b.hidden
    · rw [get?_build_hidden hb hd hkey, get?_build_hidden hb hd' hkey]
    · exact hagree key hkey
  have hfields : d.fields = d'.fields :=
    Keyed.eq_of_get?_eq (ascending_build hascending hd) (ascending_build hascending' hd') hlookups
  have hids : d.id = d'.id := by
    obtain ⟨fields, -, rfl⟩ := build_eq_ok hd
    obtain ⟨fields', -, rfl⟩ := build_eq_ok hd'
    exact hid
  have hsame : d = d' := by
    obtain ⟨id, fields⟩ := d
    obtain ⟨id', fields'⟩ := d'
    cases hids
    cases hfields
    rfl
  exact ⟨d, hd, hsame ▸ hd', fun key hkey => get?_build_hidden hb hd hkey⟩

end Builder

/-! ## §4. Entities. -/

/-- Two entities that agree but for some attributes and for the changes that they record.  Attributes are
    kept in the order of their keys. -/
structure Entity.AgreesBut (hidden : List String) (e e' : Entity) : Prop where
  entityType : e.entityType = e'.entityType
  id : e.id = e'.id
  name : e.name = e'.name
  fullyQualifiedName : e.fullyQualifiedName = e'.fullyQualifiedName
  version : e.version = e'.version
  updatedAt : e.updatedAt = e'.updatedAt
  owners : e.owners = e'.owners
  attributes : ∀ key ∉ hidden, Keyed.get? e.attributes key = Keyed.get? e'.attributes key
  ascending : Keyed.Ascending e.attributes
  ascending' : Keyed.Ascending e'.attributes

/-- The JSON forms of such entities agree as well, as long as changes are among what is hidden. -/
theorem Entity.AgreesBut.toFields {hidden : List String} {e e' : Entity} (h : AgreesBut hidden e e')
    (hchanges : ∀ key ∈ alwaysExcluded, key ∈ hidden) :
    AgreeOutside (· ∈ hidden) e.toFields e'.toFields := by
  intro key hkey
  by_cases hmoment : key = "updatedAt"
  · rw [hmoment, get?_toFields_updatedAt, get?_toFields_updatedAt, h.updatedAt]
  · have hvisible : key ∉ "updatedAt" :: alwaysExcluded := by
      intro hmem
      rcases List.mem_cons.1 hmem with heq | hmem
      · exact hmoment heq
      · exact hkey (hchanges key hmem)
    exact get?_toFields_congr h.id h.name h.fullyQualifiedName h.version h.owners hvisible
      (h.attributes key hkey)

/-- **What is left out leaves no trace.**  Two entities of a known type that agree but for the attributes
    that the builder of the type leaves out have the same document, whatever changes they record.  That
    document has neither these fields nor a record of changes. -/
theorem hidden_leaves_no_trace {e e' : Entity} {b : Builder}
    (hknown : Keyed.get? standardBuilders e.entityType = some b) (h : e.AgreesBut b.hidden e') :
    ∃ d, standardBuilders.build e.indexable = .ok d ∧ standardBuilders.build e'.indexable = .ok d
      ∧ ∀ key ∈ "changeDescription" :: "incrementalChangeDescription" :: b.excluded,
          Keyed.get? d.fields key = none := by
  have hknown' : Keyed.get? standardBuilders e'.entityType = some b := h.entityType ▸ hknown
  have hbody : AgreeOutside (· ∈ b.hidden) e.indexable.body e'.indexable.body :=
    h.toFields fun key hkey => List.mem_append_left _ hkey
  obtain ⟨d, hd, hd', hnone⟩ := Builder.build_discreet (standardBuilders_discreet hknown)
    (congrArg Uuid.toText h.id) h.name h.fullyQualifiedName rfl rfl hbody
    (Keyed.ascending_layer h.ascending _) (Keyed.ascending_layer h.ascending' _)
  have hbuild : standardBuilders.build e.indexable = b.build e.indexable := Builders.build_of_get? hknown
  have hbuild' : standardBuilders.build e'.indexable = b.build e'.indexable :=
    Builders.build_of_get? hknown'
  exact ⟨d, hbuild.trans hd, hbuild'.trans hd', hnone⟩

/-- A table with a sample of its data, and with a change that gave the sample. -/
def sampled : Entity :=
  { id := .nil, entityType := "table", name := "orders", fullyQualifiedName := "db.orders"
    version := .zero, updatedAt := 1
    incremental := some { fieldsAdded := [{ name := "sampleData", newValue := some (.str "4111") }] }
    attributes := [("columns", .arr [.obj [("name", .str "card")]]),
      ("sampleData", .obj [("rows", .arr [.arr [.str "4111"]])]),
      ("service", .obj [("name", .str "mysql")])] }

/-- The table without the sample and with joins instead, and without changes. -/
def joined : Entity :=
  { sampled with
    incremental := none
    attributes := [("columns", .arr [.obj [("name", .str "card")]]), ("joins", .str "customers"),
      ("service", .obj [("name", .str "mysql")])] }

/-- Neither the sample nor the joins can be told from the document of the table. -/
theorem hidden_leaves_no_trace_sampled :
    ∃ d, standardBuilders.build sampled.indexable = .ok d
      ∧ standardBuilders.build joined.indexable = .ok d
      ∧ ∀ key ∈ ["changeDescription", "incrementalChangeDescription", "sampleData", "tableProfile",
          "joins"], Keyed.get? d.fields key = none := by
  have hknown : (Keyed.get? standardBuilders sampled.entityType).map (·.excluded)
      = some ["sampleData", "tableProfile", "joins"] := by decide +kernel
  obtain ⟨b, hb, hexcluded⟩ := Option.map_eq_some_iff.1 hknown
  have hagrees : sampled.AgreesBut b.hidden joined := {
    entityType := rfl
    id := rfl
    name := rfl
    fullyQualifiedName := rfl
    version := rfl
    updatedAt := rfl
    owners := rfl
    attributes := by
      intro key hkey
      have hsample : ¬ "sampleData" = key := by
        rintro rfl
        exact hkey (by simp [Builder.hidden, hexcluded])
      have hjoins : ¬ "joins" = key := by
        rintro rfl
        exact hkey (by simp [Builder.hidden, hexcluded])
      simp [sampled, joined, Keyed.get?, hsample, hjoins]
    ascending := Keyed.ascending_iff_keys.2 (by decide)
    ascending' := Keyed.ascending_iff_keys.2 (by decide) }
  obtain ⟨d, hd, hd', hnone⟩ := hidden_leaves_no_trace hb hagrees
  exact ⟨d, hd, hd', hexcluded ▸ hnone⟩

end CatalogIndex
