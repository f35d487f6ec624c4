/-
  CatalogIndex.Proofs.Index.Layering — an extension counts as a whole or not at all.

  The mappings of a deployment come as two texts, a base and an extension laid over it.  Each is read
  entry by entry, and a reader that stops at the first bad entry could leave the entries before it behind.
  What a text says is therefore put here without the reader: whether all of it is sound, and the mapping
  that it has for a type.  From the two texts follows the mapping of every type, and a base that is not
  sound is an error of the configuration.

  ## Main definitions

    * `Layer.Sound` — a text that a layer can be read from;
    * `Layer.entry?` — the mapping that a text has for a type.

  ## Main results

    * `Layer.read?_eq_none_iff`, `Layer.get?_read?` — the reader, by what the text says;
    * `Registry.mapping?_layered` — one layer over another;
    * `Registry.layered_or_ignored` — sound extensions count for all types, others for none.
-/
import CatalogIndex.Index.Registry
import CatalogIndex.Proofs.Keyed
import CatalogIndex.Proofs.Outcome

namespace CatalogIndex

/-! ## §1. Texts of objects. -/

/-- An object that was read from a text has its fields in order, each key once. -/
theorem Json.ascending_of_parse? {text : String} {fields : Fields}
    (h : Json.parse? text = some (.obj fields)) : Keyed.Ascending fields := by
  obtain ⟨written, -, h⟩ := Option.bind_eq_some_iff.1 h
  cases written with
  | obj pairs =>
    obtain ⟨found, -, hobject⟩ := Option.map_eq_some_iff.1 h
    cases hobject
    exact Keyed.ascending_layer List.Pairwise.nil found
  | null => cases h
  | bool b => cases h
  | num value =>
    obtain ⟨n, -, hn⟩ := Option.map_eq_some_iff.1 h
    cases hn
  | str s =>
    obtain ⟨s', -, hs⟩ := Option.map_eq_some_iff.1 h
    cases hs
  | arr items =>
    obtain ⟨vs, -, hvs⟩ := Option.map_eq_some_iff.1 h
    cases hvs

namespace Layer

/-! ## §2. What a text says. -/

/-- The text is an object in which every entry is a mapping. -/
def Sound (text : String) : Prop :=
  ∃ fields, Json.parse? text = some (.obj fields)
    ∧ ∀ entry ∈ fields, ∃ m, IndexMapping.decode? entry.2 = some m

/-- The mapping that stands in the text under a type. -/
def entry? (text entityType : String) : Option IndexMapping :=
  ((Json.parse? text).bind (·.field? entityType)).bind IndexMapping.decode?

/-- Entries are decoded where they stand. -/
theorem get?_ofFields? {fields : Fields} {layer : Layer} (h : ofFields? fields = some layer) :
    Keyed.keys layer = Keyed.keys fields
      ∧ ∀ entityType, Keyed.get? layer entityType
        = (Keyed.get? fields entityType).bind IndexMapping.decode? := by
  have hall := Outcome.mapM_eq_some_iff.1 h
  clear h
  induction hall with
  | nil => exact ⟨rfl, fun _ => rfl⟩
  | @cons field entry fields layer hentry _ ih =>
    obtain ⟨key, v⟩ := field
    obtain ⟨m, hm, rfl⟩ := Option.map_eq_some_iff.1 hentry
    refine ⟨congrArg (key :: ·) ih.1, fun entityType => ?_⟩
    by_cases hkey : key = entityType
    · simp [Keyed.get?, hkey, hm]
    · simpa [Keyed.get?, hkey] using ih.2 entityType

/-- A single bad entry is enough for there to be no layer. -/
theorem exists_ofFields?_iff {fields : Fields} :
    (∃ layer, ofFields? fields = some layer)
      ↔ ∀ entry ∈ fields, ∃ m, IndexMapping.decode? entry.2 = some m := by
  have hlayer : (∃ layer, ofFields? fields = some layer)
      ↔ ∃ layer, List.Forall₂ (fun (field : String × Json) (entry : String × IndexMapping) =>
          (IndexMapping.decode? field.2).map (field.1, ·) = some entry) fields layer :=
    exists_congr fun layer => Outcome.mapM_eq_some_iff
  rw [hlayer, Outcome.exists_forall₂_iff]
  refine forall₂_congr fun field _ => ?_
  constructor
  · rintro ⟨entry, hentry⟩
    obtain ⟨m, hm, -⟩ := Option.map_eq_some_iff.1 hentry
    exact ⟨m, hm⟩
  · rintro ⟨m, hm⟩
    exact ⟨(field.1, m), by rw [hm]; rfl⟩

/-- A layer is read from the fields of an object. -/
theorem read?_eq_some_iff {text : String} {layer : Layer} :
    read? text = some layer
      ↔ ∃ fields, Json.parse? text = some (.obj fields) ∧ ofFields? fields = some layer := by
  unfold read?
  rw [Option.bind_eq_some_iff]
  constructor
  · rintro ⟨fields, hfields, hlayer⟩
    obtain ⟨v, hv, hobject⟩ := Option.bind_eq_some_iff.1 hfields
    cases v with
    | obj found =>
      cases hobject
      exact ⟨_, hv, hlayer⟩
    | _ => cases hobject
  · rintro ⟨fields, hparse, hlayer⟩
    exact ⟨fields, by rw [hparse]; rfl, hlayer⟩

/-- A layer is read from the sound texts, and from no others. -/
theorem exists_read?_iff {text : String} : (∃ layer, read? text = some layer) ↔ Sound text := by
  constructor
  · rintro ⟨layer, hlayer⟩
    obtain ⟨fields, hparse, hfields⟩ := read?_eq_some_iff.1 hlayer
    exact ⟨fields, hparse, exists_ofFields?_iff.1 ⟨layer, hfields⟩⟩
  · rintro ⟨fields, hparse, hentries⟩
    obtain ⟨layer, hlayer⟩ := exists_ofFields?_iff.2 hentries
    exact ⟨layer, read?_eq_some_iff.2 ⟨fields, hparse, hlayer⟩⟩

theorem read?_eq_none_iff {text : String} : read? text = none ↔ ¬ Sound text := by
  rw [← exists_read?_iff, Option.eq_none_iff_forall_ne_some, not_exists]

/-- **What is read is what the text says**: the layer is in order, and has the mappings of the text. -/
theorem get?_read? {text : String} {layer : Layer} (h : read? text = some layer) :
    Keyed.Ascending layer ∧ ∀ entityType, Keyed.get? layer entityType = entry? text entityType := by
  obtain ⟨fields, hparse, hfields⟩ := read?_eq_some_iff.1 h
  obtain ⟨hkeys, hget⟩ := get?_ofFields? hfields
  refine ⟨?_, fun entityType => ?_⟩
  · rw [Keyed.ascending_iff_keys, hkeys, ← Keyed.ascending_iff_keys]
    exact Json.ascending_of_parse? hparse
  · rw [hget, entry?, hparse]
    rfl

end Layer

namespace Registry

/-! ## §3. One layer over another. -/

variable {r : Registry} {base : String}

/-- The types of a registry are those that have a mapping. -/
theorem mem_entityTypes {entityType : String} :
    entityType ∈ r.entityTypes ↔ (r.mapping? entityType).isSome = true :=
  (Keyed.contains_iff_mem_keys r.mappings entityType).symm

/-- A type has the mapping of the upper layer, and where that has none, the one of the lower. -/
theorem mapping?_layered {mappings upper : Layer} (hr : r.mappings = Keyed.layer mappings upper)
    (hupper : Keyed.Ascending upper) (entityType : String) :
    r.mapping? entityType = (Keyed.get? upper entityType).or (Keyed.get? mappings entityType) := by
  unfold mapping?
  rw [hr, Keyed.get?_layer, Keyed.get?_reverse hupper]

/-- Without a sound base there is no registry, and it is the configuration that is at fault. -/
theorem ofLayers_of_unsound (h : ¬ Layer.Sound base) (extension : Option String)
    (clusterAlias language schemaRoot : String) :
    ofLayers base extension clusterAlias language schemaRoot = .error .malformedBase := by
  unfold ofLayers
  rw [Layer.read?_eq_none_iff.2 h]

/-- With one there is, and the layer over it is the extension if that can be read. -/
theorem ofLayers_of_sound (h : Layer.Sound base) (extension : Option String)
    (clusterAlias language schemaRoot : String) : ∃ r mappings,
    ofLayers base extension clusterAlias language schemaRoot = .ok r
      ∧ Layer.read? base = some mappings
      ∧ r.mappings = Keyed.layer mappings ((extension.bind Layer.read?).getD []) := by
  obtain ⟨mappings, hbase⟩ := Layer.exists_read?_iff.2 h
  unfold ofLayers
  rw [hbase]
  exact ⟨_, mappings, rfl, rfl, rfl⟩

/-- **An extension counts as a whole or not at all.**  A base that is not sound as a whole is an error of
    the configuration; on a sound one there is always a registry.  A sound extension gives the mappings
    of its types, and the base those of all others; one that is not sound changes no mapping of any type,
    wherever the fault in it is. -/
theorem layered_or_ignored (base : String) (extension : Option String)
    (clusterAlias language schemaRoot : String) :
    (¬ Layer.Sound base →
      ∃ e, ofLayers base extension clusterAlias language schemaRoot = .error e ∧ e.kind = .config)
    ∧ (Layer.Sound base →
      ∃ r, ofLayers base extension clusterAlias language schemaRoot = .ok r
        ∧ (∀ upper ∈ extension, Layer.Sound upper → ∀ entityType,
            r.mapping? entityType
              = (Layer.entry? upper entityType).or (Layer.entry? base entityType))
        ∧ ((∀ upper ∈ extension, ¬ Layer.Sound upper) →
            (∀ entityType, r.mapping? entityType = Layer.entry? base entityType)
              ∧ ∀ entityType, entityType ∈ r.entityTypes
                ↔ (Layer.entry? base entityType).isSome = true)) := by
  refine ⟨fun h => ⟨_, ofLayers_of_unsound h _ _ _ _, rfl⟩, fun h => ?_⟩
  obtain ⟨r, mappings, hr, hbase, hmappings⟩ :=
    ofLayers_of_sound h extension clusterAlias language schemaRoot
  refine ⟨r, hr, ?_, ?_⟩
  · intro upper hupper hsound entityType
    obtain ⟨layer, hlayer⟩ := Layer.exists_read?_iff.2 hsound
    obtain ⟨hascending, hget⟩ := Layer.get?_read? hlayer
    rw [Option.mem_def.1 hupper, Option.bind_some, hlayer, Option.getD_some] at hmappings
    rw [mapping?_layered hmappings hascending, hget, (Layer.get?_read? hbase).2]
  · intro hunsound
    have hnone : extension.bind Layer.read? = none :=
      Option.bind_eq_none_iff.2 fun upper hupper => Layer.read?_eq_none_iff.2 (hunsound upper hupper)
    rw [hnone, Option.getD_none] at hmappings
    have hget : ∀ entityType, r.mapping? entityType = Layer.entry? base entityType := fun entityType => by
      rw [mapping?_layered hmappings List.Pairwise.nil, Keyed.get?_nil, Option.none_or,
        (Layer.get?_read? hbase).2]
    exact ⟨hget, fun entityType => by rw [mem_entityTypes, hget]⟩

/-- A mapping that names its index and no aliases. -/
def bareMapping (indexName : String) : IndexMapping := { indexName, indexMappingFile := "f" }

/-- The same, written as a list of its fields. -/
def writtenMapping (indexName : String) : Json :=
  .arr [.str indexName, .str "", .arr [], .arr [], .str "f"]

/-- A base with a page, an extension with another page and a new type, and the same extension with one
    more entry behind, which is no mapping. -/
def pageBase : String := (Json.object [("page", writtenMapping "v1")]).compact

def pageExtension : String :=
  (Json.object [("new", writtenMapping "n"), ("page", writtenMapping "v2")]).compact

def brokenExtension : String :=
  (Json.object [("new", writtenMapping "n"), ("page", writtenMapping "v2"), ("tag", .null)]).compact

/-- The extension replaces the page and adds the type; with the last entry it does neither, and as a base
    it is an error. -/
theorem layered_or_ignored_page :
    (∃ r, ofLayers pageBase (some pageExtension) "acme" "en" "" = .ok r
        ∧ r.mapping? "page" = some (bareMapping "v2") ∧ r.mapping? "new" = some (bareMapping "n"))
      ∧ (∃ r, ofLayers pageBase (some brokenExtension) "acme" "en" "" = .ok r
        ∧ r.mapping? "page" = some (bareMapping "v1") ∧ "new" ∉ r.entityTypes)
      ∧ ∃ e, ofLayers brokenExtension none "acme" "en" "" = .error e ∧ e.kind = .config := by
  -- each text is read once; what it says of a type is then looked up in what was read
  have hbase : Layer.read? pageBase = some [("page", bareMapping "v1")] := by decide +kernel
  have hupper : Layer.read? pageExtension
      = some [("new", bareMapping "n"), ("page", bareMapping "v2")] := by decide +kernel
  have hbroken : ¬ Layer.Sound brokenExtension := Layer.read?_eq_none_iff.1 (by decide +kernel)
  have hsound : Layer.Sound pageBase := Layer.exists_read?_iff.1 ⟨_, hbase⟩
  obtain ⟨r, hr, hlayered, -⟩ := (layered_or_ignored pageBase (some pageExtension) "acme" "en" "").2 hsound
  obtain ⟨r', hr', -, hignored⟩ :=
    (layered_or_ignored pageBase (some brokenExtension) "acme" "en" "").2 hsound
  have hget := hlayered pageExtension rfl (Layer.exists_read?_iff.1 ⟨_, hupper⟩)
  obtain ⟨hget', htypes'⟩ := hignored fun upper hmem => Option.some.inj hmem ▸ hbroken
  simp only [← (Layer.get?_read? hbase).2, ← (Layer.get?_read? hupper).2] at hget hget' htypes'
  refine ⟨⟨r, hr, ?_, ?_⟩, ⟨r', hr', ?_, ?_⟩, ?_⟩
  · rw [hget]
    rfl
  · rw [hget]
    rfl
  · rw [hget']
    rfl
  · rw [htypes']
    decide
  · exact (layered_or_ignored brokenExtension none "acme" "en" "").1 hbroken

end Registry

end CatalogIndex
