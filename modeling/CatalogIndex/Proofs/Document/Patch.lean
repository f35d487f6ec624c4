/-
  CatalogIndex.Proofs.Document.Patch — a script brings a document to where a rebuild would.

  Two ways lead from a changed entity to its document: a script on the document of the entity as it
  was, and the document built anew.  The fields of the result are compared one by one.  The moment of
  the change and the copied fields are assigned by the script.  The followers are computed by the
  script and come out as the change says.  On all other fields the script does nothing, and both
  builds see the same body.

  The two ways differ in one corner.  Where the old entity has no followers and the change only drops
  some, the script leaves the field out, while a rebuild stores the empty list of the new entity.

  ## Main results

    * `standardBuilders_untouched` — no builder reads, writes or leaves out a field that a script
      changes;
    * `patch_agrees_with_rebuild` — the comparison, with the corner;
    * `dropped_from_no_followers` — an entity in the corner.
-/
import CatalogIndex.Proofs.Document.Build
import CatalogIndex.Proofs.Document.Coverage

namespace CatalogIndex

/-! ## §1. Fields that a script changes, and builders. -/

/-- The fields that a script of `planWrite` can change. -/
def patchableFields : List String := ["updatedAt", "followers", "queryUsedIn"] ++ copiedFields

theorem mem_patchableFields {entityType field : String} (h : isCopied entityType field = true) :
    field ∈ patchableFields := by
  rcases List.mem_cons.1 (mem_of_isCopied h) with rfl | hmem
  · decide
  · exact List.mem_append_right _ hmem

/-- **No builder looks at a field that a script changes, or leaves it out.** -/
theorem standardBuilders_untouched {entityType : String} {b : Builder}
    (h : Keyed.get? standardBuilders entityType = some b) {key : String}
    (hkey : key ∈ patchableFields ++ alwaysExcluded) :
    (∀ e ∈ b.enrichments, key ∉ e.sources ∧ e.target ≠ key)
      ∧ (key ∈ patchableFields → key ∉ alwaysExcluded ++ b.excluded) := by
  have hall : ∀ b ∈ Keyed.values standardBuilders, ∀ key ∈ patchableFields ++ alwaysExcluded,
      (∀ e ∈ b.enrichments, key ∉ e.sources ∧ e.target ≠ key)
        ∧ (key ∈ patchableFields → key ∉ alwaysExcluded ++ b.excluded) := by decide +kernel
  have hb : b ∈ Keyed.values standardBuilders :=
    List.mem_map.2 ⟨(entityType, b), Keyed.mem_of_get?_eq_some h, rfl⟩
  exact hall b hb key hkey

/-- The names of an entity say nothing about a field that a script changes. -/
theorem get?_nameFields (x : Indexable) {key : String}
    (hkey : key ∈ patchableFields ++ alwaysExcluded) :
    Keyed.get? (Builder.nameFields x).reverse key = none := by
  have hall : ∀ key ∈ patchableFields ++ alwaysExcluded,
      key ≠ "suggest" ∧ key ≠ "fqnParts" ∧ key ≠ "fqnDepth" := by decide
  obtain ⟨h₁, h₂, h₃⟩ := hall key hkey
  simp [Builder.nameFields, Keyed.get?, h₁.symm, h₂.symm, h₃.symm]

/-- A field that a script changes goes from the body to the document as it is, but for its shape. -/
theorem get?_build_patchable {entityType : String} {b : Builder}
    (hb : Keyed.get? standardBuilders entityType = some b) {e : Entity} {d : Document}
    (hd : b.build e.indexable = .ok d) {key : String} (hkey : key ∈ patchableFields) :
    Keyed.get? d.fields key = (Keyed.get? e.toFields key).map (Builder.shape key) := by
  have hmem : key ∈ patchableFields ++ alwaysExcluded := List.mem_append_left _ hkey
  obtain ⟨huntouched, hkept⟩ := standardBuilders_untouched hb hmem
  have htype : key ≠ "entityType" := by
    have hall : ∀ key ∈ patchableFields, key ≠ "entityType" := by decide
    exact hall key hkey
  rw [Builder.get?_build hd htype (fun e he => (huntouched e he).2), Builder.get?_plainFields,
    get?_nameFields _ hmem, if_neg (hkept hkey), ite_self, Option.none_or]
  rfl

/-- The history of changes is in no document. -/
theorem get?_build_excluded {entityType : String} {b : Builder}
    (hb : Keyed.get? standardBuilders entityType = some b) {e : Entity} {d : Document}
    (hd : b.build e.indexable = .ok d) {key : String} (hkey : key ∈ alwaysExcluded) :
    Keyed.get? d.fields key = none := by
  have hmem : key ∈ patchableFields ++ alwaysExcluded := List.mem_append_right _ hkey
  obtain ⟨huntouched, -⟩ := standardBuilders_untouched hb hmem
  have htype : key ≠ "entityType" := by
    have hall : ∀ key ∈ alwaysExcluded, key ≠ "entityType" := by decide
    exact hall key hkey
  rw [Builder.get?_build hd htype (fun e he => (huntouched e he).2), Builder.get?_plainFields,
    get?_nameFields _ hmem, if_pos (List.mem_append_left _ hkey), ite_self, Option.none_or]

/-! ## §2. The JSON form of an entity. -/

namespace Entity

/-- The fields of the identity, which lie over the attributes. -/
def identityFields : List String :=
  ["id", "name", "fullyQualifiedName", "version", "updatedAt", "owners", "changeDescription",
    "incrementalChangeDescription"]

/-- The fields of the JSON form, one by one: first what a change brings along, then the rest of the
    identity, then the attributes. -/
theorem get?_toFields (e : Entity) (key : String) :
    Keyed.get? e.toFields key
      = (if key = "incrementalChangeDescription" then e.incremental.map ChangeDescription.toJson
          else none).or
        ((if key = "changeDescription" then e.change.map ChangeDescription.toJson else none).or
        ((if e.owners.isEmpty then none
          else Keyed.get? [("owners", Json.arr (e.owners.map EntityReference.toJson))] key).or
        ((Keyed.get? [("updatedAt", .int e.updatedAt)] key).or
        ((Keyed.get? [("version", .double e.version),
            ("fullyQualifiedName", .str e.fullyQualifiedName), ("name", .str e.name),
            ("id", e.id.toJson)] key).or
          (Keyed.get? e.attributes key))))) := by
  have hidentity : [("id", e.id.toJson), ("name", .str e.name),
      ("fullyQualifiedName", .str e.fullyQualifiedName), ("version", .double e.version),
      ("updatedAt", .int e.updatedAt)].reverse
    = [("updatedAt", Json.int e.updatedAt)] ++ [("version", .double e.version),
        ("fullyQualifiedName", .str e.fullyQualifiedName), ("name", .str e.name),
        ("id", e.id.toJson)] := rfl
  unfold toFields
  rw [Keyed.get?_layer, List.reverse_append, List.reverse_append, List.reverse_append, hidentity,
    Json.reverse_present, Json.reverse_present]
  simp only [Keyed.get?_append, Json.get?_present, Option.or_assoc]
  by_cases howners : e.owners.isEmpty
  · simp only [howners, if_true, List.reverse_nil, Keyed.get?_nil]
  · simp only [howners, Bool.false_eq_true, if_false, List.reverse_singleton]

/-- Outside of the identity, the fields of an entity are its attributes. -/
theorem get?_toFields_attribute (e : Entity) {key : String} (h : key ∉ identityFields) :
    Keyed.get? e.toFields key = Keyed.get? e.attributes key := by
  have hnone : ∀ entries : Fields, entries.map (·.1) ⊆ identityFields →
      Keyed.get? entries key = none :=
    fun entries hsub => Keyed.get?_eq_none_of_notMem fun hmem => h (hsub hmem)
  have hne : ∀ name ∈ identityFields, key ≠ name := fun name hname heq => h (heq ▸ hname)
  rw [get?_toFields, if_neg (hne _ (by simp [identityFields])),
    if_neg (hne _ (by simp [identityFields])), hnone [_] (by simp [identityFields]),
    hnone [_] (by simp [identityFields]), hnone [_, _, _, _] (by simp [identityFields]), ite_self,
    Option.none_or]
  rfl

theorem get?_toFields_updatedAt (e : Entity) :
    Keyed.get? e.toFields "updatedAt" = some (.int e.updatedAt) := by
  have howners : Keyed.get? [("owners", Json.arr (e.owners.map EntityReference.toJson))] "updatedAt"
      = none := rfl
  rw [get?_toFields, if_neg (by decide), if_neg (by decide), howners, ite_self]
  rfl

/-- Two entities of the same identity have the same fields where their attributes agree, but for the
    moment and the history of changes. -/
theorem get?_toFields_congr {a b : Entity} (hid : a.id = b.id) (hname : a.name = b.name)
    (hfqn : a.fullyQualifiedName = b.fullyQualifiedName) (hversion : a.version = b.version)
    (howners : a.owners = b.owners) {key : String} (hkey : key ∉ "updatedAt" :: alwaysExcluded)
    (h : Keyed.get? a.attributes key = Keyed.get? b.attributes key) :
    Keyed.get? a.toFields key = Keyed.get? b.toFields key := by
  simp only [alwaysExcluded, List.mem_cons, List.not_mem_nil, or_false, not_or] at hkey
  obtain ⟨h₁, h₂, h₃⟩ := hkey
  have hmoment : ∀ n : Int, Keyed.get? [("updatedAt", Json.int n)] key = none := fun n => by
    simp only [Keyed.get?, if_neg (Ne.symm h₁)]
  rw [get?_toFields, get?_toFields, if_neg h₂, if_neg h₃, if_neg h₂, if_neg h₃, hmoment, hmoment,
    hid, hname, hfqn, hversion, howners, h]

end Entity

/-! ## §3. An entity before and after a change. -/

/-- The ids of the followers in an attribute. -/
def followerIds (v : Option Json) : List Json :=
  ((v.bind Json.asArr?).getD []).filterMap followerId?

/-- `new` has the identity of `old`, and its attributes where the change names nothing. -/
structure ChangedBy (c : ChangeDescription) (old new : Entity) : Prop where
  id : old.id = new.id
  entityType : old.entityType = new.entityType
  name : old.name = new.name
  fullyQualifiedName : old.fullyQualifiedName = new.fullyQualifiedName
  version : old.version = new.version
  owners : old.owners = new.owners
  attributes : ∀ key, c.touches key = false →
    Keyed.get? old.attributes key = Keyed.get? new.attributes key

/-- The followers of `new` are those of `old`, with those that the change adds and without those that
    it drops. -/
structure FollowersChangedBy (c : ChangeDescription) (old new : Entity) : Prop where
  addedOnce : (followerEntries c.fieldsAdded).length ≤ 1
  deletedOnce : (followerEntries c.fieldsDeleted).length ≤ 1
  oldList : ∀ v, Keyed.get? old.attributes "followers" = some v → ∃ items, v = .arr items
  newList : ∀ v, Keyed.get? new.attributes "followers" = some v → ∃ items, v = .arr items
  /-- The attribute is not there only if it was not there before and nothing is added. -/
  kept : Keyed.get? new.attributes "followers" = none →
    Keyed.get? old.attributes "followers" = none ∧ followerEntries c.fieldsAdded = []
  ids : followerIds (Keyed.get? new.attributes "followers")
    = (appendMissing (followerIds (Keyed.get? old.attributes "followers"))
        (listedIds (followerEntries c.fieldsAdded) FieldChange.newAs)).filter
          (· ∉ listedIds (followerEntries c.fieldsDeleted) FieldChange.oldAs)

/-- The corner: nothing is added to followers that were not there, and yet the new entity has a list
    of them. -/
structure DropsFromNone (c : ChangeDescription) (old new : Entity) : Prop where
  touched : c.touches "followers" = true
  noneAdded : followerEntries c.fieldsAdded = []
  noneBefore : Keyed.get? old.attributes "followers" = none
  someAfter : Keyed.get? new.attributes "followers" ≠ none

theorem mem_names_iff {c : ChangeDescription} {key : String} :
    key ∈ c.all.map (·.name) ↔ c.touches key = true := by
  simp [ChangeDescription.touches]

/-- A list of followers in an attribute reaches the document as a list of ids. -/
theorem valueAt_followers {entityType : String} {b : Builder}
    (hb : Keyed.get? standardBuilders entityType = some b) {e : Entity} {d : Document}
    (hd : b.build e.indexable = .ok d)
    (hlist : ∀ v, Keyed.get? e.attributes "followers" = some v → ∃ items, v = .arr items) :
    valueAt d.fields "followers"
      = Json.orNull (((Keyed.get? e.attributes "followers").map
          fun v => followerIds (some v)).map .arr) := by
  unfold valueAt
  rw [get?_build_patchable hb hd (by decide), Entity.get?_toFields_attribute e (by decide)]
  cases hv : Keyed.get? e.attributes "followers" with
  | none => rfl
  | some v =>
    obtain ⟨items, rfl⟩ := hlist v hv
    rfl

/-! ## §4. The script and the rebuild, field by field. -/

section FieldByField

variable {old new : Entity} {c : ChangeDescription} {b : Builder} {s : Script}
  {before after : Document}

/-- A field that did not change is the same in both documents. -/
theorem valueAt_unchanged (hb : Keyed.get? standardBuilders new.entityType = some b)
    (hsame : ChangedBy c old new)
    (hcovers : Covers new (c.all.map (·.name)) (followerEntries c.fieldsAdded)
      (followerEntries c.fieldsDeleted) s)
    (hbefore : b.build old.indexable = .ok before) (hafter : b.build new.indexable = .ok after)
    {key : String} (hmoment : key ≠ "updatedAt") (hkey : c.touches key = false) :
    valueAt before.fields key = valueAt after.fields key := by
  by_cases hexcluded : key ∈ alwaysExcluded
  · exact valueAt_eq_of_get? <|
      (get?_build_excluded hb hbefore hexcluded).trans (get?_build_excluded hb hafter hexcluded).symm
  · -- everything that may differ between the bodies is out of sight of the builder
    let P : String → Prop := fun k =>
      k = "updatedAt" ∨ k ∈ alwaysExcluded ∨ c.touches k = true
    have hsmall : ∀ k, P k → k ∈ patchableFields ++ alwaysExcluded := by
      intro k hk
      rcases hk with rfl | hk | hk
      · decide
      · exact List.mem_append_right _ hk
      · refine List.mem_append_left _ ?_
        by_cases hf : k = "followers"
        · rw [hf]
          decide
        · have hcopied := (hcovers.copied k (mem_names_iff.2 hk) hf).1
          exact mem_patchableFields hcopied
    have hbody : AgreeOutside P old.toFields new.toFields := by
      intro k hk
      have hk₁ : k ≠ "updatedAt" := fun h => hk (Or.inl h)
      have hk₂ : k ∉ alwaysExcluded := fun h => hk (Or.inr (Or.inl h))
      have hk₃ : c.touches k = false := by
        cases h : c.touches k with
        | false => rfl
        | true => exact absurd (Or.inr (Or.inr h)) hk
      exact Entity.get?_toFields_congr hsame.id hsame.name hsame.fullyQualifiedName hsame.version
        hsame.owners (by simp [hk₁, hk₂]) (hsame.attributes k hk₃)
    have hout : ¬ P key := by
      rintro (h | h | h)
      · exact hmoment h
      · exact hexcluded h
      · rw [hkey] at h
        cases h
    have hlooks : ∀ e ∈ b.enrichments, (∀ k ∈ e.sources, ¬ P k) ∧ ¬ P e.target := by
      intro e he
      refine ⟨fun k hsource hk => ?_, fun hk => ?_⟩
      · exact ((standardBuilders_untouched hb (hsmall k hk)).1 e he).1 hsource
      · exact ((standardBuilders_untouched hb (hsmall _ hk)).1 e he).2 rfl
    have hseries : old.indexable.timeSeries = new.indexable.timeSeries := rfl
    exact valueAt_eq_of_get? <| Builder.build_agree hlooks hsame.name hsame.fullyQualifiedName hseries
      hbody hbefore hafter key hout

/-- Outside of the corner, the followers after the script are those of the rebuilt document. -/
theorem run_followers_eq (hb : Keyed.get? standardBuilders new.entityType = some b)
    (hfollowers : FollowersChangedBy c old new) (htouched : c.touches "followers" = true)
    (hcovers : Covers new (c.all.map (·.name)) (followerEntries c.fieldsAdded)
      (followerEntries c.fieldsDeleted) s)
    (hbefore : b.build old.indexable = .ok before) (hafter : b.build new.indexable = .ok after)
    (hcorner : ¬ DropsFromNone c old new) :
    runField? s.params s.ops "followers" (valueAt before.fields "followers")
      = some (valueAt after.fields "followers") := by
  have hknown : ((Keyed.get? old.attributes "followers").map fun v => followerIds (some v)).getD []
      = followerIds (Keyed.get? old.attributes "followers") := by
    cases Keyed.get? old.attributes "followers" <;> rfl
  rw [valueAt_followers hb hbefore hfollowers.oldList, valueAt_followers hb hafter hfollowers.newList,
    hcovers.run_followers hfollowers.addedOnce hfollowers.deletedOnce, hknown, ← hfollowers.ids]
  cases hnew : Keyed.get? new.attributes "followers" with
  | none =>
    -- no list in the new entity: then there was none, and nothing came
    obtain ⟨hold, hadded⟩ := hfollowers.kept hnew
    rw [if_pos ⟨by rw [hold]; rfl, hadded⟩]
    rfl
  | some v =>
    -- a list in the new entity: outside of the corner the script ends with a list as well
    have hlist : ¬ ((Keyed.get? old.attributes "followers").map (fun v => followerIds (some v)) = none
        ∧ followerEntries c.fieldsAdded = []) := by
      rintro ⟨hold, hadded⟩
      exact hcorner ⟨htouched, hadded, Option.map_eq_none_iff.1 hold, by simp [hnew]⟩
    rw [if_neg hlist]
    rfl

/-- In the corner, the script leaves no followers, and the rebuilt document has an empty list. -/
theorem run_followers_corner (hb : Keyed.get? standardBuilders new.entityType = some b)
    (hfollowers : FollowersChangedBy c old new)
    (hcovers : Covers new (c.all.map (·.name)) (followerEntries c.fieldsAdded)
      (followerEntries c.fieldsDeleted) s)
    (hbefore : b.build old.indexable = .ok before) (hafter : b.build new.indexable = .ok after)
    (hcorner : DropsFromNone c old new) :
    runField? s.params s.ops "followers" (valueAt before.fields "followers") = some .null
      ∧ valueAt after.fields "followers" = .arr [] := by
  refine ⟨?_, ?_⟩
  · rw [valueAt_followers hb hbefore hfollowers.oldList,
      hcovers.run_followers hfollowers.addedOnce hfollowers.deletedOnce,
      if_pos ⟨by rw [hcorner.noneBefore]; rfl, hcorner.noneAdded⟩]
  · have hids := hfollowers.ids
    rw [hcorner.noneBefore, hcorner.noneAdded] at hids
    rw [valueAt_followers hb hafter hfollowers.newList]
    cases hnew : Keyed.get? new.attributes "followers" with
    | none => exact absurd hnew hcorner.someAfter
    | some v =>
      rw [hnew] at hids
      show Json.arr (followerIds (some v)) = _
      rw [hids]
      rfl

/-- What the script makes of every field of the old document. -/
theorem run_field_eq (hb : Keyed.get? standardBuilders new.entityType = some b)
    (hsame : ChangedBy c old new)
    (hfollowers : c.touches "followers" = true → FollowersChangedBy c old new)
    (hcovers : Covers new (c.all.map (·.name)) (followerEntries c.fieldsAdded)
      (followerEntries c.fieldsDeleted) s)
    (hbefore : b.build old.indexable = .ok before) (hafter : b.build new.indexable = .ok after)
    (key : String) :
    runField? s.params s.ops key (valueAt before.fields key)
      = some (open Classical in if key = "followers" ∧ DropsFromNone c old new then .null
          else valueAt after.fields key) := by
  by_cases hmoment : key = "updatedAt"
  · -- the moment is no attribute, and the script has it from the entity
    subst hmoment
    rw [hcovers.run_moment, if_neg (by simp)]
    unfold valueAt
    rw [get?_build_patchable hb hafter (by decide), Entity.get?_toFields_updatedAt]
    rfl
  cases htouched : c.touches key with
  | false =>
    -- a field without a change: the script leaves it alone, and the builds agree on it
    have hseen : key ∉ c.all.map (·.name) := fun h => by
      rw [mem_names_iff.1 h] at htouched
      cases htouched
    have hout : ¬ (key = "followers" ∧ DropsFromNone c old new) := by
      rintro ⟨rfl, h⟩
      rw [h.touched] at htouched
      cases htouched
    have hnone : key = "followers" →
        followerEntries c.fieldsAdded = [] ∧ followerEntries c.fieldsDeleted = [] := by
      rintro rfl
      simp only [ChangeDescription.all, List.map_append, List.mem_append, not_or] at hseen
      exact ⟨followerEntries_eq_nil hseen.1.1, followerEntries_eq_nil hseen.2⟩
    rw [if_neg hout, ← valueAt_unchanged hb hsame hcovers hbefore hafter hmoment htouched]
    exact hcovers.run_unseen hseen hmoment hnone _
  | true =>
    by_cases hkey : key = "followers"
    · subst hkey
      by_cases hcorner : DropsFromNone c old new
      · rw [if_pos ⟨rfl, hcorner⟩]
        exact (run_followers_corner hb (hfollowers htouched) hcovers hbefore hafter hcorner).1
      · rw [if_neg (fun h => hcorner h.2)]
        exact run_followers_eq hb (hfollowers htouched) htouched hcovers hbefore hafter hcorner
    · -- a copied field: the document shows it as it is in the body
      have hseen := mem_names_iff.2 htouched
      have hpatchable := mem_patchableFields (hcovers.copied key hseen hkey).1
      rw [hcovers.run_copied hseen hkey, if_neg (fun h => hkey h.1)]
      unfold valueAt
      rw [get?_build_patchable hb hafter hpatchable]
      have hshape : Builder.shape key = id := by
        have howners : key ≠ "owners" := by
          have hall : ∀ k ∈ patchableFields, k ≠ "owners" := by decide
          exact hall key hpatchable
        funext v
        simp [Builder.shape, hkey, howners]
      rw [hshape, Option.map_id_fun, id]

end FieldByField

/-- The fields of the document that is built for an entity. -/
def rebuilt? (e : Entity) : Option Fields :=
  (standardBuilders.build e.indexable).toOption.map Document.fields

/-- The fields after a script, carried out on the document of an entity. -/
def patchedFrom? (e : Entity) (s : Script) : Option Fields := (rebuilt? e).bind s.patched?

theorem rebuilt?_eq_some {e : Entity} {b : Builder} {d : Document}
    (hb : Keyed.get? standardBuilders e.entityType = some b) (hd : b.build e.indexable = .ok d) :
    rebuilt? e = some d.fields := by
  have hbuild : standardBuilders.build e.indexable = b.build e.indexable := Builders.build_of_get? hb
  unfold rebuilt?
  rw [hbuild, hd]
  rfl

/-- **A script brings the document of the old entity to the document that a rebuild gives the new
    entity, field by field and with `null` for a field that is not there.**  In the corner, the
    followers are missing after the script and empty after the rebuild. -/
theorem patch_agrees_with_rebuild {old new : Entity} {c : ChangeDescription} {b : Builder}
    {s : Script} (hb : Keyed.get? standardBuilders new.entityType = some b)
    (hc : new.selectedChange? = some c) (hsame : ChangedBy c old new)
    (hfollowers : c.touches "followers" = true → FollowersChangedBy c old new)
    (hplan : planWrite new = .patch s) :
    ∃ patched rebuilt, patchedFrom? old s = some patched ∧ rebuilt? new = some rebuilt
      ∧ (∀ key, ¬ (key = "followers" ∧ DropsFromNone c old new) →
          valueAt patched key = valueAt rebuilt key)
      ∧ (DropsFromNone c old new →
          valueAt patched "followers" = .null ∧ valueAt rebuilt "followers" = .arr []) := by
  obtain ⟨c', hc', hcovers⟩ := covers_of_planWrite hplan
  rw [hc] at hc'
  cases hc'
  obtain ⟨before, hbefore⟩ := b.build_ok (x := old.indexable) rfl
  obtain ⟨after, hafter⟩ := b.build_ok (x := new.indexable) rfl
  obtain ⟨patched, hpatched, hvalues⟩ := run_fields hcovers.exists_target
    (run_field_eq hb hsame hfollowers hcovers hbefore hafter)
  refine ⟨patched, after.fields, ?_, rebuilt?_eq_some hb hafter, ?_, ?_⟩
  · unfold patchedFrom?
    rw [rebuilt?_eq_some (by rw [hsame.entityType]; exact hb) hbefore]
    exact hpatched
  · intro key hkey
    rw [hvalues, if_neg hkey]
  · intro hcorner
    rw [hvalues, if_pos ⟨rfl, hcorner⟩]
    exact ⟨rfl, (run_followers_corner hb (hfollowers hcorner.touched) hcovers hbefore hafter
      hcorner).2⟩

/-! ## §5. Two changes. -/

/-- Tables have a builder. -/
theorem isSome_tableBuilder : (Keyed.get? standardBuilders "table").isSome = true := by
  decide +kernel

/-- One follower comes, another one goes, and the votes change. -/
def otherFollower : ChangeDescription :=
  { fieldsAdded := [{ name := "followers", newValue := some (Json.strings ["u2"]) }]
    fieldsUpdated := [{ name := "votes" }]
    fieldsDeleted := [{ name := "followers", oldValue := some (Json.strings ["u1"]) }] }

/-- An entity with one follower. -/
def followed : Entity :=
  { id := .nil, entityType := "table", name := "orders", fullyQualifiedName := "db.orders"
    version := .zero, updatedAt := 1, attributes := [("followers", Json.strings ["u1"])] }

/-- The entity with another follower, and with votes. -/
def refollowed : Entity :=
  { followed with
    updatedAt := 2, change := some otherFollower
    attributes := [("followers", Json.strings ["u2"]), ("votes", .nat 1)] }

theorem refollowed_changed : ChangedBy otherFollower followed refollowed where
  id := rfl
  entityType := rfl
  name := rfl
  fullyQualifiedName := rfl
  version := rfl
  owners := rfl
  attributes := by
    intro key hkey
    simp only [otherFollower, ChangeDescription.touches, ChangeDescription.all] at hkey
    have hne : ¬ "followers" = key ∧ ¬ "votes" = key ∧ ¬ "followers" = key := by simpa using hkey
    simp [followed, refollowed, Keyed.get?, hne]

theorem refollowed_followers : FollowersChangedBy otherFollower followed refollowed where
  addedOnce := by decide
  deletedOnce := by decide
  oldList := by
    intro v hv
    cases hv
    exact ⟨_, rfl⟩
  newList := by
    intro v hv
    cases hv
    exact ⟨_, rfl⟩
  kept := by
    intro hnone
    cases hnone
  ids := by decide

/-- A change that adds, copies and drops leads to the rebuilt document in every field. -/
theorem patch_agrees_with_rebuild_refollowed :
    ∃ s patched rebuilt, planWrite refollowed = .patch s ∧ patchedFrom? followed s = some patched
      ∧ rebuilt? refollowed = some rebuilt ∧ ∀ key, valueAt patched key = valueAt rebuilt key := by
  have hplan : planWrite refollowed = .patch
      { ops := [.setUpdatedAt, .addFollowers, .replaceField "votes", .removeFollowers]
        params := [("followers", Json.strings ["u2"]), ("removedFollowers", Json.strings ["u1"]),
          ("updatedAt", .int 2), ("votes", .nat 1)] } := by decide +kernel
  have hb : (Keyed.get? standardBuilders refollowed.entityType).isSome = true := isSome_tableBuilder
  obtain ⟨b, hb⟩ := Option.isSome_iff_exists.1 hb
  obtain ⟨patched, rebuilt, hpatched, hrebuilt, hagree, -⟩ := patch_agrees_with_rebuild hb rfl
    refollowed_changed (fun _ => refollowed_followers) hplan
  refine ⟨_, patched, rebuilt, hplan, hpatched, hrebuilt, fun key => hagree key ?_⟩
  rintro ⟨-, hcorner⟩
  exact absurd hcorner.noneBefore (by decide)

/-- The change of an entity that loses a follower it did not have. -/
def lostFollower : ChangeDescription :=
  { fieldsDeleted := [{ name := "followers", oldValue := some (Json.strings ["u1"]) }] }

/-- An entity without followers. -/
def unfollowed : Entity := { followed with attributes := [] }

/-- The entity with an empty list of followers. -/
def emptied : Entity :=
  { unfollowed with
    updatedAt := 2, change := some lostFollower, attributes := [("followers", .arr [])] }

theorem emptied_changed : ChangedBy lostFollower unfollowed emptied where
  id := rfl
  entityType := rfl
  name := rfl
  fullyQualifiedName := rfl
  version := rfl
  owners := rfl
  attributes := by
    intro key hkey
    simp only [lostFollower, ChangeDescription.touches, ChangeDescription.all] at hkey
    have hne : ¬ "followers" = key := by simpa using hkey
    simp [unfollowed, emptied, Keyed.get?, hne]

theorem emptied_followers : FollowersChangedBy lostFollower unfollowed emptied where
  addedOnce := by decide
  deletedOnce := by decide
  oldList := by
    intro v hv
    cases hv
  newList := by
    intro v hv
    cases hv
    exact ⟨_, rfl⟩
  kept := by
    intro hnone
    cases hnone
  ids := by decide

/-- **In the corner, the script does not lead to the rebuilt document**, although the followers are
    those that the change calls for. -/
theorem dropped_from_no_followers :
    (Keyed.get? standardBuilders emptied.entityType).isSome
      ∧ emptied.selectedChange? = some lostFollower ∧ ChangedBy lostFollower unfollowed emptied
      ∧ FollowersChangedBy lostFollower unfollowed emptied
      ∧ ∃ s, planWrite emptied = .patch s
        ∧ (patchedFrom? unfollowed s).map (valueAt · "followers") = some .null
        ∧ (rebuilt? emptied).map (valueAt · "followers") = some (.arr []) := by
  refine ⟨isSome_tableBuilder, rfl, emptied_changed, emptied_followers, ?_⟩
  refine ⟨{ ops := [.setUpdatedAt, .removeFollowers]
            params := [("removedFollowers", Json.strings ["u1"]), ("updatedAt", .int 2)] }, ?_, ?_, ?_⟩
  · decide +kernel
  · decide +kernel
  · decide +kernel

end CatalogIndex
