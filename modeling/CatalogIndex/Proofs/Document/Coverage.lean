/-
  CatalogIndex.Proofs.Document.Coverage — what the script for a changed entity holds.

  The script grows with the changed fields, one after the other.  What it holds at every moment is
  said by one invariant, `Covers`: the moment of the change is set; each field seen so far, if it is
  not the followers, has its copy; each entry of followers seen so far has its operation, the added
  ones before the deleted ones; and nothing else is in the script.  One lemma per kind of field shows
  that the invariant is kept, and `covers_selfPatch` collects them for a whole change.

  ## Main definitions

    * `Covers` — the invariant;
    * `followerEntries` — the entries of a change that are about followers.

  ## Main results

    * `covers_selfPatch` — the script of a change covers all of it;
    * `Covers.target_cases` — which field an operation of a script is about.
-/
import CatalogIndex.Document.Write
import CatalogIndex.Proofs.Script.Effect

namespace CatalogIndex

/-! ## §1. The kinds of changed fields. -/

/-- The entries among changed fields that are about followers. -/
def followerEntries (fs : List FieldChange) : List FieldChange := fs.filter (·.name = "followers")

theorem followerEntries_eq_nil {fs : List FieldChange} (h : "followers" ∉ fs.map (·.name)) :
    followerEntries fs = [] := by
  unfold followerEntries
  rw [List.filter_eq_nil_iff]
  intro f hf hname
  exact h (List.mem_map.2 ⟨f, hf, by simpa using hname⟩)

/-- The fields that are copied, of one type or another. -/
theorem mem_of_isCopied {entityType field : String} (h : isCopied entityType field = true) :
    field ∈ "queryUsedIn" :: copiedFields := by
  unfold isCopied at h
  rw [Bool.or_eq_true, Bool.and_eq_true] at h
  rcases h with h | ⟨h, -⟩
  · exact List.mem_cons_of_mem _ (by simpa using h)
  · rw [beq_iff_eq.1 h]
    exact List.mem_cons_self

/-- A copied field has a parameter of its own: no other operation reads the parameter of its name. -/
theorem ne_of_isCopied {entityType field : String} (h : isCopied entityType field = true) :
    ∀ name ∈ ["updatedAt", "followers", "removedFollowers"], name ≠ field := by
  have hmem := mem_of_isCopied h
  have hall : ∀ f ∈ "queryUsedIn" :: copiedFields,
      ∀ name ∈ ["updatedAt", "followers", "removedFollowers"], name ≠ f := by decide
  exact hall field hmem

/-- A copy comes into the script once. -/
theorem copyField_ops (json : Fields) (s : Script) (field : String) :
    (copyField json s field).ops
      = if .replaceField field ∈ s.ops then s.ops else s.ops ++ [.replaceField field] := by
  unfold copyField
  by_cases h : ScriptOp.replaceField field ∈ s.ops
  · simp [h, Script.setParam]
  · simp [h, Script.setParam, Script.push]

/-- A copy brings the value of its field. -/
theorem get?_copyField (json : Fields) (s : Script) (field key : String) :
    Keyed.get? (copyField json s field).params key
      = if key = field then some (Json.orNull (Keyed.get? json field))
        else Keyed.get? s.params key := by
  unfold copyField
  rw [← Keyed.get?_insert]
  by_cases h : ScriptOp.replaceField field ∈ s.ops
  · simp [h, Script.setParam]
  · simp [h, Script.setParam, Script.push]

theorem mem_copyField_ops {json : Fields} {s : Script} {field : String} {op : ScriptOp} :
    op ∈ (copyField json s field).ops ↔ op ∈ s.ops ∨ op = .replaceField field := by
  rw [copyField_ops]
  by_cases h : ScriptOp.replaceField field ∈ s.ops
  · rw [if_pos h]
    refine ⟨Or.inl, ?_⟩
    rintro (hop | rfl)
    · exact hop
    · exact h
  · rw [if_neg h, List.mem_append, List.mem_singleton]

/-- An added field extends the script by new followers or by a copy. -/
theorem patchAdded_cases {e : Entity} {s s' : Script} {f : FieldChange}
    (h : patchAdded e s f = some s') :
    (f.name = "followers" ∧ ∃ ids, followerIds? f FieldChange.newAs = some ids
        ∧ s' = (s.push .addFollowers).setParam "followers" ids)
      ∨ (isCopied e.entityType f.name = true ∧ s' = copyField e.toFields s f.name) := by
  unfold patchAdded at h
  split at h
  · rename_i hname
    obtain ⟨ids, hids, rfl⟩ := Option.map_eq_some_iff.1 h
    exact Or.inl ⟨hname, ids, hids, rfl⟩
  · split at h
    · rename_i hcopied
      cases h
      exact Or.inr ⟨hcopied, rfl⟩
    · cases h

/-- An updated field extends the script by a copy. -/
theorem patchUpdated_cases {e : Entity} {s s' : Script} {f : FieldChange}
    (h : patchUpdated e s f = some s') :
    isCopied e.entityType f.name = true ∧ s' = copyField e.toFields s f.name := by
  unfold patchUpdated at h
  split at h
  · rename_i hcopied
    cases h
    exact ⟨hcopied, rfl⟩
  · cases h

/-- A deleted field extends the script by followers to drop or by a copy. -/
theorem patchDeleted_cases {e : Entity} {s s' : Script} {f : FieldChange}
    (h : patchDeleted e s f = some s') :
    (f.name = "followers" ∧ ∃ ids, followerIds? f FieldChange.oldAs = some ids
        ∧ s' = (s.push .removeFollowers).setParam "removedFollowers" ids)
      ∨ (isCopied e.entityType f.name = true ∧ s' = copyField e.toFields s f.name) := by
  unfold patchDeleted at h
  split at h
  · rename_i hname
    obtain ⟨ids, hids, rfl⟩ := Option.map_eq_some_iff.1 h
    exact Or.inl ⟨hname, ids, hids, rfl⟩
  · split at h
    · rename_i hcopied
      cases h
      exact Or.inr ⟨hcopied, rfl⟩
    · cases h

/-! ## §2. The invariant. -/

/-- What a script holds once the fields `seen` of `e` went into it, with the entries `added` and
    `deleted` of followers. -/
structure Covers (e : Entity) (seen : List String) (added deleted : List FieldChange) (s : Script) :
    Prop where
  /-- The moment of the change is set. -/
  moment : .setUpdatedAt ∈ s.ops ∧ Keyed.get? s.params "updatedAt" = some (.int e.updatedAt)
  /-- Every field other than the followers has its copy. -/
  copied : ∀ field ∈ seen, field ≠ "followers" →
    isCopied e.entityType field = true ∧ .replaceField field ∈ s.ops
      ∧ Keyed.get? s.params field = some (Json.orNull (Keyed.get? e.toFields field))
  /-- Nothing else is carried out. -/
  only : ∀ op ∈ s.ops, op = .setUpdatedAt ∨ op.target? = some "followers"
    ∨ ∃ field ∈ seen, isCopied e.entityType field = true ∧ op = .replaceField field
  /-- Every entry of followers has its operation. -/
  followers : s.ops.filter (·.target? = some "followers")
    = added.map (fun _ => ScriptOp.addFollowers) ++ deleted.map fun _ => ScriptOp.removeFollowers
  /-- The last entry of added followers is the one that counts. -/
  addedIds : ∀ f, added.getLast? = some f →
    ∃ ids, followerIds? f FieldChange.newAs = some ids ∧ Keyed.get? s.params "followers" = some ids
  /-- The last entry of deleted followers is the one that counts. -/
  deletedIds : ∀ f, deleted.getLast? = some f →
    ∃ ids, followerIds? f FieldChange.oldAs = some ids
      ∧ Keyed.get? s.params "removedFollowers" = some ids

namespace Covers

variable {e : Entity} {seen : List String} {added deleted : List FieldChange} {s : Script}

/-- The script that sets the moment covers no field. -/
theorem start (e : Entity) :
    Covers e [] [] [] (Script.of .setUpdatedAt [("updatedAt", .int e.updatedAt)]) where
  moment := ⟨List.mem_singleton.2 rfl, rfl⟩
  copied := fun _ h => absurd h List.not_mem_nil
  only := fun _ hop => Or.inl (List.mem_singleton.1 hop)
  followers := rfl
  addedIds := fun _ h => by cases h
  deletedIds := fun _ h => by cases h

/-- A copy of one more field. -/
theorem copy (h : Covers e seen added deleted s) {field : String}
    (hcopied : isCopied e.entityType field = true) :
    Covers e (seen ++ [field]) added deleted (copyField e.toFields s field) := by
  have hother : ∀ name ∈ ["updatedAt", "followers", "removedFollowers"],
      Keyed.get? (copyField e.toFields s field).params name = Keyed.get? s.params name := by
    intro name hname
    rw [get?_copyField, if_neg (ne_of_isCopied hcopied name hname)]
  constructor
  case moment =>
    rw [hother "updatedAt" (by simp)]
    exact ⟨mem_copyField_ops.2 (Or.inl h.moment.1), h.moment.2⟩
  case copied =>
    -- a field that is copied again has the same value again
    intro other hseen hne
    rw [get?_copyField]
    by_cases heq : other = field
    · subst heq
      rw [if_pos rfl]
      exact ⟨hcopied, mem_copyField_ops.2 (Or.inr rfl), rfl⟩
    · rw [if_neg heq]
      rcases List.mem_append.1 hseen with hseen | hseen
      · obtain ⟨hc, hop, hval⟩ := h.copied other hseen hne
        exact ⟨hc, mem_copyField_ops.2 (Or.inl hop), hval⟩
      · exact absurd (List.mem_singleton.1 hseen) heq
  case only =>
    intro op hop
    rcases mem_copyField_ops.1 hop with hop | rfl
    · rcases h.only op hop with h' | h' | ⟨f, hf, h'⟩
      · exact Or.inl h'
      · exact Or.inr (Or.inl h')
      · exact Or.inr (Or.inr ⟨f, List.mem_append_left _ hf, h'⟩)
    · exact Or.inr (Or.inr ⟨field, by simp, hcopied, rfl⟩)
  case followers =>
    -- a copy is no operation on followers
    rw [copyField_ops]
    by_cases hin : ScriptOp.replaceField field ∈ s.ops
    · rw [if_pos hin]
      exact h.followers
    · have hne := (ne_of_isCopied hcopied "followers" (by simp)).symm
      rw [if_neg hin, List.filter_append, h.followers]
      simp [ScriptOp.target?, hne]
  case addedIds =>
    rw [hother "followers" (by simp)]
    exact h.addedIds
  case deletedIds =>
    rw [hother "removedFollowers" (by simp)]
    exact h.deletedIds

/-- An operation on followers, with a parameter that no copy and no earlier operation reads, leaves
    the rest of the script as it is. -/
theorem copied_push (h : Covers e seen added deleted s) {op : ScriptOp} {param : String}
    (hparam : param ∈ ["updatedAt", "followers", "removedFollowers"]) (value : Json) :
    ∀ field ∈ seen ++ ["followers"], field ≠ "followers" →
      isCopied e.entityType field = true
        ∧ .replaceField field ∈ ((s.push op).setParam param value).ops
        ∧ Keyed.get? ((s.push op).setParam param value).params field
            = some (Json.orNull (Keyed.get? e.toFields field)) := by
  intro field hseen hne
  rcases List.mem_append.1 hseen with hseen | hseen
  · obtain ⟨hc, hop, hval⟩ := h.copied field hseen hne
    refine ⟨hc, List.mem_append_left _ hop, ?_⟩
    have hfree := (ne_of_isCopied hc param hparam).symm
    show Keyed.get? (Keyed.insert s.params param value) field = _
    rw [Keyed.get?_insert, if_neg hfree]
    exact hval
  · exact absurd (List.mem_singleton.1 hseen) hne

theorem only_push (h : Covers e seen added deleted s) {op : ScriptOp}
    (hop : op.target? = some "followers") (param : String) (value : Json) :
    ∀ o ∈ ((s.push op).setParam param value).ops, o = .setUpdatedAt
      ∨ o.target? = some "followers"
      ∨ ∃ field ∈ seen ++ ["followers"],
          isCopied e.entityType field = true ∧ o = .replaceField field := by
  intro o ho
  rcases List.mem_append.1 ho with ho | ho
  · rcases h.only o ho with h' | h' | ⟨field, hf, h'⟩
    · exact Or.inl h'
    · exact Or.inr (Or.inl h')
    · exact Or.inr (Or.inr ⟨field, List.mem_append_left _ hf, h'⟩)
  · rw [List.mem_singleton.1 ho]
    exact Or.inr (Or.inl hop)

/-- One more entry of added followers, before any deleted ones. -/
theorem add (h : Covers e seen added [] s) {f : FieldChange} {ids : Json}
    (hids : followerIds? f FieldChange.newAs = some ids) :
    Covers e (seen ++ ["followers"]) (added ++ [f]) []
      ((s.push .addFollowers).setParam "followers" ids) where
  moment := by
    refine ⟨List.mem_append_left _ h.moment.1, ?_⟩
    show Keyed.get? (Keyed.insert s.params "followers" ids) "updatedAt" = _
    rw [Keyed.get?_insert, if_neg (by decide)]
    exact h.moment.2
  copied := h.copied_push (by simp) ids
  only := h.only_push rfl "followers" ids
  followers := by
    show (s.ops ++ [ScriptOp.addFollowers]).filter _ = _
    rw [List.filter_append, h.followers]
    simp [ScriptOp.target?]
  addedIds := by
    intro g hg
    rw [List.getLast?_concat] at hg
    cases hg
    exact ⟨ids, hids, Keyed.get?_insert_self s.params "followers" ids⟩
  deletedIds := fun _ hg => by cases hg

/-- One more entry of deleted followers. -/
theorem delete (h : Covers e seen added deleted s) {f : FieldChange} {ids : Json}
    (hids : followerIds? f FieldChange.oldAs = some ids) :
    Covers e (seen ++ ["followers"]) added (deleted ++ [f])
      ((s.push .removeFollowers).setParam "removedFollowers" ids) where
  moment := by
    refine ⟨List.mem_append_left _ h.moment.1, ?_⟩
    show Keyed.get? (Keyed.insert s.params "removedFollowers" ids) "updatedAt" = _
    rw [Keyed.get?_insert, if_neg (by decide)]
    exact h.moment.2
  copied := h.copied_push (by simp) ids
  only := h.only_push rfl "removedFollowers" ids
  followers := by
    show (s.ops ++ [ScriptOp.removeFollowers]).filter _ = _
    rw [List.filter_append, h.followers]
    simp [ScriptOp.target?]
  addedIds := by
    intro g hg
    obtain ⟨known, hknown, hparam⟩ := h.addedIds g hg
    refine ⟨known, hknown, ?_⟩
    show Keyed.get? (Keyed.insert s.params "removedFollowers" ids) "followers" = _
    rw [Keyed.get?_insert, if_neg (by decide)]
    exact hparam
  deletedIds := by
    intro g hg
    rw [List.getLast?_concat] at hg
    cases hg
    exact ⟨ids, hids, Keyed.get?_insert_self s.params "removedFollowers" ids⟩

/-! ## §3. Whole changes. -/

/-- The added fields of a change. -/
theorem run_added {fs : List FieldChange} {s' : Script} (h : Covers e seen added [] s)
    (hrun : fs.foldlM (patchAdded e) s = some s') :
    Covers e (seen ++ fs.map (·.name)) (added ++ followerEntries fs) [] s' := by
  -- the entries seen so far grow with the script
  induction fs generalizing seen added s with
  | nil =>
    cases hrun
    simpa [followerEntries] using h
  | cons f rest ih =>
    rw [List.foldlM_cons] at hrun
    obtain ⟨next, hnext, hrun⟩ := Option.bind_eq_some_iff.1 hrun
    rcases patchAdded_cases hnext with ⟨hname, ids, hids, rfl⟩ | ⟨hcopied, rfl⟩
    · have hcovers := ih (h.add hids) hrun
      simpa [followerEntries, hname] using hcovers
    · have hname : f.name ≠ "followers" := (ne_of_isCopied hcopied "followers" (by simp)).symm
      have hcovers := ih (h.copy hcopied) hrun
      simpa [followerEntries, hname] using hcovers

/-- The updated fields of a change, none of which is about followers. -/
theorem run_updated {fs : List FieldChange} {s' : Script} (h : Covers e seen added deleted s)
    (hrun : fs.foldlM (patchUpdated e) s = some s') :
    Covers e (seen ++ fs.map (·.name)) added deleted s' := by
  induction fs generalizing seen s with
  | nil =>
    cases hrun
    simpa using h
  | cons f rest ih =>
    rw [List.foldlM_cons] at hrun
    obtain ⟨next, hnext, hrun⟩ := Option.bind_eq_some_iff.1 hrun
    obtain ⟨hcopied, rfl⟩ := patchUpdated_cases hnext
    have hcovers := ih (h.copy hcopied) hrun
    simpa using hcovers

/-- The deleted fields of a change. -/
theorem run_deleted {fs : List FieldChange} {s' : Script} (h : Covers e seen added deleted s)
    (hrun : fs.foldlM (patchDeleted e) s = some s') :
    Covers e (seen ++ fs.map (·.name)) added (deleted ++ followerEntries fs) s' := by
  induction fs generalizing seen deleted s with
  | nil =>
    cases hrun
    simpa [followerEntries] using h
  | cons f rest ih =>
    rw [List.foldlM_cons] at hrun
    obtain ⟨next, hnext, hrun⟩ := Option.bind_eq_some_iff.1 hrun
    rcases patchDeleted_cases hnext with ⟨hname, ids, hids, rfl⟩ | ⟨hcopied, rfl⟩
    · have hcovers := ih (h.delete hids) hrun
      simpa [followerEntries, hname] using hcovers
    · have hname : f.name ≠ "followers" := (ne_of_isCopied hcopied "followers" (by simp)).symm
      have hcovers := ih (h.copy hcopied) hrun
      simpa [followerEntries, hname] using hcovers

end Covers

/-- **The script of a change covers every field of it.** -/
theorem covers_selfPatch {e : Entity} {c : ChangeDescription} {s : Script}
    (h : selfPatch? e c = some s) :
    Covers e (c.all.map (·.name)) (followerEntries c.fieldsAdded) (followerEntries c.fieldsDeleted)
      s := by
  unfold selfPatch? at h
  split at h
  · cases h
  · obtain ⟨s₁, h₁, h⟩ := Option.bind_eq_some_iff.1 h
    obtain ⟨s₂, h₂, h₃⟩ := Option.bind_eq_some_iff.1 h
    have hcovers := (((Covers.start e).run_added h₁).run_updated h₂).run_deleted h₃
    simpa [ChangeDescription.all] using hcovers

/-- A changed entity is patched only by a script that covers its selected change. -/
theorem covers_of_planWrite {e : Entity} {s : Script} (h : planWrite e = .patch s) :
    ∃ c, e.selectedChange? = some c ∧ Covers e (c.all.map (·.name)) (followerEntries c.fieldsAdded)
      (followerEntries c.fieldsDeleted) s := by
  unfold planWrite at h
  split at h
  · cases h
  · rename_i c hc
    split at h
    · split at h
      · rename_i script hscript
        cases h
        exact ⟨c, hc, covers_selfPatch hscript⟩
      · cases h
    · cases h

/-! ## §4. What a covering script does to each field. -/

/-- The ids that entries of followers list, one entry behind the other. -/
def listedIds (entries : List FieldChange)
    (read : ∀ {α : Type}, (∀ {ν : Type} [Source ν], ν → Option α) → FieldChange → Outcome α) :
    List Json :=
  entries.flatMap fun f => ((followerIds? f read).bind Json.asArr?).getD []

/-- The ids of followers that can be read are a list. -/
theorem followerIds?_eq_arr {f : FieldChange} {v : Json}
    {read : ∀ {α : Type}, (∀ {ν : Type} [Source ν], ν → Option α) → FieldChange → Outcome α}
    (h : followerIds? f read = some v) : v = .arr (listedIds [f] read) := by
  have harr : ∃ ids, v = .arr ids := by
    unfold followerIds? at h
    split at h
    · cases h
      exact ⟨_, rfl⟩
    · split at h
      · cases h
        exact ⟨_, rfl⟩
      · cases h
  obtain ⟨ids, rfl⟩ := harr
  simp [listedIds, h, Json.asArr?]

namespace Covers

variable {e : Entity} {seen : List String} {added deleted : List FieldChange} {s : Script}

/-- Every operation is about the moment, the followers or a copied field. -/
theorem target_cases (h : Covers e seen added deleted s) {op : ScriptOp} (hop : op ∈ s.ops) :
    op = .setUpdatedAt ∨ op.target? = some "followers"
      ∨ ∃ field ∈ seen, field ∉ ["updatedAt", "followers"] ∧ op = .replaceField field := by
  rcases h.only op hop with h' | h' | ⟨field, hseen, hcopied, rfl⟩
  · exact Or.inl h'
  · exact Or.inr (Or.inl h')
  · refine Or.inr (Or.inr ⟨field, hseen, ?_, rfl⟩)
    have hmoment := (ne_of_isCopied hcopied "updatedAt" (by simp)).symm
    have hfollowers := (ne_of_isCopied hcopied "followers" (by simp)).symm
    simp [hmoment, hfollowers]

theorem exists_target (h : Covers e seen added deleted s) :
    ∀ op ∈ s.ops, ∃ key, op.target? = some key := by
  intro op hop
  rcases h.target_cases hop with rfl | h' | ⟨field, -, -, rfl⟩
  · exact ⟨_, rfl⟩
  · exact ⟨_, h'⟩
  · exact ⟨_, rfl⟩

/-- The moment of the change is assigned. -/
theorem run_moment (h : Covers e seen added deleted s) (v : Json) :
    runField? s.params s.ops "updatedAt" v = some (.int e.updatedAt) := by
  refine runField?_of_forall_eq ?_ ⟨.setUpdatedAt, h.moment.1, rfl⟩ v
  intro op hop htarget w
  rcases h.target_cases hop with rfl | h' | ⟨field, -, hfield, rfl⟩
  · show some (Json.orNull (Keyed.get? s.params "updatedAt")) = _
    rw [h.moment.2]
    rfl
  · rw [h'] at htarget
    exact absurd (Option.some.inj htarget) (by decide)
  · have heq : field = "updatedAt" := Option.some.inj htarget
    exact absurd hfield (by simp [heq])

/-- A copied field gets the value of the entity. -/
theorem run_copied (h : Covers e seen added deleted s) {field : String} (hseen : field ∈ seen)
    (hne : field ≠ "followers") (v : Json) :
    runField? s.params s.ops field v = some (valueAt e.toFields field) := by
  -- no operation but the copies is about the field, and all copies bring one value
  obtain ⟨hcopied, hmem, hparam⟩ := h.copied field hseen hne
  refine runField?_of_forall_eq ?_ ⟨.replaceField field, hmem, rfl⟩ v
  intro op hop htarget w
  rcases h.target_cases hop with rfl | h' | ⟨other, -, -, rfl⟩
  · have heq : "updatedAt" = field := Option.some.inj htarget
    exact absurd heq (ne_of_isCopied hcopied "updatedAt" (by simp))
  · rw [h'] at htarget
    exact absurd (Option.some.inj htarget).symm hne
  · have heq : other = field := Option.some.inj htarget
    show some (Json.orNull (Keyed.get? s.params other)) = _
    rw [heq, hparam]
    rfl

/-- A field that did not change is left alone. -/
theorem run_unseen (h : Covers e seen added deleted s) {key : String} (hseen : key ∉ seen)
    (hmoment : key ≠ "updatedAt") (hnone : key = "followers" → added = [] ∧ deleted = []) (v : Json) :
    runField? s.params s.ops key v = some v := by
  refine runField?_of_forall_ne ?_ v
  intro op hop htarget
  rcases h.target_cases hop with rfl | h' | ⟨field, hfield, -, rfl⟩
  · exact hmoment (Option.some.inj htarget).symm
  · -- an operation on followers belongs to one of the entries
    rw [h'] at htarget
    obtain ⟨hadded, hdeleted⟩ := hnone (Option.some.inj htarget).symm
    have hmem : op ∈ s.ops.filter (·.target? = some "followers") :=
      List.mem_filter.2 ⟨hop, by simpa using h'⟩
    rw [h.followers, hadded, hdeleted] at hmem
    cases hmem
  · have heq : field = key := Option.some.inj htarget
    exact hseen (heq ▸ hfield)

/-- The added ids that are missing go behind the known ones.  An entry that adds makes a list where
    there was none. -/
theorem run_addFollowers (h : Covers e seen added deleted s) (hadded : added.length ≤ 1)
    (known : Option (List Json)) :
    (added.map fun _ => ScriptOp.addFollowers).foldlM (fun v op => op.rewritten? s.params v)
        (Json.orNull (known.map .arr))
      = some (if known = none ∧ added = [] then .null
          else .arr (appendMissing (known.getD []) (listedIds added FieldChange.newAs))) := by
  rcases added with _ | ⟨f, rest⟩
  · cases known <;> rfl
  · have hrest : rest = [] := List.eq_nil_of_length_eq_zero (by simpa using hadded)
    subst hrest
    obtain ⟨ids, hread, hparam⟩ := h.addedIds f rfl
    rw [followerIds?_eq_arr hread] at hparam
    rw [List.map_cons, List.map_nil, List.foldlM_cons, if_neg (by simp)]
    cases known with
    | none => simp [Json.orNull, ScriptOp.rewritten?, valueAt, hparam]
    | some ids => simp [Json.orNull, ScriptOp.rewritten?, valueAt, hparam]

/-- The deleted ids go out of a list. -/
theorem run_removeFollowers (h : Covers e seen added deleted s) (hdeleted : deleted.length ≤ 1)
    (ids : List Json) :
    (deleted.map fun _ => ScriptOp.removeFollowers).foldlM (fun v op => op.rewritten? s.params v)
        (.arr ids)
      = some (.arr (ids.filter (· ∉ listedIds deleted FieldChange.oldAs))) := by
  rcases deleted with _ | ⟨f, rest⟩
  · have hkeep : ids.filter (· ∉ listedIds [] FieldChange.oldAs) = ids :=
      List.filter_eq_self.2 fun id _ => by simp [listedIds]
    rw [hkeep]
    rfl
  · have hrest : rest = [] := List.eq_nil_of_length_eq_zero (by simpa using hdeleted)
    subst hrest
    obtain ⟨removed, hread, hparam⟩ := h.deletedIds f rfl
    rw [followerIds?_eq_arr hread] at hparam
    simp [ScriptOp.rewritten?, valueAt, hparam, Json.orNull]

/-- Where there is no list, nothing goes. -/
theorem run_removeFollowers_null (params : Fields) (deleted : List FieldChange) :
    (deleted.map fun _ => ScriptOp.removeFollowers).foldlM (fun v op => op.rewritten? params v) .null
      = some .null := by
  induction deleted with
  | nil => rfl
  | cons _ _ ih => exact ih

/-- The followers after a script: the added ids that are missing go behind the known ones, and the
    deleted ids go.  A document without followers gets some only if there is an entry that adds. -/
theorem run_followers (h : Covers e seen added deleted s) (hadded : added.length ≤ 1)
    (hdeleted : deleted.length ≤ 1) (known : Option (List Json)) :
    runField? s.params s.ops "followers" (Json.orNull (known.map .arr))
      = some (if known = none ∧ added = [] then .null
          else .arr ((appendMissing (known.getD []) (listedIds added FieldChange.newAs)).filter
            (· ∉ listedIds deleted FieldChange.oldAs))) := by
  unfold runField?
  -- all entries that add come before all that delete
  rw [h.followers, List.foldlM_append, h.run_addFollowers hadded known]
  by_cases hnone : known = none ∧ added = []
  · rw [if_pos hnone, if_pos hnone]
    exact run_removeFollowers_null s.params deleted
  · rw [if_neg hnone, if_neg hnone]
    exact h.run_removeFollowers hdeleted _

end Covers

end CatalogIndex
