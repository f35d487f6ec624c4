/-
  CatalogIndex.Proofs.Entity.Written — records that were written, read back.

  A script carries entities and tags as JSON, and whoever reads its parameters decodes them again.  A record
  is written as an object without the fields that are missing, and a decoder asks for its fields by name.
  So it is enough to say for every name what was written under it: the lemmas on records do this once, and
  each record follows by going through its names.

  A label may hold a free-form value for its style.  A style that is `null` is written as well, and cannot
  be told from a missing one when it is read; no label that was read has such a style.

  ## Main results

    * `Source.parts?_object` — what is found in an object that was put together from fields;
    * `Uuid.ofText?_toText` — identifiers are read back;
    * `EntityReference.decode?_written`, `TagLabel.decode?_written` — so are references and labels;
    * `TagLabel.proper_of_readValue` — labels that a change holds can be written.
-/
import CatalogIndex.Entity.Change
import CatalogIndex.Entity.Reference
import CatalogIndex.Entity.TagLabel
import CatalogIndex.Proofs.Json.Reading
import CatalogIndex.Proofs.Keyed

namespace CatalogIndex

/-! ## §1. Fields of a record. -/

namespace Source

/-- Decoding element by element undoes writing element by element. -/
theorem each?_map {ν α : Type} [Source ν] {decode : ν → Option α} {write : α → ν} {xs : List α}
    (h : ∀ x ∈ xs, decode (write x) = some x) : each? decode (xs.map write) = some xs := by
  induction xs with
  | nil => rfl
  | cons x rest ih =>
    have hrest := ih fun y hy => h y (List.mem_cons_of_mem _ hy)
    simp [each?, h x List.mem_cons_self, hrest]

/-- What holds of every decoded element holds of all elements of a decoded list. -/
theorem forall_of_each? {ν α : Type} [Source ν] {decode : ν → Option α} {P : α → Prop}
    (h : ∀ x a, decode x = some a → P a) {xs : List ν} {as : List α}
    (hxs : each? decode xs = some as) : ∀ a ∈ as, P a := by
  induction xs generalizing as with
  | nil =>
    cases hxs
    exact fun a ha => absurd ha List.not_mem_nil
  | cons x rest ih =>
    unfold each? at hxs
    split at hxs
    · rename_i a as' hx hrest
      cases hxs
      intro b hb
      rcases List.mem_cons.1 hb with rfl | hb
      · exact h x b hx
      · exact ih hrest b hb
    · cases hxs

/-- Dropping entries with other names does not change what is found under a name. -/
theorem lookup_filter {ν : Type} {names : List String} {name : String} (hname : name ∈ names)
    (fields : Keyed ν) :
    (fields.filter fun field => names.contains field.1).lookup name = Keyed.get? fields name := by
  induction fields with
  | nil => rfl
  | cons field rest ih =>
    obtain ⟨key, value⟩ := field
    by_cases hkey : key = name
    · subst hkey
      simp [hname, Keyed.get?]
    · have hother : (name == key) = false := by simp [Ne.symm hkey]
      by_cases hknown : key ∈ names
      · simpa [hknown, List.lookup_cons, hother, Keyed.get?, hkey] using ih
      · simpa [hknown, Keyed.get?, hkey] using ih

/-- **An object is a record with names.**  Under each name of the record stands the value that the object
    was given for it, and the last one if there are several. -/
theorem parts?_object (names : List String) (fields : List (String × Json)) :
    ∃ p, parts? names (Json.object fields) = some p
      ∧ ∀ name ∈ names, p.found.lookup name = Keyed.get? fields.reverse name := by
  have hascending : Keyed.Ascending (Keyed.ofList fields) :=
    Keyed.ascending_layer List.Pairwise.nil fields
  -- keys that ascend do not repeat, and neither do some of them
  have hnodup :
      (((Keyed.ofList fields).filter fun field => names.contains field.1).map (·.1)).Nodup := by
    have hkeys := Keyed.ascending_iff_keys.1 (hascending.filter fun field => names.contains field.1)
    refine List.Pairwise.imp ?_ hkeys
    intro a b hlt heq
    subst heq
    exact String.lt_irrefl a hlt
  refine ⟨⟨(Keyed.ofList fields).filter fun field => names.contains field.1, true⟩, ?_, ?_⟩
  · show (if _ then _ else _) = _
    rw [if_pos hnodup]
  · intro name hname
    show (List.filter _ (Keyed.ofList fields)).lookup name = _
    rw [lookup_filter hname]
    unfold Keyed.ofList
    rw [Keyed.get?_layer]
    exact Option.or_none

namespace Parts

variable {p : Parts Json} {α : Type} {decode : Json → Option α} {name : String} {v : Json} {a : α}

/-- A field that was written is found. -/
theorem required_written (hfound : p.found.lookup name = some v) (hread : decode v = some a) :
    p.required name decode = some a := by
  unfold required
  rw [hfound]
  exact hread

/-- So is one of several alternatives that was written by its name. -/
theorem defaulted_word {ofWord? : String → Option α} {word : String} {default : α}
    (hfound : p.found.lookup name = some (.str word)) (hread : ofWord? word = some a) :
    p.defaulted name (fun x => (bare? x).bind ofWord?) default = some a := by
  unfold defaulted
  rw [hfound]
  exact hread

/-- A field that was written if it had a value has this value, or is missing. -/
theorem optional_written {write : α → Json} {x : Option α} (hfound : p.found.lookup name = x.map write)
    (hread : ∀ a ∈ x, decode (write a) = some a ∧ write a ≠ .null) : p.optional name decode = some x := by
  unfold optional
  rw [hfound]
  cases x with
  | none => rfl
  | some a =>
    obtain ⟨hdecode, hnull⟩ := hread a rfl
    have hthere : Source.null? (write a) = some false := by
      show some (write a == .null) = some false
      simp [hnull]
    simp [hthere, hdecode]

end Parts

end Source

/-- A value that is no text is read as it is. -/
theorem readValue_eq_ok {α : Type} {decode : ∀ {ν : Type} [Source ν], ν → Option α} {v : Json} {a : α}
    (htext : ∀ s, v ≠ .str s) (h : decode v = some a) : readValue decode v = .ok a := by
  unfold readValue
  cases v with
  | str s => exact absurd rfl (htext s)
  | _ => simp only [h]

/-- A list that was written element by element is read back. -/
theorem readValue_list {α : Type} {decode : ∀ {ν : Type} [Source ν], ν → Option α} {write : α → Json}
    {xs : List α} (h : ∀ x ∈ xs, decode (write x) = some x) :
    readValue (Source.listOf? decode) (.arr (xs.map write)) = .ok xs := by
  refine readValue_eq_ok ?_ (Source.each?_map h)
  intro s htext
  cases htext

/-! ## §2. Identifiers. -/

namespace Uuid

/-- The number that the first digits stand for. -/
theorem ofDigits?_take (id : Uuid) {k : Nat} (hk : k ≤ 32) :
    ofDigits? ((List.range k).map fun i => Nat.digitChar (id.value.toNat / Nat.pow 16 (31 - i) % 16))
      = some (id.value.toNat / Nat.pow 16 (32 - k)) := by
  induction k with
  | zero =>
    have hlt : id.value.toNat < Nat.pow 16 32 := id.value.isLt
    show some 0 = _
    rw [Nat.div_eq_of_lt hlt]
  | succ k ih =>
    have hdigit := Written.hexValue?_digitChar (id.value.toNat / Nat.pow 16 (31 - k) % 16)
      (Nat.mod_lt _ (by decide))
    have hfront := ih (by omega)
    -- one digit more multiplies by sixteen and fills the last place
    have hpow : Nat.pow 16 (32 - k) = Nat.pow 16 (31 - k) * 16 := by
      rw [show 32 - k = 31 - k + 1 by omega]
      rfl
    unfold ofDigits? at hfront ⊢
    rw [List.range_succ, List.map_append, List.foldlM_append, hfront]
    simp only [Option.bind_eq_bind, Option.bind_some, List.map_cons, List.map_nil, List.foldlM_cons,
      List.foldlM_nil, hdigit, Option.map_some]
    rw [hpow, ← Nat.div_div_eq_div_mul, Nat.div_add_mod, show 32 - (k + 1) = 31 - k by omega]
    rfl

theorem length_digits (id : Uuid) : id.digits.length = 32 := by
  simp [digits]

theorem ofBare?_digits (id : Uuid) : ofBare? id.digits = some id := by
  have hdigits := ofDigits?_take id (Nat.le_refl 32)
  unfold ofBare?
  rw [if_pos id.length_digits]
  show (ofDigits? (List.map _ (List.range 32))).map _ = _
  rw [hdigits]
  simp

/-- Groups with hyphens between them are put together without the hyphens. -/
theorem ungroup?_append {a b c d e : List Char} (ha : a.length = 8) (hb : b.length = 4)
    (hc : c.length = 4) (hd : d.length = 4) (he : e.length = 12) :
    ungroup? (a ++ '-' :: (b ++ '-' :: (c ++ '-' :: (d ++ '-' :: e)))) = some (a ++ b ++ c ++ d ++ e) := by
  unfold ungroup?
  rw [if_pos (by simp [ha, hb, hc, hd, he])]
  -- what is dropped reaches behind the groups in front of a cut
  simp (disch := omega) [List.drop_append, List.drop_eq_nil_of_le, ha, hb, hc, hd]

theorem ungroup?_grouped {ds : List Char} (h : ds.length = 32) : ungroup? (grouped ds) = some ds := by
  have hjoined : ds.take 8 ++ (ds.drop 8).take 4 ++ (ds.drop 12).take 4 ++ (ds.drop 16).take 4
      ++ ds.drop 20 = ds := by
    simp [← List.take_add]
  unfold grouped
  rw [ungroup?_append (by simp [h]) (by simp [h]) (by simp [h]) (by simp [h]) (by simp [h]), hjoined]

theorem length_grouped {ds : List Char} (h : ds.length = 32) : (grouped ds).length = 36 := by
  simp [grouped, h]

/-- **An identifier is read back.** -/
theorem ofText?_toText (id : Uuid) : ofText? id.toText = some id := by
  have hlength := length_grouped id.length_digits
  unfold ofText? toText
  rw [String.toList_ofList]
  simp only [hlength]
  rw [if_neg (by decide), if_neg (by decide), if_neg (by decide)]
  unfold ofGrouped?
  rw [ungroup?_grouped id.length_digits]
  exact id.ofBare?_digits

theorem decode?_written (id : Uuid) : decode? id.toJson = some id := ofText?_toText id

end Uuid

/-! ## §3. References. -/

namespace Source

/-- A text that was written if it had a value. -/
theorem Parts.optional_text {p : Parts Json} {name : String} {x : Option String}
    (hfound : p.found.lookup name = x.map .str) : p.optional name text? = some x :=
  optional_written hfound fun text _ => ⟨rfl, fun hnull => by cases hnull⟩

theorem Parts.optional_bool {p : Parts Json} {name : String} {x : Option Bool}
    (hfound : p.found.lookup name = x.map .bool) : p.optional name bool? = some x :=
  optional_written hfound fun flag _ => ⟨rfl, fun hnull => by cases hnull⟩

end Source

namespace EntityReference

/-- What is written under the names of the fields. -/
theorem exists_parts_toJson (r : EntityReference) :
    ∃ p, Source.parts? fieldNames r.toJson = some p
      ∧ p.found.lookup "id" = some r.id.toJson ∧ p.found.lookup "type" = some (.str r.entityType)
      ∧ p.found.lookup "name" = r.name.map .str
      ∧ p.found.lookup "fullyQualifiedName" = r.fullyQualifiedName.map .str
      ∧ p.found.lookup "displayName" = r.displayName.map .str
      ∧ p.found.lookup "description" = r.description.map .str
      ∧ p.found.lookup "deleted" = r.deleted.map .bool
      ∧ p.found.lookup "inherited" = r.inherited.map .bool := by
  obtain ⟨p, hp, hfound⟩ := Source.parts?_object fieldNames _
  refine ⟨p, hp, ?_, ?_, ?_, ?_, ?_, ?_, ?_, ?_⟩
  all_goals
    rw [hfound _ (by decide)]
    simp [Keyed.get?_append, Json.reverse_present, Json.get?_present, Keyed.get?]

/-- **A reference is read back.** -/
theorem decode?_written (r : EntityReference) : decode? r.toJson = some r := by
  obtain ⟨p, hp, hid, htype, hname, hfqn, hshown, hdescription, hdeleted, hinherited⟩ :=
    r.exists_parts_toJson
  have hid := Source.Parts.required_written hid r.id.decode?_written
  have htype : p.required "type" Source.text? = some r.entityType :=
    Source.Parts.required_written htype rfl
  unfold decode?
  simp only [hp, hid, htype, Source.Parts.optional_text hname, Source.Parts.optional_text hfqn,
    Source.Parts.optional_text hshown, Source.Parts.optional_text hdescription,
    Source.Parts.optional_bool hdeleted, Source.Parts.optional_bool hinherited, Option.bind_eq_bind,
    Option.bind_some]

theorem readValue_toJson (r : EntityReference) : readValue decode? r.toJson = .ok r := by
  refine readValue_eq_ok ?_ r.decode?_written
  intro s htext
  cases htext

end EntityReference

/-! ## §4. Labels. -/

namespace TagLabel

/-- The words for the kinds of labels are read back. -/
theorem ofWord?_word (l : TagLabel) :
    TagSource.ofWord? l.source.word = some l.source ∧ LabelType.ofWord? l.labelType.word = some l.labelType
      ∧ LabelState.ofWord? l.state.word = some l.state := by
  refine ⟨?_, ?_, ?_⟩
  · cases l.source <;> rfl
  · cases l.labelType <;> rfl
  · cases l.state <;> rfl

/-- The style is missing or says something. -/
def Proper (l : TagLabel) : Prop := l.style ≠ some .null

theorem Proper.asDerived {l : TagLabel} (h : l.Proper) : l.asDerived.Proper := h

/-- What is written under the names of the fields. -/
theorem exists_parts_toJson (l : TagLabel) :
    ∃ p, Source.parts? fieldNames l.toJson = some p
      ∧ p.found.lookup "tagFQN" = some (.str l.tagFQN)
      ∧ p.found.lookup "name" = l.name.map .str ∧ p.found.lookup "displayName" = l.displayName.map .str
      ∧ p.found.lookup "description" = l.description.map .str ∧ p.found.lookup "style" = l.style.map id
      ∧ p.found.lookup "source" = some (.str l.source.word)
      ∧ p.found.lookup "labelType" = some (.str l.labelType.word)
      ∧ p.found.lookup "state" = some (.str l.state.word) := by
  obtain ⟨p, hp, hfound⟩ := Source.parts?_object fieldNames _
  refine ⟨p, hp, ?_, ?_, ?_, ?_, ?_, ?_, ?_, ?_⟩
  all_goals
    rw [hfound _ (by decide)]
    simp [Keyed.get?_append, Json.reverse_present, Json.get?_present, Keyed.get?]

/-- **A label is read back**, if its style can be. -/
theorem decode?_written {l : TagLabel} (h : l.Proper) : decode? l.toJson = some l := by
  obtain ⟨p, hp, hfqn, hname, hshown, hdescription, hstyle, hsource, htype, hstate⟩ :=
    l.exists_parts_toJson
  obtain ⟨hsourceWord, htypeWord, hstateWord⟩ := l.ofWord?_word
  have hfqn : p.required "tagFQN" Source.text? = some l.tagFQN := Source.Parts.required_written hfqn rfl
  have hstyle : p.optional "style" Source.json? = some l.style := by
    refine Source.Parts.optional_written hstyle fun style hmem => ⟨rfl, fun hnull => h ?_⟩
    rw [Option.mem_def.1 hmem]
    exact congrArg some hnull
  unfold decode?
  simp only [hp, hfqn, Source.Parts.optional_text hname, Source.Parts.optional_text hshown,
    Source.Parts.optional_text hdescription, hstyle, Source.Parts.defaulted_word hsource hsourceWord,
    Source.Parts.defaulted_word htype htypeWord, Source.Parts.defaulted_word hstate hstateWord,
    Option.bind_eq_bind, Option.bind_some]

/-! ### Labels that were read. -/

/-- A free-form value that is nothing stands at a node where there is nothing. -/
def NullIsNull (ν : Type) [Source ν] : Prop :=
  ∀ x : ν, Source.json? x = some .null → Source.null? x = some true

theorem nullIsNull_json : NullIsNull Json := by
  intro v hv
  cases hv
  rfl

theorem nullIsNull_textNode : NullIsNull TextNode := by
  intro x hx
  obtain ⟨tree, levels⟩ := x
  change tree.toJson? levels = some .null at hx
  cases tree with
  | null => rfl
  | bool b => simp [Written.toJson?] at hx
  | num value => simp [Written.toJson?] at hx
  | str text => simp [Written.toJson?] at hx
  | arr items => cases levels <;> simp [Written.toJson?] at hx
  | obj pairs => cases levels <;> simp [Written.toJson?, Json.object] at hx

/-- A label that was read has a style that says something, or none. -/
theorem proper_of_decode? {ν : Type} [Source ν] (hnull : NullIsNull ν) {x : ν} {l : TagLabel}
    (h : decode? x = some l) : l.Proper := by
  unfold decode? at h
  simp only [Option.bind_eq_bind, Option.bind_eq_some_iff] at h
  obtain ⟨p, -, tagFQN, -, name, -, displayName, -, description, -, style, hstyle, source, -, labelType, -,
    state, -, h⟩ := h
  cases h
  intro hnone
  change style = some .null at hnone
  subst hnone
  unfold Source.Parts.optional at hstyle
  split at hstyle
  · cases hstyle
  · -- the decoder looks whether there is anything before it reads it
    obtain ⟨isNull, hisNull, hread⟩ := Option.bind_eq_some_iff.1 hstyle
    cases isNull with
    | true => cases hread
    | false =>
      obtain ⟨v, hv, hvalue⟩ := Option.map_eq_some_iff.1 hread
      cases hvalue
      rw [hnull _ hv] at hisNull
      cases hisNull

/-- **The labels that a change holds can be written**, in whichever spelling the change holds them. -/
theorem proper_of_readValue {v : Json} {labels : List TagLabel}
    (h : readValue (Source.listOf? decode?) v = .ok labels) : ∀ l ∈ labels, l.Proper := by
  have hlist : ∀ {ν : Type} [Source ν], NullIsNull ν → ∀ x : ν,
      Source.listOf? decode? x = some labels → ∀ l ∈ labels, l.Proper := by
    intro ν _ hnull x hx
    obtain ⟨items, -, hitems⟩ := Option.bind_eq_some_iff.1 hx
    exact Source.forall_of_each? (fun _ _ => proper_of_decode? hnull) hitems
  unfold readValue at h
  dsimp only at h
  split at h
  · rename_i found hfound
    cases h
    cases v with
    | str text =>
      obtain ⟨tree, -, htree⟩ := Option.bind_eq_some_iff.1 hfound
      exact hlist nullIsNull_textNode _ htree
    | _ => exact hlist nullIsNull_json _ hfound
  · cases h

end TagLabel

end CatalogIndex
