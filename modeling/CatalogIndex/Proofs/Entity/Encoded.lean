/-
  CatalogIndex.Proofs.Entity.Encoded — values inline, and as texts that hold them.

  A change carries its values in two spellings, and a decoder reads both: it only asks its source
  questions, and a value and the tree of its text give the same answers.  What a node says is therefore
  carried through the questions first, then through the building blocks of decoders, and a decoder that is
  made of these reads the same from both.

  A node of a text knows how deep it may still open arrays and objects.  A value says the same as a node
  only if it is not deeper than that.

  ## Main definitions

    * `Says` — a node of a text says the same as a value;
    * `Agrees` — a decoder reads the same from a value and from a node that says it;
    * `ReadsAlike` — a value of a change reads the same in both spellings.

  ## Main results

    * `agrees_entityReference`, `agrees_tagLabel` — the records that changes are about;
    * `readValue_compact` — a value and its compact text read the same.
-/
import CatalogIndex.Entity.Change
import CatalogIndex.Entity.Reference
import CatalogIndex.Entity.TagLabel
import CatalogIndex.Proofs.Json.Reading
import Mathlib.Data.List.Forall2
import Mathlib.Data.Option.Basic

namespace CatalogIndex

/-! ## §1. Fields in order. -/

namespace Keyed

variable {α : Type}

/-- A key behind all others is stored at the end. -/
theorem insert_last {m : Keyed α} {key : String} (h : ∀ entry ∈ m, entry.1 < key) (value : α) :
    insert m key value = m ++ [(key, value)] := by
  induction m with
  | nil => rfl
  | cons head rest ih =>
    obtain ⟨k, v⟩ := head
    have hlt : k < key := h (k, v) List.mem_cons_self
    have hnot : ¬ key < k := fun hback => String.lt_irrefl k (String.lt_trans hlt hback)
    have hne : key ≠ k := by
      rintro rfl
      exact String.lt_irrefl key hlt
    unfold insert
    rw [if_neg hnot, if_neg hne, ih fun entry he => h entry (List.mem_cons_of_mem _ he)]
    rfl

/-- Entries that are in order are laid over others in front of them as they are. -/
theorem layer_eq_append {m upper : Keyed α} (h : Ascending (m ++ upper)) :
    layer m upper = m ++ upper := by
  induction upper generalizing m with
  | nil => rw [List.append_nil]; rfl
  | cons head rest ih =>
    obtain ⟨k, v⟩ := head
    have hlast : insert m k v = m ++ [(k, v)] :=
      insert_last (fun entry he => (List.pairwise_append.1 h).2.2 entry he (k, v) List.mem_cons_self) v
    show layer (insert m k v) rest = _
    rw [hlast, ih (by rwa [List.append_assoc]), List.append_assoc]
    rfl

theorem ofList_of_ascending {m : Keyed α} (h : Ascending m) : ofList m = m := layer_eq_append h

end Keyed

/-! ## §2. What a node says. -/

/-- A node of a text says the same as a value, and may open as many levels as the value has. -/
structure Says (v : Json) (x : TextNode) : Prop where
  tree : x.tree = v.toWritten
  levels : v.depth ≤ x.levels
  canonical : v.Canonical

mutual

/-- A value is what its tree stands for. -/
theorem Json.toJson?_toWritten : ∀ (v : Json) (levels : Nat), v.Canonical → v.depth ≤ levels →
    v.toWritten.toJson? levels = some v
  | .null, _, _, _ => by simp [Json.toWritten, Written.toJson?]
  | .bool b, _, _, _ => by simp [Json.toWritten, Written.toJson?]
  | .num n, _, _, _ => by simp [Json.toWritten, Written.toJson?]
  | .str s, _, _, _ => by simp [Json.toWritten, Written.toJson?]
  | .arr items, levels, hcanonical, hdepth => by
    obtain ⟨levels, rfl⟩ : ∃ l, levels = l + 1 := ⟨levels - 1, by simp [Json.depth] at hdepth; omega⟩
    have hitems := Json.toJsonItems?_toWritten items levels hcanonical (by
      simpa [Json.depth] using hdepth)
    simp [Json.toWritten, Written.toJson?, hitems]
  | .obj fields, levels, hcanonical, hdepth => by
    obtain ⟨levels, rfl⟩ : ∃ l, levels = l + 1 := ⟨levels - 1, by simp [Json.depth] at hdepth; omega⟩
    have hfields := Json.toJsonFields?_toWritten fields levels hcanonical.2 (by
      simpa [Json.depth] using hdepth)
    simp [Json.toWritten, Written.toJson?, hfields, Json.object, Keyed.ofList_of_ascending hcanonical.1]

theorem Json.toJsonItems?_toWritten : ∀ (items : List Json) (levels : Nat), CanonicalItems items →
    depthItems items ≤ levels → Written.toJsonItems? levels (toWrittenItems items) = some items
  | [], _, _, _ => by simp [toWrittenItems, Written.toJsonItems?]
  | v :: rest, levels, hcanonical, hdepth => by
    have hv := Json.toJson?_toWritten v levels hcanonical.1 (by simp [depthItems] at hdepth; omega)
    have hrest := Json.toJsonItems?_toWritten rest levels hcanonical.2 (by
      simp [depthItems] at hdepth; omega)
    simp [toWrittenItems, Written.toJsonItems?, hv, hrest]

theorem Json.toJsonFields?_toWritten : ∀ (fields : List (String × Json)) (levels : Nat),
    CanonicalFields fields → depthFields fields ≤ levels →
    Written.toJsonFields? levels (toWrittenFields fields) = some fields
  | [], _, _, _ => by simp [toWrittenFields, Written.toJsonFields?]
  | (key, v) :: rest, levels, hcanonical, hdepth => by
    have hv := Json.toJson?_toWritten v levels hcanonical.1 (by simp [depthFields] at hdepth; omega)
    have hrest := Json.toJsonFields?_toWritten rest levels hcanonical.2 (by
      simp [depthFields] at hdepth; omega)
    simp [toWrittenFields, Written.toJsonFields?, hv, hrest]

end

/-! ## §3. The questions of a decoder. -/

namespace Says

variable {v : Json} {x : TextNode}

/-- The same name, and values that are said. -/
def Named (a : String × Json) (b : String × TextNode) : Prop := a.1 = b.1 ∧ Says a.2 b.2

theorem null? (h : Says v x) : Source.null? x = Source.null? v := by
  show Source.null? x = some (v == .null)
  obtain ⟨tree, levels⟩ := x
  obtain rfl : tree = v.toWritten := h.tree
  cases v <;> rfl

theorem bool? (h : Says v x) : Source.bool? x = Source.bool? v := by
  obtain ⟨tree, levels⟩ := x
  obtain rfl : tree = v.toWritten := h.tree
  cases v <;> rfl

theorem text? (h : Says v x) : Source.text? x = Source.text? v := by
  obtain ⟨tree, levels⟩ := x
  obtain rfl : tree = v.toWritten := h.tree
  cases v <;> rfl

theorem json? (h : Says v x) : Source.json? x = Source.json? v := by
  show x.tree.toJson? x.levels = some v
  rw [h.tree]
  exact Json.toJson?_toWritten v x.levels h.canonical h.levels

/-- The nodes of the items say the items. -/
theorem of_items {items : List Json} {levels : Nat} (hcanonical : Json.CanonicalItems items)
    (hdepth : Json.depthItems items ≤ levels) :
    List.Forall₂ Says items ((Json.toWrittenItems items).map ({ tree := ·, levels })) := by
  induction items with
  | nil => exact .nil
  | cons v rest ih =>
    have hle : max v.depth (Json.depthItems rest) ≤ levels := hdepth
    exact .cons ⟨rfl, by show v.depth ≤ levels; omega, hcanonical.1⟩ (ih hcanonical.2 (by omega))

/-- The nodes of the fields say the fields, under the same keys. -/
theorem of_fields {fields : List (String × Json)} {levels : Nat}
    (hcanonical : Json.CanonicalFields fields) (hdepth : Json.depthFields fields ≤ levels) :
    ∃ pairs : List (String × TextNode),
      (Json.toWrittenFields fields).mapM (fun pair => pair.1.map (·, { tree := pair.2, levels }))
          = some pairs
        ∧ List.Forall₂ Named fields pairs := by
  induction fields with
  | nil => exact ⟨[], rfl, .nil⟩
  | cons field rest ih =>
    obtain ⟨key, v⟩ := field
    have hle : max v.depth (Json.depthFields rest) ≤ levels := hdepth
    obtain ⟨pairs, hpairs, hnamed⟩ := ih hcanonical.2 (by omega)
    refine ⟨(key, { tree := v.toWritten, levels }) :: pairs, ?_, .cons ⟨rfl, ?_⟩ hnamed⟩
    · show List.mapM _ ((some key, v.toWritten) :: Json.toWrittenFields rest) = _
      rw [List.mapM_cons, hpairs]
      rfl
    · exact ⟨rfl, by show v.depth ≤ levels; omega, hcanonical.1⟩

theorem items? (h : Says v x) :
    Option.Rel (List.Forall₂ Says) (Source.items? v) (Source.items? x) := by
  obtain ⟨tree, levels⟩ := x
  obtain rfl : tree = v.toWritten := h.tree
  cases v with
  | arr items =>
    have hdepth : Json.depthItems items + 1 ≤ levels := h.levels
    obtain ⟨levels, rfl⟩ : ∃ l, levels = l + 1 := ⟨levels - 1, by omega⟩
    exact .some (of_items h.canonical (by omega))
  | _ => exact .none

theorem pairs? (h : Says v x) :
    Option.Rel (List.Forall₂ Named) (Source.pairs? v) (Source.pairs? x) := by
  obtain ⟨tree, levels⟩ := x
  obtain rfl : tree = v.toWritten := h.tree
  cases v with
  | obj fields =>
    have hdepth : Json.depthFields fields + 1 ≤ levels := h.levels
    obtain ⟨levels, rfl⟩ : ∃ l, levels = l + 1 := ⟨levels - 1, by omega⟩
    obtain ⟨pairs, hpairs, hnamed⟩ :=
      of_fields h.canonical.2 (show Json.depthFields fields ≤ levels by omega)
    have hread : Source.pairs? (⟨(Json.obj fields).toWritten, levels + 1⟩ : TextNode) = some pairs :=
      hpairs
    rw [hread]
    exact .some hnamed
  | _ => exact .none

/-- An alternative has the same name, and carries what is said or nothing. -/
theorem alternative? (h : Says v x) :
    Option.Rel (fun a b => a.1 = b.1 ∧ Option.Rel Says a.2 b.2) (Source.alternative? v)
      (Source.alternative? x) := by
  have hpairs := h.pairs?
  obtain ⟨tree, levels⟩ := x
  obtain rfl : tree = v.toWritten := h.tree
  cases v with
  | str s => exact .some ⟨rfl, .none⟩
  | obj fields =>
    have hasked : Source.pairs? (⟨(Json.obj fields).toWritten, levels⟩ : TextNode)
        = TextNode.pairs? ⟨.obj (Json.toWrittenFields fields), levels⟩ := rfl
    rw [hasked] at hpairs
    simp only [Source.alternative?, Json.toWritten]
    generalize TextNode.pairs? ⟨.obj (Json.toWrittenFields fields), levels⟩ = pairs at hpairs
    -- an object names an alternative if it has one field
    cases hpairs with
    | some hfields =>
      rcases hfields with _ | ⟨hfirst, hrest⟩
      · exact .none
      · rcases hrest with _ | ⟨hsecond, hmore⟩
        · exact .some ⟨hfirst.1, .some hfirst.2⟩
        · exact .none
  | _ => exact .none

end Says

/-! ## §4. Building blocks. -/

/-- What one decoder reads from a value, the other one reads from a node that says it. -/
def Agrees {α : Type} (inline : Json → Option α) (encoded : TextNode → Option α) : Prop :=
  ∀ v x, Says v x → encoded x = inline v

namespace Agrees

variable {α : Type} {inline : Json → Option α} {encoded : TextNode → Option α}

theorem each? (h : Agrees inline encoded) {vs : List Json} {xs : List TextNode}
    (hnode : List.Forall₂ Says vs xs) : Source.each? encoded xs = Source.each? inline vs := by
  induction hnode with
  | nil => rfl
  | cons hhead _ ih =>
    unfold Source.each?
    rw [h _ _ hhead, ih]

/-- Lists are read alike if their items are. -/
theorem listOf? (h : Agrees inline encoded) :
    Agrees (Source.listOf? inline) (Source.listOf? encoded) := by
  intro v x hnode
  have hitems := hnode.items?
  unfold Source.listOf?
  generalize Source.items? v = vs at hitems
  generalize Source.items? x = xs at hitems
  cases hitems with
  | none => rfl
  | some hitems => exact h.each? hitems

theorem bind (h : Agrees inline encoded) {β : Type} (f : α → Option β) :
    Agrees (fun v => (inline v).bind f) fun x => (encoded x).bind f := by
  intro v x hnode
  show (encoded x).bind f = (inline v).bind f
  rw [h v x hnode]

end Agrees

theorem agrees_bare? : Agrees Source.bare? Source.bare? := by
  intro v x hnode
  have halternative := hnode.alternative?
  unfold Source.bare?
  generalize Source.alternative? v = a at halternative
  generalize Source.alternative? x = b at halternative
  cases halternative with
  | none => rfl
  | @some a b hnamed =>
    obtain ⟨name, content⟩ := a
    obtain ⟨name', content'⟩ := b
    obtain ⟨rfl, hcontent⟩ := hnamed
    cases hcontent with
    | none => rfl
    | some hcontent =>
      show (if Source.null? _ = some true then some name else none) = _
      rw [hcontent.null?]

/-- The fields that were found say the same, one by one. -/
structure PartsSay (p : Source.Parts Json) (q : Source.Parts TextNode) : Prop where
  found : List.Forall₂ Says.Named p.found q.found
  named : p.named = q.named

namespace PartsSay

variable {p : Source.Parts Json} {q : Source.Parts TextNode}

theorem lookup {fields : List (String × Json)} {pairs : List (String × TextNode)}
    (h : List.Forall₂ Says.Named fields pairs) (name : String) :
    Option.Rel Says (fields.lookup name) (pairs.lookup name) := by
  induction h with
  | nil => exact .none
  | @cons a b fields pairs hhead _ ih =>
    obtain ⟨key, v⟩ := a
    obtain ⟨key', x⟩ := b
    obtain ⟨rfl, hnode⟩ := hhead
    rw [List.lookup_cons, List.lookup_cons]
    by_cases hkey : (name == key) = true
    · rw [hkey]
      exact .some hnode
    · rw [Bool.eq_false_iff.2 hkey]
      exact ih

variable {α : Type} {inline : Json → Option α} {encoded : TextNode → Option α}

theorem required (h : PartsSay p q) (hdecode : Agrees inline encoded) (name : String) :
    q.required name encoded = p.required name inline := by
  have hfound := lookup h.found name
  unfold Source.Parts.required
  generalize p.found.lookup name = v at hfound
  generalize q.found.lookup name = x at hfound
  cases hfound with
  | none => rfl
  | some hnode => exact hdecode _ _ hnode

theorem optional (h : PartsSay p q) (hdecode : Agrees inline encoded) (name : String) :
    q.optional name encoded = p.optional name inline := by
  have hfound := lookup h.found name
  unfold Source.Parts.optional
  generalize p.found.lookup name = v at hfound
  generalize q.found.lookup name = x at hfound
  cases hfound with
  | none => rfl
  | some hnode =>
    dsimp only
    rw [hnode.null?, hdecode _ _ hnode]

theorem defaulted (h : PartsSay p q) (hdecode : Agrees inline encoded) (name : String)
    (default : α) : q.defaulted name encoded default = p.defaulted name inline default := by
  have hfound := lookup h.found name
  unfold Source.Parts.defaulted
  generalize p.found.lookup name = v at hfound
  generalize q.found.lookup name = x at hfound
  cases hfound with
  | none => rfl
  | some hnode => exact hdecode _ _ hnode

end PartsSay

/-- The keys are the same. -/
theorem Says.map_fst {fields : List (String × Json)} {pairs : List (String × TextNode)}
    (h : List.Forall₂ Named fields pairs) : pairs.map (·.1) = fields.map (·.1) := by
  induction h with
  | nil => rfl
  | cons hhead _ ih => rw [List.map_cons, List.map_cons, ih, hhead.1]

/-- The fields with known names. -/
theorem Says.known {fields : List (String × Json)} {pairs : List (String × TextNode)}
    (h : List.Forall₂ Named fields pairs) (names : List String) :
    List.Forall₂ Named (fields.filter fun pair => names.contains pair.1)
      (pairs.filter fun pair => names.contains pair.1) := by
  refine List.rel_filter ?_ h
  intro a b hab
  show names.contains a.1 = true ↔ names.contains b.1 = true
  rw [hab.1]

/-- The items under the names that their places give them. -/
theorem Says.zip {names : List String} {vs : List Json} {xs : List TextNode}
    (h : List.Forall₂ Says vs xs) : List.Forall₂ Named (names.zip vs) (names.zip xs) := by
  induction h generalizing names with
  | nil => simp
  | cons hhead _ ih =>
    cases names with
    | nil => exact .nil
    | cons name names => exact .cons ⟨rfl, hhead⟩ ih

/-- **A record is found alike**, whether it is written with names or as a list. -/
theorem Says.parts? {v : Json} {x : TextNode} (h : Says v x) (names : List String) :
    Option.Rel PartsSay (Source.parts? names v) (Source.parts? names x) := by
  have hpairs := h.pairs?
  have hitems := h.items?
  unfold Source.parts?
  generalize Source.pairs? v = fields at hpairs
  generalize Source.pairs? x = pairs at hpairs
  cases hpairs with
  | some hnamed =>
    dsimp only
    have hknown := known hnamed names
    rw [map_fst hknown]
    split
    · exact .some ⟨hknown, rfl⟩
    · exact .none
  | none =>
    dsimp only
    generalize Source.items? v = vs at hitems
    generalize Source.items? x = xs at hitems
    cases hitems with
    | none => exact .none
    | some hnode =>
      dsimp only
      rw [hnode.length_eq]
      split
      · exact .some ⟨zip hnode, rfl⟩
      · exact .none

/-! ## §5. Records. -/

theorem agrees_text? : Agrees Source.text? Source.text? := fun _ _ h => h.text?

theorem agrees_bool? : Agrees Source.bool? Source.bool? := fun _ _ h => h.bool?

theorem agrees_json? : Agrees Source.json? Source.json? := fun _ _ h => h.json?

theorem agrees_uuid : Agrees Uuid.decode? Uuid.decode? := agrees_text?.bind Uuid.ofText?

/-- **References are read alike.** -/
theorem agrees_entityReference : Agrees EntityReference.decode? EntityReference.decode? := by
  intro v x h
  have hparts := h.parts? EntityReference.fieldNames
  unfold EntityReference.decode?
  generalize Source.parts? EntityReference.fieldNames v = p at hparts
  generalize Source.parts? EntityReference.fieldNames x = q at hparts
  cases hparts with
  | none => rfl
  | some hsay =>
    simp only [Option.bind_eq_bind, Option.bind_some, hsay.required agrees_uuid,
      hsay.required agrees_text?, hsay.optional agrees_text?, hsay.optional agrees_bool?]

/-- **Labels are read alike.** -/
theorem agrees_tagLabel : Agrees TagLabel.decode? TagLabel.decode? := by
  intro v x h
  have hparts := h.parts? TagLabel.fieldNames
  unfold TagLabel.decode?
  generalize Source.parts? TagLabel.fieldNames v = p at hparts
  generalize Source.parts? TagLabel.fieldNames x = q at hparts
  cases hparts with
  | none => rfl
  | some hsay =>
    simp only [Option.bind_eq_bind, Option.bind_some, hsay.required agrees_text?,
      hsay.optional agrees_text?, hsay.optional agrees_json?,
      hsay.defaulted (agrees_bare?.bind TagSource.ofWord?),
      hsay.defaulted (agrees_bare?.bind LabelType.ofWord?),
      hsay.defaulted (agrees_bare?.bind LabelState.ofWord?)]

/-! ## §6. Values of a change. -/

/-- A value reads the same inline and as a text that holds it; if it cannot be read, both are parse
    errors. -/
def ReadsAlike {α : Type} (decode : ∀ {ν : Type} [Source ν], ν → Option α) (v : Json) : Prop :=
  readValue decode (.str v.compact) = readValue decode v
    ∧ ∀ e, readValue decode v = .error e → e.kind = .parse

theorem kind_of_readValue {α : Type} {decode : ∀ {ν : Type} [Source ν], ν → Option α} {v : Json}
    {e : Error} (h : readValue decode v = .error e) : e.kind = .parse := by
  unfold readValue at h
  dsimp only at h
  split at h
  · cases h
  · cases h
    rfl

theorem readsAlike_of_agrees {α : Type} {decode : ∀ {ν : Type} [Source ν], ν → Option α}
    (h : Agrees decode decode) {v : Json} (htext : ∀ s, v ≠ .str s) (hdepth : v.depth ≤ 127)
    (hnumbers : v.WordSized) (hcanonical : v.Canonical) : ReadsAlike decode v := by
  refine ⟨?_, fun e he => kind_of_readValue he⟩
  have hroot : decode (TextNode.root v.toWritten) = decode v := h v _ ⟨rfl, hdepth, hcanonical⟩
  have hread : (Written.read? v.compact).bind (fun tree => decode (TextNode.root tree)) = decode v := by
    rw [Written.read?_compact hnumbers, Option.bind_some, hroot]
  -- the value itself is decoded as it is, since by `htext` it is no text
  unfold readValue
  simp only [hread]

/-- **Values read the same inline and encoded.**  A value that is no text, is at most 127 levels deep and
    has integers of a machine word for numbers gives the same as the text that holds it in compact form,
    whatever a change may be read as: a reference, references, labels, texts or a free-form value.  Its
    objects have each key once and in order, as objects are kept. -/
theorem readValue_compact {v : Json} (htext : ∀ s, v ≠ .str s) (hdepth : v.depth ≤ 127)
    (hnumbers : v.WordSized) (hcanonical : v.Canonical) :
    ReadsAlike EntityReference.decode? v
      ∧ ReadsAlike (Source.listOf? EntityReference.decode?) v
      ∧ ReadsAlike (Source.listOf? TagLabel.decode?) v
      ∧ ReadsAlike (Source.listOf? Source.text?) v
      ∧ ReadsAlike Source.json? v := by
  refine ⟨?_, ?_, ?_, ?_, ?_⟩
  · exact readsAlike_of_agrees agrees_entityReference htext hdepth hnumbers hcanonical
  · exact readsAlike_of_agrees agrees_entityReference.listOf? htext hdepth hnumbers hcanonical
  · exact readsAlike_of_agrees agrees_tagLabel.listOf? htext hdepth hnumbers hcanonical
  · exact readsAlike_of_agrees agrees_text?.listOf? htext hdepth hnumbers hcanonical
  · exact readsAlike_of_agrees agrees_json? htext hdepth hnumbers hcanonical

/-- A reference written as a list of its fields, the last ones left out. -/
def listedReference : Json :=
  .arr [.str "5f1d2b3c4e5f60718293a4b5c6d7e8f9", .str "table", .null, .str "shop.\"orders\"\n"]

/-- It reads as a reference from its text as well. -/
theorem readValue_compact_listedReference :
    listedReference.compact
        = "[\"5f1d2b3c4e5f60718293a4b5c6d7e8f9\",\"table\",null,\"shop.\\\"orders\\\"\\n\"]"
      ∧ (readValue EntityReference.decode? (.str listedReference.compact)).toOption.map
          (·.fullyQualifiedName) = some (some "shop.\"orders\"\n") := by
  have htext : ∀ s, listedReference ≠ .str s := by
    rintro s ⟨⟩
  have hnumbers : listedReference.WordSized := by
    simp [listedReference, Json.WordSized, Json.WordSizedItems]
  have hcanonical : listedReference.Canonical := by
    simp [listedReference, Json.Canonical, Json.CanonicalItems]
  have halike := (readValue_compact htext (by decide) hnumbers hcanonical).1
  refine ⟨by decide +kernel, ?_⟩
  rw [halike.1]
  decide +kernel

end CatalogIndex
