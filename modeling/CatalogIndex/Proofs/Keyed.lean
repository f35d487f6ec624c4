/-
  CatalogIndex.Proofs.Keyed — lookups in collections that were built in several steps.

  Documents and parameters are put together by layering entries over one another and by dropping
  keys.  A statement about such a collection is a statement about its lookups: for each way of
  building there is one equation here, and proofs about documents never look at the entries.

  ## Main results

    * `get?_insert`, `get?_erase` — one entry stored, one key dropped;
    * `get?_layer` — of the entries laid over a collection, the last one of a key counts;
    * `get?_eraseAll` — several keys dropped;
    * `eq_of_get?_eq` — collections in order are the same if their lookups are;
    * `mem_distinct`, `pairwise_distinct` — texts in order, each once;
    * `field?_object` — the fields of an object that was put together;
    * `depth_lt_of_mem`, `depth_lt_of_field?` — what is inside a value is less deep.
-/
import CatalogIndex.Json.Basic

namespace CatalogIndex

namespace Keyed

variable {α : Type}

/-! ## §1. One key. -/

/-- Storing an entry changes the value of its key, and of no other key. -/
theorem get?_insert (m : Keyed α) (key other : String) (value : α) :
    get? (insert m key value) other = if other = key then some value else get? m other := by
  by_cases h : other = key
  · subst h
    rw [get?_insert_self, if_pos rfl]
  · rw [get?_insert_of_ne h, if_neg h]

/-- Storing an entry adds its key. -/
theorem contains_insert (m : Keyed α) (key other : String) (value : α) :
    contains (insert m key value) other = true ↔ other = key ∨ contains m other = true := by
  unfold contains
  rw [get?_insert]
  by_cases h : other = key
  · simp [h]
  · simp [h]

/-- What is stored last under a key counts. -/
theorem insert_insert (m : Keyed α) (key : String) (first second : α) :
    insert (insert m key first) key second = insert m key second := by
  induction m with
  | nil => simp [insert]
  | cons entry rest ih =>
    obtain ⟨k, v⟩ := entry
    by_cases hlt : key < k
    · simp [insert, hlt]
    · by_cases heq : key = k
      · simp [insert, heq]
      · simp [insert, hlt, heq, ih]

/-- Dropping a key clears it, and no other key. -/
theorem get?_erase (m : Keyed α) (key other : String) :
    get? (erase m key) other = if other = key then none else get? m other := by
  by_cases h : other = key
  · subst h
    rw [get?_erase_self, if_pos rfl]
  · rw [get?_erase_of_ne h, if_neg h]

/-! ## §2. Many keys. -/

/-- In entries one behind the other, the first entry of a key counts. -/
theorem get?_append (a b : Keyed α) (key : String) :
    get? (a ++ b) key = (get? a key).or (get? b key) := by
  induction a with
  | nil => rfl
  | cons entry rest ih =>
    obtain ⟨k, v⟩ := entry
    by_cases h : k = key
    · simp [get?, h]
    · simpa [get?, h] using ih

/-- Of the entries laid over a collection, the last one of a key counts; a key without such an entry
    keeps its value. -/
theorem get?_layer (upper : List (String × α)) (m : Keyed α) (key : String) :
    get? (layer m upper) key = (get? upper.reverse key).or (get? m key) := by
  induction upper generalizing m with
  | nil => rfl
  | cons entry rest ih =>
    obtain ⟨k, v⟩ := entry
    -- the first entry is laid down before the others, so every other entry of its key covers it
    have hstep : layer m ((k, v) :: rest) = layer (insert m k v) rest := rfl
    rw [hstep, ih, List.reverse_cons, get?_append, get?_insert]
    by_cases h : key = k
    · subst h
      cases get? rest.reverse key <;> simp [get?]
    · have hk : get? [(k, v)] key = none := by simp [get?, Ne.symm h]
      rw [if_neg h, hk]
      cases get? rest.reverse key <;> rfl

/-- Of the entries that a collection is made of, the last one of a key counts. -/
theorem get?_ofList (entries : List (String × α)) (key : String) :
    get? (ofList entries) key = get? entries.reverse key := by
  unfold ofList
  rw [get?_layer]
  exact Option.or_none

/-- The keys of a collection with entries laid over it. -/
theorem contains_layer (upper : List (String × α)) (m : Keyed α) (key : String) :
    contains (layer m upper) key = true ↔ key ∈ upper.map (·.1) ∨ contains m key = true := by
  induction upper generalizing m with
  | nil => simp [layer]
  | cons entry rest ih =>
    show contains (layer (insert m entry.1 entry.2) rest) key = true ↔ _
    rw [ih, contains_insert, List.map_cons, List.mem_cons]
    exact or_left_comm.trans or_assoc.symm

/-- Several keys dropped one after the other. -/
theorem get?_eraseAll (keys : List String) (m : Keyed α) (key : String) :
    get? (keys.foldl erase m) key = if key ∈ keys then none else get? m key := by
  induction keys generalizing m with
  | nil => simp
  | cons k rest ih =>
    rw [List.foldl_cons, ih, get?_erase]
    by_cases h : key = k
    · simp [h]
    · simp [h]

/-- A key that is not the key of any entry has no value. -/
theorem get?_eq_none_of_notMem {m : Keyed α} {key : String} (h : key ∉ m.map (·.1)) :
    get? m key = none := by
  induction m with
  | nil => rfl
  | cons entry rest ih =>
    obtain ⟨k, v⟩ := entry
    simp only [List.map_cons, List.mem_cons, not_or] at h
    simpa [get?, Ne.symm h.1] using ih h.2

/-- A value that is found belongs to an entry. -/
theorem mem_of_get?_eq_some {m : Keyed α} {key : String} {value : α}
    (h : get? m key = some value) : (key, value) ∈ m := by
  induction m with
  | nil => simp at h
  | cons entry rest ih =>
    obtain ⟨k, v⟩ := entry
    by_cases hk : k = key
    · simp [get?, hk] at h
      simp [hk, h]
    · simp [get?, hk] at h
      exact List.mem_cons_of_mem _ (ih h)

/-- A key has a value exactly if it is the key of an entry. -/
theorem contains_iff_mem_keys (m : Keyed α) (key : String) :
    contains m key = true ↔ key ∈ keys m := by
  induction m with
  | nil => simp [contains, keys]
  | cons entry rest ih =>
    obtain ⟨k, v⟩ := entry
    by_cases h : k = key
    · simp [contains, keys, get?, h]
    · simpa [contains, keys, get?, h, Ne.symm h] using ih

/-! ## §3. Values, and the order of keys. -/

/-- Changing the values of entries does not touch the order of their keys. -/
theorem insert_map {β : Type} (f : α → β) (m : Keyed α) (key : String) (value : α) :
    insert (m.map fun entry => (entry.1, f entry.2)) key (f value)
      = (insert m key value).map fun entry => (entry.1, f entry.2) := by
  induction m with
  | nil => rfl
  | cons entry rest ih =>
    simp only [List.map_cons, insert]
    split
    · rfl
    · split
      · rfl
      · rw [ih, List.map_cons]

theorem layer_map {β : Type} (f : α → β) (m : Keyed α) (upper : List (String × α)) :
    layer (m.map fun entry => (entry.1, f entry.2)) (upper.map fun entry => (entry.1, f entry.2))
      = (layer m upper).map fun entry => (entry.1, f entry.2) := by
  induction upper generalizing m with
  | nil => rfl
  | cons entry rest ih =>
    show layer (insert (m.map _) entry.1 (f entry.2)) (rest.map _) = _
    rw [insert_map, ih]
    rfl

/-- The order of the entries is that of the keys, so it can be decided from them. -/
theorem ascending_iff_keys {m : Keyed α} : Ascending m ↔ (keys m).Pairwise (· < ·) := by
  unfold Ascending keys
  rw [List.pairwise_map]

theorem ascending_layer {m : Keyed α} (h : Ascending m) (upper : List (String × α)) :
    Ascending (layer m upper) := by
  induction upper generalizing m with
  | nil => exact h
  | cons entry rest ih => exact ih (ascending_insert h entry.1 entry.2)

theorem ascending_eraseAll {m : Keyed α} (h : Ascending m) (keys : List String) :
    Ascending (keys.foldl erase m) := by
  induction keys generalizing m with
  | nil => exact h
  | cons key rest ih => exact ih (ascending_erase h key)

/-- Each text once, and no others. -/
theorem mem_distinct {texts : List String} {text : String} :
    text ∈ distinct texts ↔ text ∈ texts := by
  unfold distinct ofList
  rw [← contains_iff_mem_keys, contains_layer]
  simp [contains, Function.comp_def]

theorem pairwise_distinct (texts : List String) : (distinct texts).Pairwise (· < ·) :=
  ascending_iff_keys.1 (ascending_layer List.Pairwise.nil _)

/-- In order, a key in front of all others has no value behind. -/
theorem get?_eq_none_of_lt {m : Keyed α} {key : String} (h : ∀ entry ∈ m, key < entry.1) :
    get? m key = none := by
  refine get?_eq_none_of_notMem fun hmem => ?_
  obtain ⟨entry, hentry, rfl⟩ := List.mem_map.1 hmem
  exact String.lt_irrefl _ (h entry hentry)

/-- In order, the entries may be looked through from either end. -/
theorem get?_reverse {m : Keyed α} (h : Ascending m) (key : String) :
    get? m.reverse key = get? m key := by
  induction m with
  | nil => rfl
  | cons entry rest ih =>
    obtain ⟨k, v⟩ := entry
    obtain ⟨hhead, hrest⟩ := List.pairwise_cons.1 h
    rw [List.reverse_cons, get?_append, ih hrest]
    by_cases hk : k = key
    · subst hk
      rw [get?_eq_none_of_lt hhead]
      simp [get?]
    · simp [get?, hk]

/-- **Collections in order are the same if their lookups are.** -/
theorem eq_of_get?_eq {a b : Keyed α} (ha : Ascending a) (hb : Ascending b)
    (h : ∀ key, get? a key = get? b key) : a = b := by
  induction a generalizing b with
  | nil =>
    cases b with
    | nil => rfl
    | cons entry rest =>
      have hfirst := h entry.1
      simp [get?] at hfirst
  | cons entry rest ih =>
    obtain ⟨k, v⟩ := entry
    cases b with
    | nil =>
      have hfirst := h k
      simp [get?] at hfirst
    | cons entry' rest' =>
      obtain ⟨k', v'⟩ := entry'
      obtain ⟨hhead, hrest⟩ := List.pairwise_cons.1 ha
      obtain ⟨hhead', hrest'⟩ := List.pairwise_cons.1 hb
      -- each first key would otherwise stand behind the other one
      have hkeys : k = k' := by
        refine Decidable.byContradiction fun hne => ?_
        have hfound : get? rest' k = some v := by simpa [get?, Ne.symm hne] using (h k).symm
        have hfound' : get? rest k' = some v' := by simpa [get?, hne] using h k'
        have hlt : k' < k := hhead' _ (mem_of_get?_eq_some hfound)
        have hlt' : k < k' := hhead _ (mem_of_get?_eq_some hfound')
        exact String.lt_irrefl k (String.lt_trans hlt' hlt)
      subst hkeys
      have hvalues : v = v' := by simpa [get?] using h k
      have hlookups : ∀ key, get? rest key = get? rest' key := by
        intro key
        by_cases hkey : k = key
        · subst hkey
          rw [get?_eq_none_of_lt hhead, get?_eq_none_of_lt hhead']
        · simpa [get?, hkey] using h key
      rw [hvalues, ih hrest hrest' hlookups]

end Keyed

/-! ## §4. Values that may be missing. -/

namespace Json

/-- A field that is only there when it has a value. -/
theorem get?_present (key other : String) (value : Option Json) :
    Keyed.get? (present key value) other = if other = key then value else none := by
  cases value with
  | none => simp [present]
  | some v =>
    by_cases h : other = key
    · simp [present, Keyed.get?, h]
    · simp [present, Keyed.get?, Ne.symm h, h]

theorem reverse_present (key : String) (value : Option Json) :
    (present key value).reverse = present key value := by
  cases value <;> rfl

/-! ## §5. Objects. -/

/-- The fields of an object are those that it was put together from; the last one of a key counts. -/
theorem field?_object (fields : List (String × Json)) (key : String) :
    (object fields).field? key = Keyed.get? fields.reverse key :=
  Keyed.get?_ofList fields key

/-! ## §6. Values inside values. -/

/-- An item is less deep than the list it is in. -/
theorem depth_lt_of_mem {v : Json} {items : List Json} (h : v ∈ items) :
    v.depth < (Json.arr items).depth := by
  rw [depth, Nat.lt_succ_iff]
  induction h with
  | head rest => exact Nat.le_max_left _ _
  | tail head _ ih => exact Nat.le_trans ih (Nat.le_max_right _ _)

/-- A field is less deep than the object it is in. -/
theorem depth_lt_of_field? {v inner : Json} {key : String} (h : v.field? key = some inner) :
    inner.depth < v.depth := by
  cases v with
  | obj fields =>
    have hmem : (key, inner) ∈ fields := Keyed.mem_of_get?_eq_some h
    clear h
    rw [depth, Nat.lt_succ_iff]
    induction hmem with
    | head rest => exact Nat.le_max_left _ _
    | tail field _ ih => exact Nat.le_trans ih (Nat.le_max_right _ _)
  | _ => cases h

end Json

end CatalogIndex
