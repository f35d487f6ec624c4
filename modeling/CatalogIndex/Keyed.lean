/-
  CatalogIndex.Keyed — association lists held in ascending key order.

  One representation serves every keyed collection of the library: the fields of a JSON object,
  the parameters of a script, the mappings of a registry, the nodes of a lineage graph.  `insert`
  keeps the order and replaces an entry of the same key, so a collection that was built with it
  has each key once (`Ascending`), whatever order the entries came in.

  ## Main results

    * `get?_insert_self`, `get?_insert_of_ne` — insertion changes the looked-up value of one key;
    * `get?_erase_self`, `get?_erase_of_ne` — removal clears one key;
    * `ascending_insert`, `ascending_erase` — both keep the order.
-/
namespace CatalogIndex

/-- Entries in ascending order of their keys. -/
abbrev Keyed (α : Type) := List (String × α)

namespace Keyed

variable {α β : Type}

/-! ## §1. Operations. -/

/-- The value stored under `key`. -/
def get? : Keyed α → String → Option α
  | [], _ => none
  | (k, v) :: rest, key => if k = key then some v else get? rest key

/-- Stores `value` under `key`, in place of an earlier value of that key. -/
def insert : Keyed α → String → α → Keyed α
  | [], key, value => [(key, value)]
  | (k, v) :: rest, key, value =>
    if key < k then (key, value) :: (k, v) :: rest
    else if key = k then (key, value) :: rest
    else (k, v) :: insert rest key value

/-- Drops the entry of `key`, if there is one. -/
def erase : Keyed α → String → Keyed α
  | [], _ => []
  | (k, v) :: rest, key => if k = key then erase rest key else (k, v) :: erase rest key

/-- Whether `key` has an entry. -/
def contains (m : Keyed α) (key : String) : Bool := (get? m key).isSome

/-- The entries of `upper` laid over those of `m`. -/
def layer (m upper : Keyed α) : Keyed α :=
  upper.foldl (fun acc entry => insert acc entry.1 entry.2) m

/-- The collection of the given entries; of two entries of one key the later counts. -/
def ofList (entries : List (String × α)) : Keyed α := layer [] entries

/-- The keys, in ascending order. -/
def keys (m : Keyed α) : List String := m.map (·.1)

/-- The given texts in ascending order, each once. -/
def distinct (texts : List String) : List String := keys (ofList (texts.map (·, ())))

/-- The values, in the order of their keys. -/
def values (m : Keyed α) : List α := m.map (·.2)

/-- Strictly ascending keys: the order that `insert` keeps. -/
def Ascending (m : Keyed α) : Prop := m.Pairwise fun a b => a.1 < b.1

/-! ## §2. Lookup after an operation. -/

@[simp] theorem get?_nil (key : String) : get? ([] : Keyed α) key = none := rfl

@[simp] theorem get?_insert_self (m : Keyed α) (key : String) (value : α) :
    get? (insert m key value) key = some value := by
  induction m with
  | nil => simp [insert, get?]
  | cons entry rest ih =>
    obtain ⟨k, v⟩ := entry
    simp only [insert]
    split
    · simp [get?]
    · split
      · simp [get?]
      · rename_i h
        simp [get?, Ne.symm h, ih]

theorem get?_insert_of_ne {key other : String} (h : other ≠ key) (m : Keyed α) (value : α) :
    get? (insert m key value) other = get? m other := by
  induction m with
  | nil => simp [insert, get?, Ne.symm h]
  | cons entry rest ih =>
    obtain ⟨k, v⟩ := entry
    simp only [insert]
    split
    · simp [get?, Ne.symm h]
    · split
      · rename_i hk
        subst hk
        simp [get?, Ne.symm h]
      · simp [get?, ih]

@[simp] theorem get?_erase_self (m : Keyed α) (key : String) : get? (erase m key) key = none := by
  induction m with
  | nil => rfl
  | cons entry rest ih => by_cases h : entry.1 = key <;> simp [erase, h, get?, ih]

theorem get?_erase_of_ne {key other : String} (h : other ≠ key) (m : Keyed α) :
    get? (erase m key) other = get? m other := by
  induction m with
  | nil => rfl
  | cons entry rest ih =>
    by_cases hk : entry.1 = key
    · simp [erase, get?, hk, Ne.symm h, ih]
    · by_cases ho : entry.1 = other <;> simp [erase, get?, hk, ho, h, ih]

/-! ## §3. The order. -/

theorem mem_insert {m : Keyed α} {key : String} {value : α} {entry : String × α}
    (h : entry ∈ insert m key value) : entry = (key, value) ∨ entry ∈ m := by
  induction m with
  | nil => simpa [insert] using h
  | cons head rest ih =>
    obtain ⟨k, v⟩ := head
    simp only [insert] at h
    split at h
    · simpa using h
    · split at h
      · simp only [List.mem_cons] at h ⊢
        exact h.imp id Or.inr
      · simp only [List.mem_cons] at h ⊢
        rcases h with h | h
        · exact Or.inr (Or.inl h)
        · exact (ih h).imp id Or.inr

theorem ascending_insert {m : Keyed α} (h : Ascending m) (key : String) (value : α) :
    Ascending (insert m key value) := by
  induction m with
  | nil => simp [insert, Ascending]
  | cons head rest ih =>
    obtain ⟨k, v⟩ := head
    have hrest : Ascending rest := (List.pairwise_cons.1 h).2
    have hhead := (List.pairwise_cons.1 h).1
    simp only [insert]
    split
    · rename_i hlt
      refine List.pairwise_cons.2 ⟨?_, h⟩
      intro e he
      rcases List.mem_cons.1 he with rfl | he
      · exact hlt
      · exact String.lt_trans hlt (hhead e he)
    · rename_i hge
      split
      · rename_i heq
        subst heq
        exact List.pairwise_cons.2 ⟨hhead, hrest⟩
      · rename_i hne
        refine List.pairwise_cons.2 ⟨?_, ih hrest⟩
        intro e he
        rcases mem_insert he with rfl | he
        · rcases Decidable.em (k < key) with hlt | hnlt
          · exact hlt
          · exact absurd (String.le_antisymm (String.not_lt.1 hnlt) (String.not_lt.1 hge)) hne
        · exact hhead e he

theorem mem_of_mem_erase {m : Keyed α} {key : String} {entry : String × α}
    (h : entry ∈ erase m key) : entry ∈ m := by
  induction m with
  | nil => exact h
  | cons head rest ih =>
    simp only [erase] at h
    split at h
    · exact List.mem_cons_of_mem _ (ih h)
    · rcases List.mem_cons.1 h with rfl | h
      · exact List.mem_cons_self
      · exact List.mem_cons_of_mem _ (ih h)

theorem ascending_erase {m : Keyed α} (h : Ascending m) (key : String) :
    Ascending (erase m key) := by
  induction m with
  | nil => exact h
  | cons head rest ih =>
    obtain ⟨hhead, hrest⟩ := List.pairwise_cons.1 h
    simp only [erase]
    split
    · exact ih hrest
    · exact List.pairwise_cons.2 ⟨fun e he => hhead e (mem_of_mem_erase he), ih hrest⟩

end Keyed

end CatalogIndex
