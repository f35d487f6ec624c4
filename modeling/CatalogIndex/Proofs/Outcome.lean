/-
  CatalogIndex.Proofs.Outcome — programs that may fail, taken apart.

  A program that succeeded consists of steps that succeeded.  The lemmas here give the steps of a
  sequence, of a change of the result and of a step for every element of a list.

  ## Main results

    * `bind_eq_ok`, `map_eq_ok` — one step after another, and a change of the result;
    * `eq_ok_of_toOption_map` — a result of which something is known;
    * `mapM_eq_ok_iff`, `mapM_eq_some_iff` — a step for every element;
    * `exists_forall₂_iff`, `forall_mem_congr` — elements and their results;
    * `exists_foldlM_eq_ok_iff` — results put into a state one after the other;
    * `foldlM_keeps` — what every step keeps, a run keeps.
-/
import CatalogIndex.Error
import Mathlib.Data.List.Forall2

namespace CatalogIndex

namespace Outcome

variable {α β : Type}

theorem bind_eq_ok {x : Outcome α} {f : α → Outcome β} {b : β} (h : (x >>= f) = .ok b) :
    ∃ a, x = .ok a ∧ f a = .ok b := by
  cases x with
  | error e => cases h
  | ok a => exact ⟨a, rfl, h⟩

theorem map_eq_ok {x : Outcome α} {f : α → β} {b : β} (h : x.map f = .ok b) :
    ∃ a, x = .ok a ∧ f a = b := by
  cases x with
  | error e => cases h
  | ok a =>
    cases h
    exact ⟨a, rfl, rfl⟩

/-- If something is known of the result, there is one. -/
theorem eq_ok_of_toOption_map {x : Outcome α} {f : α → β} {b : β} (h : x.toOption.map f = some b) :
    ∃ a, x = .ok a ∧ f a = b := by
  cases x with
  | error e => cases h
  | ok a => exact ⟨a, rfl, Option.some.inj h⟩

/-- A step for every element succeeds exactly if each of them does. -/
theorem mapM_eq_ok_iff {f : α → Outcome β} {xs : List α} {ys : List β} :
    xs.mapM f = .ok ys ↔ List.Forall₂ (fun x y => f x = .ok y) xs ys := by
  induction xs generalizing ys with
  | nil =>
    rw [List.mapM_nil, List.forall₂_nil_left_iff]
    constructor
    · intro h
      cases h
      rfl
    · rintro rfl
      rfl
  | cons x rest ih =>
    rw [List.mapM_cons, List.forall₂_cons_left_iff]
    constructor
    · intro h
      obtain ⟨y, hy, h⟩ := bind_eq_ok h
      obtain ⟨ys', hys, h⟩ := bind_eq_ok h
      cases h
      exact ⟨y, ys', hy, ih.1 hys, rfl⟩
    · rintro ⟨y, ys', hy, hys, rfl⟩
      rw [hy, ih.2 hys]
      rfl

/-- The same for a step that fails without an error. -/
theorem mapM_eq_some_iff {f : α → Option β} {xs : List α} {ys : List β} :
    xs.mapM f = some ys ↔ List.Forall₂ (fun x y => f x = some y) xs ys := by
  induction xs generalizing ys with
  | nil => simp [eq_comm]
  | cons x rest ih =>
    rw [List.mapM_cons, List.forall₂_cons_left_iff]
    constructor
    · intro h
      obtain ⟨y, hy, h⟩ := Option.bind_eq_some_iff.1 h
      obtain ⟨ys', hys, h⟩ := Option.bind_eq_some_iff.1 h
      cases h
      exact ⟨y, ys', hy, ih.1 hys, rfl⟩
    · rintro ⟨y, ys', hy, hys, rfl⟩
      rw [hy, ih.2 hys]
      rfl

/-- There are results for all elements exactly if there is one for each. -/
theorem exists_forall₂_iff {R : α → β → Prop} {xs : List α} :
    (∃ ys, List.Forall₂ R xs ys) ↔ ∀ x ∈ xs, ∃ y, R x y := by
  induction xs with
  | nil => simp
  | cons x rest ih =>
    rw [List.forall_mem_cons, ← ih]
    constructor
    · rintro ⟨_, hall⟩
      obtain ⟨y, ys, hy, hys, -⟩ := List.forall₂_cons_left_iff.1 hall
      exact ⟨⟨y, hy⟩, ys, hys⟩
    · rintro ⟨⟨y, hy⟩, ys, hys⟩
      exact ⟨y :: ys, .cons hy hys⟩

/-- What is said of elements and of their results alike holds of all the ones if it does of all the
    others. -/
theorem forall_mem_congr {R : α → β → Prop} {P : α → Prop} {Q : β → Prop} {xs : List α} {ys : List β}
    (hall : List.Forall₂ R xs ys) (h : ∀ x y, R x y → (P x ↔ Q y)) :
    (∀ x ∈ xs, P x) ↔ ∀ y ∈ ys, Q y := by
  induction hall with
  | nil => simp
  | cons hhead _ ih => rw [List.forall_mem_cons, List.forall_mem_cons, h _ _ hhead, ih]

/-- Every result belongs to an element. -/
theorem mem_of_mapM_eq_ok {f : α → Outcome β} {xs : List α} {ys : List β}
    (h : xs.mapM f = .ok ys) {y : β} (hy : y ∈ ys) : ∃ x ∈ xs, f x = .ok y := by
  have hall := mapM_eq_ok_iff.1 h
  clear h
  induction hall with
  | nil => cases hy
  | cons hhead _ ih =>
    rcases List.mem_cons.1 hy with rfl | hy
    · exact ⟨_, List.mem_cons_self, hhead⟩
    · obtain ⟨x, hx, hfx⟩ := ih hy
      exact ⟨x, List.mem_cons_of_mem _ hx, hfx⟩

/-- A run whose steps put results into a state succeeds exactly if each result is there. -/
theorem exists_foldlM_eq_ok_iff {γ : Type} {f : α → Outcome γ} {put : β → γ → β} {xs : List α} {b : β} :
    (∃ b', xs.foldlM (fun b x => f x >>= fun y => pure (put b y)) b = .ok b')
      ↔ ∀ x ∈ xs, ∃ y, f x = .ok y := by
  induction xs generalizing b with
  | nil => exact ⟨fun _ _ hx => absurd hx List.not_mem_nil, fun _ => ⟨b, rfl⟩⟩
  | cons x rest ih =>
    rw [List.foldlM_cons, List.forall_mem_cons]
    constructor
    · rintro ⟨b', h⟩
      obtain ⟨next, hnext, h⟩ := bind_eq_ok h
      obtain ⟨y, hy, -⟩ := bind_eq_ok hnext
      exact ⟨⟨y, hy⟩, ih.1 ⟨b', h⟩⟩
    · rintro ⟨⟨y, hy⟩, hrest⟩
      rw [hy]
      exact ih.2 hrest

/-- **What every step keeps, a run keeps.**  The property may speak about the elements that were dealt
    with so far. -/
theorem foldlM_keeps {step : β → α → Outcome β} {P : List α → β → Prop}
    (hstep : ∀ done x b b', P done b → step b x = .ok b' → P (done ++ [x]) b') {xs : List α}
    {b b' : β} (hstart : P [] b) (hrun : xs.foldlM step b = .ok b') : P xs b' := by
  -- what is left of the run starts behind the elements that were dealt with
  have hrest : ∀ (rest done : List α) (b : β), P done b → rest.foldlM step b = .ok b' →
      P (done ++ rest) b' := by
    intro rest
    induction rest with
    | nil =>
      intro done b hkept hrun
      cases hrun
      rwa [List.append_nil]
    | cons x rest ih =>
      intro done b hkept hrun
      rw [List.foldlM_cons] at hrun
      obtain ⟨next, hnext, hrun⟩ := bind_eq_ok hrun
      have hend := ih (done ++ [x]) next (hstep done x b next hkept hnext) hrun
      rwa [List.append_assoc] at hend
  exact hrest xs [] b hstart hrun

end Outcome

end CatalogIndex
