/-
  CatalogIndex.Proofs.Lineage.Levels — searching a graph level by level.

  A search that goes level by level keeps the names it has seen and a frontier, the names that the last
  level brought.  A level takes every step from the frontier; what it leads to is seen from then on, and
  makes up the next frontier if it was not seen before.  Some names may count as seen from the start:
  they are barred, and the search does not go on from them.

  What such a search expands in `n` levels are exactly the names that fewer than `n` steps reach,
  without a step to a barred name.  A name that is reached again later is not expanded again, and
  nothing is lost by that: it was reached with fewer steps before.

  ## Main definitions

    * `ReachedIn` — reached by a number of steps;
    * `Level` — what is seen and what is in the frontier after a number of levels.

  ## Main results

    * `Level.next` — one level more;
    * `Level.expanded_succ` — what the next level expands;
    * `Level.closed` — behind an empty frontier there is nothing more.
-/
namespace CatalogIndex.Lineage

/-! ## §1. Steps. -/

/-- Reached from `start` by the given number of steps. -/
inductive ReachedIn {α : Type} (step : α → α → Prop) (start : α) : Nat → α → Prop where
  | start : ReachedIn step start 0 start
  | next {n : Nat} {a b : α} (before : ReachedIn step start n a) (last : step a b) :
    ReachedIn step start (n + 1) b

namespace ReachedIn

variable {α : Type} {step step' : α → α → Prop} {start : α}

theorem mono (h : ∀ a b, step a b → step' a b) {n : Nat} {a : α}
    (ha : ReachedIn step start n a) : ReachedIn step' start n a := by
  induction ha with
  | start => exact .start
  | next _ last ih => exact .next ih (h _ _ last)

end ReachedIn

/-! ## §2. Levels. -/

/-- Steps that do not lead to a barred name. -/
def Avoiding {α : Type} (barred : α → Prop) (step : α → α → Prop) (a b : α) : Prop :=
  step a b ∧ ¬ barred b

/-- The search has gone `n` levels: the names it has seen, and its frontier. -/
structure Level {α : Type} (step : α → α → Prop) (barred : α → Prop) (start : α) (n : Nat)
    (seen frontier : α → Prop) : Prop where
  seen_iff : ∀ a, seen a ↔ barred a ∨ ∃ k ≤ n, ReachedIn (Avoiding barred step) start k a
  /-- The frontier is reached by as many steps as levels. -/
  reached : ∀ a, frontier a → ReachedIn (Avoiding barred step) start n a
  /-- What is reached by as many steps, and not by fewer, is in the frontier. -/
  covered : ∀ a, ReachedIn (Avoiding barred step) start n a →
    frontier a ∨ ∃ k < n, ReachedIn (Avoiding barred step) start k a

namespace Level

variable {α : Type} {step : α → α → Prop} {barred : α → Prop} {start : α} {n : Nat}
  {seen frontier : α → Prop}

/-- Before the first level only the start is in the frontier. -/
theorem initial (hseen : ∀ a, seen a ↔ barred a ∨ a = start) (hfrontier : ∀ a, frontier a ↔ a = start) :
    Level step barred start 0 seen frontier := by
  refine ⟨?_, ?_, ?_⟩
  · intro a
    rw [hseen]
    constructor
    · rintro (h | rfl)
      · exact Or.inl h
      · exact Or.inr ⟨0, Nat.le_refl 0, .start⟩
    · rintro (h | ⟨k, hk, hreached⟩)
      · exact Or.inl h
      · obtain rfl : k = 0 := by omega
        cases hreached
        exact Or.inr rfl
  · intro a ha
    rw [(hfrontier a).1 ha]
    exact .start
  · intro a ha
    cases ha
    exact Or.inl ((hfrontier start).2 rfl)

/-- A name is expanded by the first `n + 1` levels if it is by the first `n`, or is in the frontier. -/
theorem expanded_succ (h : Level step barred start n seen frontier) (a : α) :
    (∃ k < n + 1, ReachedIn (Avoiding barred step) start k a)
      ↔ (∃ k < n, ReachedIn (Avoiding barred step) start k a) ∨ frontier a := by
  constructor
  · rintro ⟨k, hk, hreached⟩
    by_cases hlt : k < n
    · exact Or.inl ⟨k, hlt, hreached⟩
    · obtain rfl : k = n := by omega
      exact (h.covered a hreached).symm
  · rintro (⟨k, hk, hreached⟩ | hfrontier)
    · exact ⟨k, by omega, hreached⟩
    · exact ⟨n, by omega, h.reached a hfrontier⟩

/-- **One level more**: all steps are taken from the frontier, and what was not seen before is the next
    frontier. -/
theorem next (h : Level step barred start n seen frontier) {seen' frontier' : α → Prop}
    (hseen : ∀ a, seen' a ↔ seen a ∨ ∃ b, frontier b ∧ step b a)
    (hfrontier : ∀ a, frontier' a ↔ (∃ b, frontier b ∧ step b a) ∧ ¬ seen a) :
    Level step barred start (n + 1) seen' frontier' := by
  -- what one more step reaches was reached before, or comes from the frontier
  have hlast : ∀ a, ReachedIn (Avoiding barred step) start (n + 1) a →
      (∃ b, frontier b ∧ step b a) ∨ ∃ k ≤ n, ReachedIn (Avoiding barred step) start k a := by
    intro a ha
    cases ha with
    | @next _ b _ hbefore hstep =>
      rcases h.covered b hbefore with hb | ⟨k, hk, hb⟩
      · exact Or.inl ⟨b, hb, hstep.1⟩
      · exact Or.inr ⟨k + 1, hk, .next hb hstep⟩
  refine ⟨?_, ?_, ?_⟩
  · intro a
    rw [hseen]
    constructor
    · rintro (hold | ⟨b, hb, hstep⟩)
      · rcases (h.seen_iff a).1 hold with hbarred | ⟨k, hk, ha⟩
        · exact Or.inl hbarred
        · exact Or.inr ⟨k, by omega, ha⟩
      · by_cases hbarred : barred a
        · exact Or.inl hbarred
        · exact Or.inr ⟨n + 1, Nat.le_refl _, .next (h.reached b hb) ⟨hstep, hbarred⟩⟩
    · rintro (hbarred | ⟨k, hk, ha⟩)
      · exact Or.inl ((h.seen_iff a).2 (Or.inl hbarred))
      · by_cases hle : k ≤ n
        · exact Or.inl ((h.seen_iff a).2 (Or.inr ⟨k, hle, ha⟩))
        · obtain rfl : k = n + 1 := by omega
          rcases hlast a ha with hfrom | hbefore
          · exact Or.inr hfrom
          · exact Or.inl ((h.seen_iff a).2 (Or.inr hbefore))
  · intro a ha
    obtain ⟨⟨b, hb, hstep⟩, hnew⟩ := (hfrontier a).1 ha
    refine .next (h.reached b hb) ⟨hstep, fun hbarred => ?_⟩
    exact hnew ((h.seen_iff a).2 (Or.inl hbarred))
  · intro a ha
    by_cases hold : ∃ k ≤ n, ReachedIn (Avoiding barred step) start k a
    · obtain ⟨k, hk, hreached⟩ := hold
      exact Or.inr ⟨k, by omega, hreached⟩
    · left
      have hfree : ¬ barred a := by
        cases ha with
        | next _ hstep => exact hstep.2
      refine (hfrontier a).2 ⟨(hlast a ha).resolve_right hold, fun hseen' => ?_⟩
      exact ((h.seen_iff a).1 hseen').elim hfree hold

/-- **Behind an empty frontier there is nothing more**: whatever is reached was expanded already. -/
theorem closed (h : Level step barred start n seen frontier) (hempty : ∀ a, ¬ frontier a) {k : Nat}
    {a : α} (ha : ReachedIn (Avoiding barred step) start k a) :
    ∃ j < n, ReachedIn (Avoiding barred step) start j a := by
  induction ha with
  | start =>
    -- before the first level the start itself is in the frontier
    by_cases hn : n = 0
    · subst hn
      exact (h.covered start .start).resolve_left (hempty start)
    · exact ⟨0, by omega, .start⟩
  | @next _ _ b _ last ih =>
    obtain ⟨j, hj, hbefore⟩ := ih
    by_cases hlt : j + 1 < n
    · exact ⟨j + 1, hlt, .next hbefore last⟩
    · obtain rfl : j + 1 = n := by omega
      exact (h.covered b (.next hbefore last)).resolve_left (hempty b)

/-- With an empty frontier, more levels expand nothing more. -/
theorem expanded_add (h : Level step barred start n seen frontier) (hempty : ∀ a, ¬ frontier a)
    (more : Nat) (a : α) :
    (∃ k < n + more, ReachedIn (Avoiding barred step) start k a)
      ↔ ∃ k < n, ReachedIn (Avoiding barred step) start k a := by
  constructor
  · rintro ⟨k, -, hreached⟩
    exact h.closed hempty hreached
  · rintro ⟨k, hk, hreached⟩
    exact ⟨k, by omega, hreached⟩

end Level

end CatalogIndex.Lineage
