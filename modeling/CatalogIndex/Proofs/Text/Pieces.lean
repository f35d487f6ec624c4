/-
  CatalogIndex.Proofs.Text.Pieces — what the pieces of a text are.

  A text is cut at every separator, or at the first or the last one only.  The pieces hold nothing but what
  the text holds, and no separator; put side by side again, they are the text.

  ## Main results

    * `pieces_append_sep`, `notMem_of_mem_pieces`, `mem_of_mem_pieces` — a text cut at every separator;
    * `eq_of_cutFirst?`, `cutFirst?_append` — a text cut at the first one;
    * `exists_dotted`, `dotted_inj` — a text with dots, cut at the first of them;
    * `cutLast?_append`, `eq_of_cutLast?` — a text cut at the last one.
-/
import CatalogIndex.Text.Basic

namespace CatalogIndex.Text

/-! ## §1. Every separator. -/

theorem pieces_of_notMem {sep : Char} {cs : List Char} (h : sep ∉ cs) : pieces sep cs = [cs] := by
  induction cs with
  | nil => rfl
  | cons c rest ih =>
    rw [List.mem_cons, not_or] at h
    simp [pieces, Ne.symm h.1, ih h.2]

theorem split_of_notMem {sep : Char} {s : String} (h : sep ∉ s.toList) : split sep s = [s] := by
  unfold split
  rw [pieces_of_notMem h, List.map_singleton, String.ofList_toList]

theorem pieces_append_sep {sep : Char} {as : List Char} (h : sep ∉ as) (bs : List Char) :
    pieces sep (as ++ sep :: bs) = as :: pieces sep bs := by
  induction as with
  | nil => simp [pieces]
  | cons a rest ih =>
    rw [List.mem_cons, not_or] at h
    simp [pieces, Ne.symm h.1, ih h.2]

theorem notMem_of_mem_pieces {sep : Char} {cs piece : List Char} (h : piece ∈ pieces sep cs) :
    sep ∉ piece := by
  induction cs generalizing piece with
  | nil =>
    rw [List.mem_singleton.1 h]
    exact List.not_mem_nil
  | cons c rest ih =>
    unfold pieces at h
    split at h
    · rcases List.mem_cons.1 h with rfl | h
      · exact List.not_mem_nil
      · exact ih h
    · rename_i hc
      -- the first piece of the rest is continued, and the others stay
      split at h
      · rw [List.mem_singleton.1 h]
        simp [Ne.symm hc]
      · rename_i first others hpieces
        rcases List.mem_cons.1 h with rfl | h
        · have hfirst := ih (hpieces ▸ List.mem_cons_self)
          simp [Ne.symm hc, hfirst]
        · exact ih (hpieces ▸ List.mem_cons_of_mem _ h)

theorem pieces_ne_nil (sep : Char) (cs : List Char) : pieces sep cs ≠ [] := by
  cases cs with
  | nil => exact List.cons_ne_nil _ _
  | cons c rest =>
    unfold pieces
    split
    · exact List.cons_ne_nil _ _
    · split <;> exact List.cons_ne_nil _ _

theorem mem_of_mem_pieces {sep c : Char} {cs piece : List Char} (h : piece ∈ pieces sep cs)
    (hc : c ∈ piece) : c ∈ cs := by
  induction cs generalizing piece with
  | nil =>
    rw [List.mem_singleton.1 h] at hc
    exact hc
  | cons d rest ih =>
    unfold pieces at h
    split at h
    · rcases List.mem_cons.1 h with rfl | h
      · cases hc
      · exact List.mem_cons_of_mem _ (ih h hc)
    · split at h
      · rw [List.mem_singleton.1 h, List.mem_singleton] at hc
        exact hc ▸ List.mem_cons_self
      · rename_i first others hpieces
        rcases List.mem_cons.1 h with rfl | h
        · rcases List.mem_cons.1 hc with rfl | hc
          · exact List.mem_cons_self
          · exact List.mem_cons_of_mem _ (ih (hpieces ▸ List.mem_cons_self) hc)
        · exact List.mem_cons_of_mem _ (ih (hpieces ▸ List.mem_cons_of_mem _ h) hc)

/-! ## §2. The first separator. -/

theorem cutFirst?_eq_none_iff {sep : Char} {cs : List Char} : cutFirst? sep cs = none ↔ sep ∉ cs := by
  induction cs with
  | nil => simp [cutFirst?]
  | cons c rest ih =>
    unfold cutFirst?
    by_cases hc : c = sep
    · simp [hc]
    · simp [hc, Ne.symm hc, ih]

/-- The first separator stands between the two parts, and the part before it has none. -/
theorem eq_of_cutFirst? {sep : Char} {cs before after : List Char}
    (h : cutFirst? sep cs = some (before, after)) : cs = before ++ sep :: after ∧ sep ∉ before := by
  induction cs generalizing before with
  | nil => cases h
  | cons c rest ih =>
    unfold cutFirst? at h
    split at h
    · rename_i hc
      cases h
      exact ⟨by rw [hc, List.nil_append], List.not_mem_nil⟩
    · rename_i hc
      obtain ⟨⟨start, _⟩, hrest, hparts⟩ := Option.map_eq_some_iff.1 h
      cases hparts
      obtain ⟨heq, hnone⟩ := ih hrest
      exact ⟨by rw [heq, List.cons_append], List.not_mem_cons_of_ne_of_not_mem (Ne.symm hc) hnone⟩

theorem cutFirst?_append {sep : Char} {before : List Char} (h : sep ∉ before) (after : List Char) :
    cutFirst? sep (before ++ sep :: after) = some (before, after) := by
  induction before with
  | nil => simp [cutFirst?]
  | cons c rest ih =>
    rw [List.mem_cons, not_or] at h
    simp [cutFirst?, Ne.symm h.1, ih h.2]

/-- A text with a dot in it, cut at the first one. -/
theorem exists_dotted {s : String} (h : '.' ∈ s.toList) :
    ∃ before after : String, '.' ∉ before.toList ∧ s = before ++ "." ++ after := by
  obtain ⟨parts, hcut⟩ := Option.ne_none_iff_exists'.1 fun hnone => cutFirst?_eq_none_iff.1 hnone h
  obtain ⟨heq, hnone⟩ := eq_of_cutFirst? hcut
  refine ⟨String.ofList parts.1, String.ofList parts.2, by simpa using hnone, ?_⟩
  rw [← String.toList_inj]
  simpa using heq

section Dotted

variable {before : String} (h : '.' ∉ before.toList)

include h

theorem cutFirst?_dotted (after : String) :
    cutFirst? '.' (before ++ "." ++ after).toList = some (before.toList, after.toList) := by
  simpa using cutFirst?_append h after.toList

theorem split_dotted (after : String) : split '.' (before ++ "." ++ after) = before :: split '.' after := by
  have hpieces := pieces_append_sep h after.toList
  simp [split, hpieces]

/-- A text is cut at its first dot in one way only. -/
theorem dotted_inj {before' after after' : String} (h' : '.' ∉ before'.toList)
    (heq : before ++ "." ++ after = before' ++ "." ++ after') : before = before' ∧ after = after' := by
  have hcut := cutFirst?_dotted h after
  rw [heq, cutFirst?_dotted h' after', Option.some.injEq, Prod.mk.injEq] at hcut
  exact ⟨String.toList_inj.1 hcut.1.symm, String.toList_inj.1 hcut.2.symm⟩

end Dotted

/-! ## §3. The last separator. -/

theorem cutLast?_eq_none {sep : Char} {cs : List Char} (h : sep ∉ cs) : cutLast? sep cs = none := by
  induction cs with
  | nil => rfl
  | cons c rest ih =>
    have hc : c ≠ sep := fun heq => h (heq ▸ List.mem_cons_self)
    have hrest := ih fun hmem => h (List.mem_cons_of_mem _ hmem)
    simp [cutLast?, hrest, hc]

/-- What is cut off last has no separator any more. -/
theorem cutLast?_append {sep : Char} {after : List Char} (h : sep ∉ after) (before : List Char) :
    cutLast? sep (before ++ sep :: after) = some (before, after) := by
  induction before with
  | nil => simp [cutLast?, cutLast?_eq_none h]
  | cons c rest ih => simp [cutLast?, ih]

/-- The last separator stands between the two parts. -/
theorem eq_of_cutLast? {sep : Char} {cs before after : List Char}
    (h : cutLast? sep cs = some (before, after)) : cs = before ++ sep :: after := by
  induction cs generalizing before with
  | nil => cases h
  | cons c rest ih =>
    unfold cutLast? at h
    split at h
    · rename_i start rest' hrest
      cases h
      rw [ih hrest, List.cons_append]
    · split at h
      · rename_i hc
        cases h
        rw [hc, List.nil_append]
      · cases h

end CatalogIndex.Text
