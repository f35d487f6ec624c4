/-
  CatalogIndex.Proofs.Name.Parent — a name added to another one, and taken off again.

  Quoting makes one segment of every name that it accepts: a name with a dot gets quotes, inside which
  the dot does not separate, and quotes that are not needed go away.  So what is added to a name is one
  segment more, and the name without its last segment is the one that it was added to.

  ## Main results

    * `segments_of_quote` — a quoted name is one segment;
    * `not_atOrBelow_of_quote` — a name and its segment are different starts of names;
    * `parent?_add` — the parent of what is added to a name is that name.
-/
import CatalogIndex.Proofs.Name.Segments

namespace CatalogIndex.Name

/-! ## §1. One segment. -/

variable {quoted : Bool} {cs inner : List Char}

/-- A text without dots is one segment, wherever its quotes stand. -/
theorem segments_of_no_dot (h : '.' ∉ cs) : segments quoted cs = [cs] := by
  induction cs generalizing quoted with
  | nil => rfl
  | cons c rest ih =>
    have hdot : ¬ (c = '.' ∧ quoted = false) := by
      rintro ⟨rfl, -⟩
      exact h List.mem_cons_self
    obtain ⟨segment, more, hcut, hcons⟩ := segments_cons_of_not_separator hdot rest
    rw [ih fun hmem => h (List.mem_cons_of_mem _ hmem)] at hcut
    cases hcut
    exact hcons

/-- From inside quotes, nothing separates before the quote that closes them. -/
theorem segments_to_closing_quote (h : '"' ∉ cs) : segments true (cs ++ ['"']) = [cs ++ ['"']] := by
  induction cs with
  | nil => rfl
  | cons c rest ih =>
    have hquote : c ≠ '"' := by
      rintro rfl
      exact h List.mem_cons_self
    have hinside : ¬ (c = '.' ∧ true = false) := by simp
    obtain ⟨segment, more, hcut, hcons⟩ := segments_cons_of_not_separator hinside (rest ++ ['"'])
    rw [if_neg hquote, ih fun hmem => h (List.mem_cons_of_mem _ hmem)] at hcut
    cases hcut
    exact hcons

theorem segments_in_quotes (h : '"' ∉ cs) :
    segments false ('"' :: (cs ++ ['"'])) = ['"' :: (cs ++ ['"'])] := by
  have hquote : ¬ ('"' = '.' ∧ false = false) := by decide
  obtain ⟨segment, more, hcut, hcons⟩ := segments_cons_of_not_separator hquote (cs ++ ['"'])
  have hinside : (if '"' = '"' then !false else false) = true := rfl
  rw [hinside, segments_to_closing_quote h] at hcut
  cases hcut
  exact hcons

/-- What is found between quotes stands between quotes, is not empty, and has no quotes itself. -/
theorem inner?_eq_some (h : inner? cs = some inner) :
    cs = '"' :: (inner ++ ['"']) ∧ inner ≠ [] ∧ '"' ∉ inner := by
  unfold inner? at h
  split at h
  · rename_i rest
    split at h
    · rename_i hclosed
      cases h
      obtain ⟨hlast, hsome, hnone⟩ := hclosed
      obtain ⟨before, rfl⟩ := List.getLast?_eq_some_iff.1 hlast
      rw [List.dropLast_concat] at hsome hnone ⊢
      exact ⟨rfl, hsome, hnone⟩
    · cases h
  · cases h

/-- **Quoting makes one segment of a name.** -/
theorem segments_of_quote {name segment : String} (h : quote name = .ok segment) :
    segments false segment.toList = [segment.toList] := by
  unfold quote at h
  split at h
  · rename_i inner hinner
    obtain ⟨hname, -, hnone⟩ := inner?_eq_some hinner
    split at h
    · -- the quotes are needed, and stay
      cases h
      rw [hname]
      exact segments_in_quotes hnone
    · rename_i hdot
      cases h
      rw [String.toList_ofList]
      exact segments_of_no_dot hdot
  · split at h
    · cases h
    · rename_i hnone
      split at h
      · cases h
        have htext : ("\"" ++ name ++ "\"").toList = '"' :: (name.toList ++ ['"']) := by simp
        rw [htext]
        exact segments_in_quotes hnone
      · rename_i hdot
        cases h
        exact segments_of_no_dot hdot

/-! ## §2. Names that quoting changes. -/

/-- A text that does not begin with a quote. -/
theorem head?_ne_quote (hsome : cs ≠ []) (hnone : '"' ∉ cs) :
    ∃ c, cs.head? = some c ∧ c ≠ '"' := by
  cases cs with
  | nil => exact absurd rfl hsome
  | cons c rest =>
    refine ⟨c, rfl, ?_⟩
    rintro rfl
    exact hnone List.mem_cons_self

/-- Quoting that changes a name puts a quote in front of it, or takes one away. -/
theorem head?_of_quote {name segment : String} (h : quote name = .ok segment) (hne : segment ≠ name) :
    ∃ c d, name.toList.head? = some c ∧ segment.toList.head? = some d ∧ c ≠ d := by
  unfold quote at h
  split at h
  · rename_i inner hinner
    obtain ⟨hname, hsome, hnone⟩ := inner?_eq_some hinner
    split at h
    · cases h
      exact absurd rfl hne
    · -- quotes that were not needed are gone
      cases h
      obtain ⟨d, hd, hquote⟩ := head?_ne_quote hsome hnone
      rw [hname, String.toList_ofList]
      exact ⟨'"', d, rfl, hd, hquote.symm⟩
  · split at h
    · cases h
    · rename_i hnone
      split at h
      · rename_i hdot
        cases h
        obtain ⟨c, hc, hquote⟩ := head?_ne_quote (List.ne_nil_of_mem hdot) hnone
        exact ⟨c, '"', hc, by simp, hquote⟩
      · cases h
        exact absurd rfl hne

/-- A name at or below another one begins with the same character. -/
theorem head?_of_atOrBelow {start name : String} {c : Char} (hstart : start.toList.head? = some c)
    (h : AtOrBelow start name) : name.toList.head? = some c := by
  rcases atOrBelow_iff.1 h with rfl | ⟨rest, rfl⟩
  · exact hstart
  · rw [String.toList_append, String.toList_append, List.append_assoc, List.head?_append, hstart]
    rfl

/-- **Nothing is below both a name and its segment**, if quoting changes the name. -/
theorem not_atOrBelow_of_quote {name segment : String} (h : quote name = .ok segment)
    (hne : segment ≠ name) {fqn : String} (hbelow : AtOrBelow segment fqn) : ¬ AtOrBelow name fqn := by
  obtain ⟨c, d, hc, hd, hdiff⟩ := head?_of_quote h hne
  intro hname
  have hheads := (head?_of_atOrBelow hc hname).symm.trans (head?_of_atOrBelow hd hbelow)
  exact hdiff (Option.some.inj hheads)

/-! ## §3. One segment more, and one less. -/

/-- What is added to a name: the segment behind it, or the segment alone. -/
theorem add_eq_ok {start name fqn : String} (h : add start name = .ok fqn) :
    ∃ segment, quote name = .ok segment
      ∧ fqn = if start.isEmpty then segment else start ++ "." ++ segment := by
  unfold add at h
  split at h
  · rename_i segment hsegment
    cases h
    exact ⟨segment, hsegment, rfl⟩
  · cases h

/-- One segment alone has no parent. -/
theorem parent?_of_one_segment {segment : String}
    (h : segments false segment.toList = [segment.toList]) : parent? segment = none := by
  have hlength : (split segment).length ≤ 1 := by
    unfold split
    split
    · exact Nat.zero_le 1
    · rw [h]
      exact Nat.le_refl 1
  unfold parent?
  exact if_pos hlength

/-- One segment behind a name has that name as its parent. -/
theorem parent?_below {start segment : String} (hstart : start ≠ "") (hquotes : Balanced start)
    (h : segments false segment.toList = [segment.toList]) :
    parent? (start ++ "." ++ segment) = some start := by
  have hsplit : split (start ++ "." ++ segment) = split start ++ [segment] := by
    rw [split_below hstart hquotes, h, List.map_singleton, String.ofList_toList]
  have hlong : ¬ (split start ++ [segment]).length ≤ 1 := by
    have hpos := List.length_pos_iff.2 (split_ne_nil hstart)
    rw [List.length_append, List.length_singleton]
    omega
  unfold parent?
  rw [hsplit]
  dsimp only
  rw [if_neg hlong, List.dropLast_concat, build_split]

/-- **The parent of what is added to a name is that name**, if it closes every quote it opens; what is
    added to the empty name has none. -/
theorem parent?_add {start name fqn : String} (hquotes : Balanced start)
    (h : add start name = .ok fqn) : parent? fqn = if start.isEmpty then none else some start := by
  obtain ⟨segment, hsegment, rfl⟩ := add_eq_ok h
  have hone := segments_of_quote hsegment
  by_cases hempty : start.isEmpty = true
  · rw [if_pos hempty, if_pos hempty]
    exact parent?_of_one_segment hone
  · rw [if_neg hempty, if_neg hempty]
    rw [String.isEmpty_iff] at hempty
    exact parent?_below hempty hquotes hone

end CatalogIndex.Name
