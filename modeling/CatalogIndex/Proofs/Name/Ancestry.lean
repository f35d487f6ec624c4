/-
  CatalogIndex.Proofs.Name.Ancestry — the names above a name.

  The parent of a name is put together from all its segments but the last one, and it is cut again when
  its own parent is asked for.  Wherever the quotes of a name stand, a segment that another one follows
  closes the quotes it opens, so the second cut falls where the first one fell.  The names above a name
  are therefore its starts, one for each number of segments.

  ## Main definitions

    * `ancestor?` — the parent, taken several times.

  ## Main results

    * `isSegment_of_mem_dropLast` — a segment that another one follows is not cut again;
    * `parent?_start` — one step up from a start of a name;
    * `ancestor?_eq_start` — what several steps lead to;
    * `isSome_ancestor?_iff` — how many steps there are.
-/
import CatalogIndex.Proofs.Name.RoundTrip

namespace CatalogIndex.Name

/-! ## §1. Segments that are followed by others. -/

variable {quoted : Bool} {cs first : List Char} {rest : List (List Char)} {fqn part : String}

/-- The first segment ends outside quotes if there is another one, and all others are those of the text
    behind the dot. -/
theorem exists_behind_first (h : segments quoted cs = first :: rest) (hrest : rest ≠ []) :
    endsQuoted quoted first = false ∧ segments quoted first = [first]
      ∧ ∃ behind, segments false behind = rest := by
  induction cs generalizing quoted first with
  | nil =>
    injection h with _ hnil
    exact absurd hnil.symm hrest
  | cons c more ih =>
    by_cases hsep : c = '.' ∧ quoted = false
    · -- the text begins with the dot, in front of which the first segment is empty
      obtain ⟨rfl, rfl⟩ := hsep
      change [] :: segments false more = first :: rest at h
      injection h with hfirst hmore
      subst hfirst
      exact ⟨rfl, rfl, more, hmore⟩
    · obtain ⟨segment, others, hcut, hcons⟩ := segments_cons_of_not_separator hsep more
      rw [hcons] at h
      injection h with hfirst hothers
      subst hfirst
      rw [hothers] at hcut
      obtain ⟨hends, hone, hbehind⟩ := ih hcut
      obtain ⟨segment', others', hcut', hcons'⟩ := segments_cons_of_not_separator hsep segment
      rw [hone] at hcut'
      cases hcut'
      exact ⟨hends, hcons', hbehind⟩

/-- Every segment but the last one ends outside quotes, and has no dot outside them. -/
theorem closed_of_mem_dropLast (parts : List (List Char)) (h : segments false cs = parts) :
    ∀ segment ∈ parts.dropLast,
      endsQuoted false segment = false ∧ segments false segment = [segment] := by
  induction parts generalizing cs with
  | nil => exact absurd h (segments_ne_nil false cs)
  | cons first rest ih =>
    intro segment hsegment
    cases rest with
    | nil => cases hsegment
    | cons second more =>
      obtain ⟨hends, hone, behind, hbehind⟩ := exists_behind_first h (List.cons_ne_nil second more)
      rcases List.mem_cons.1 hsegment with rfl | hlater
      · exact ⟨hends, hone⟩
      · exact ih hbehind segment hlater

theorem balanced_of_endsQuoted {name : String} (h : endsQuoted false name.toList = false) :
    Balanced name := by
  rw [endsQuoted_eq, Bool.false_bne, decide_eq_false_iff_not] at h
  show name.toList.count '"' % 2 = 0
  omega

/-- **A segment that another one follows is not cut again**, wherever the quotes of the name stand. -/
theorem isSegment_of_mem_dropLast (h : part ∈ (split fqn).dropLast) : IsSegment part := by
  unfold split at h
  split at h
  · cases h
  · rw [← List.map_dropLast] at h
    obtain ⟨segment, hsegment, rfl⟩ := List.mem_map.1 h
    obtain ⟨hends, hone⟩ := closed_of_mem_dropLast _ rfl segment hsegment
    refine ⟨balanced_of_endsQuoted ?_, ?_⟩
    · rwa [String.toList_ofList]
    · rwa [String.toList_ofList]

/-! ## §2. One step up. -/

/-- A start of a name has the first segments of the name, unless it is the empty name. -/
theorem split_start {m : Nat} (hm : m < (split fqn).length) (hne : (split fqn).take (m + 1) ≠ [""]) :
    split (build ((split fqn).take (m + 1))) = (split fqn).take (m + 1) := by
  by_cases hall : m + 1 = (split fqn).length
  · rw [hall, List.take_length, build_split]
  · have hshort : m + 1 ≤ (split fqn).length - 1 := by omega
    have hbefore : ∀ part ∈ (split fqn).take (m + 1), part ∈ (split fqn).dropLast := by
      intro part hpart
      rw [List.dropLast_eq_take]
      exact (List.take_sublist_take_left hshort).mem hpart
    exact split_build (fun part hpart => isSegment_of_mem_dropLast (hbefore part hpart)) hne

/-- **One step up** leads from a start of a name to the start with one segment less, if any is left. -/
theorem parent?_start {m : Nat} (hm : m < (split fqn).length) :
    parent? (build ((split fqn).take (m + 1)))
      = if m = 0 then none else some (build ((split fqn).take m)) := by
  have hlength : ((split fqn).take (m + 1)).length = m + 1 := by
    rw [List.length_take]
    omega
  have hdrop : ((split fqn).take (m + 1)).dropLast = (split fqn).take m := by
    rw [List.dropLast_eq_take, hlength, Nat.add_sub_cancel, List.take_take,
      Nat.min_eq_left (Nat.le_succ m)]
  by_cases hempty : (split fqn).take (m + 1) = [""]
  · -- the empty name has no segments to take away
    have hone : m = 0 := by
      rw [hempty] at hlength
      simpa using hlength.symm
    rw [hempty, if_pos hone]
    rfl
  · unfold parent?
    dsimp only
    rw [split_start hm hempty, hlength, hdrop]
    by_cases hzero : m = 0
    · rw [if_pos hzero, if_pos (by omega)]
    · rw [if_neg hzero, if_neg (by omega)]

/-! ## §3. All steps. -/

/-- What `k` parents one after the other lead to, if the name has as many. -/
def ancestor? (fqn : String) : Nat → Option String
  | 0 => some fqn
  | k + 1 => (ancestor? fqn k).bind parent?

/-- **Several steps lead to a start of the name**, with one segment less for every step. -/
theorem ancestor?_eq_start {k : Nat} (hk : k < (split fqn).length) :
    ancestor? fqn k = some (build ((split fqn).take ((split fqn).length - k))) := by
  induction k with
  | zero =>
    rw [Nat.sub_zero, List.take_length, build_split]
    rfl
  | succ k ih =>
    obtain ⟨m, hm⟩ := Nat.exists_eq_add_one.2 (Nat.sub_pos_of_lt (Nat.lt_of_succ_lt hk))
    have hnext : (split fqn).length - (k + 1) = m := by omega
    show (ancestor? fqn k).bind parent? = _
    rw [ih (by omega), Option.bind_some, hm, parent?_start (by omega), if_neg (by omega), hnext]

/-- After the last step there is nothing. -/
theorem ancestor?_last (fqn : String) : ancestor? fqn (max (split fqn).length 1) = none := by
  by_cases hempty : fqn = ""
  · subst hempty
    rfl
  · have hpos := List.length_pos_iff.2 (split_ne_nil hempty)
    obtain ⟨k, hk⟩ := Nat.exists_eq_add_one.2 hpos
    have hone : (split fqn).length - k = 0 + 1 := by omega
    rw [Nat.max_eq_left hpos, hk]
    show (ancestor? fqn k).bind parent? = none
    rw [ancestor?_eq_start (by omega), Option.bind_some, hone, parent?_start hpos]
    rfl

theorem ancestor?_eq_none_of_le {j k : Nat} (hjk : j ≤ k) (h : ancestor? fqn j = none) :
    ancestor? fqn k = none := by
  induction hjk with
  | refl => exact h
  | @step k _ ih =>
    show (ancestor? fqn k).bind parent? = none
    rw [ih]
    rfl

/-- **A name has one step less than it has segments**, and the empty name has none. -/
theorem isSome_ancestor?_iff (fqn : String) (k : Nat) :
    (ancestor? fqn k).isSome = true ↔ k ≤ max (split fqn).length 1 - 1 := by
  constructor
  · intro hsome
    refine Decidable.byContradiction fun hlate => ?_
    rw [ancestor?_eq_none_of_le (by omega) (ancestor?_last fqn)] at hsome
    cases hsome
  · intro hk
    by_cases hin : k < (split fqn).length
    · rw [ancestor?_eq_start hin]
      rfl
    · have hzero : k = 0 := by omega
      subst hzero
      rfl

/-- What several steps lead to is the empty name, or a start of the name. -/
theorem exists_start_of_ancestor? {k : Nat} {name : String} (h : ancestor? fqn k = some name)
    (hne : name ≠ "") : ∃ m, m < (split fqn).length ∧ name = build ((split fqn).take (m + 1)) := by
  have hsome : (ancestor? fqn k).isSome = true := by rw [h]; rfl
  have hk := (isSome_ancestor?_iff fqn k).1 hsome
  by_cases hin : k < (split fqn).length
  · rw [ancestor?_eq_start hin] at h
    obtain ⟨m, hm⟩ := Nat.exists_eq_add_one.2 (Nat.sub_pos_of_lt hin)
    rw [hm] at h
    exact ⟨m, by omega, (Option.some.inj h).symm⟩
  · -- only the empty name has no segments
    have hzero : k = 0 := by omega
    subst hzero
    obtain rfl : fqn = name := Option.some.inj h
    exact absurd (List.length_pos_iff.2 (split_ne_nil hne)) (by omega)

end CatalogIndex.Name
