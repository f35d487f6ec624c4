/-
  CatalogIndex.Proofs.Name.RoundTrip — names and their segments are two forms of the same thing.

  A segment stands for a text without quotes: the text itself, or the text in quotes if it holds a dot.
  Quoting finds the text that a name means and writes the segment of it, so it makes no difference
  whether a name is quoted once or twice, and the text is read off the segment as it is off the name.

  A segment closes the quotes it opens, and no dot in it separates.  So the segments that a name is put
  together from are those that it is cut into, and one segment more is one segment behind the others.

  ## Main definitions

    * `segmentOf` — the segment that stands for a text;
    * `IsSegment` — a text that names can be put together from.

  ## Main results

    * `quote_eq_ok` — quoting a name writes the segment of what the name means;
    * `split_build` — a name is cut into the segments it was put together from;
    * `split_build_inverse` — cutting and putting together, quoting and reading undo each other;
    * `add_extends` — adding a name fails only with quoting it, and adds one segment.
-/
import CatalogIndex.Proofs.Name.Parent
import CatalogIndex.Proofs.Outcome

namespace CatalogIndex.Name

/-! ## §1. Segments of texts. -/

/-- The segment that stands for a text without quotes. -/
def segmentOf (text : String) : String := if '.' ∈ text.toList then "\"" ++ text ++ "\"" else text

variable {cs inner : List Char} {name segment text : String}

theorem inner?_of_no_quote (h : '"' ∉ cs) : inner? cs = none := by
  unfold inner?
  split
  · exact absurd List.mem_cons_self h
  · rfl

theorem inner?_in_quotes (hsome : inner ≠ []) (hnone : '"' ∉ inner) :
    inner? ('"' :: (inner ++ ['"'])) = some inner := by
  have hclosed : (inner ++ ['"']).getLast? = some '"' ∧ (inner ++ ['"']).dropLast ≠ []
      ∧ '"' ∉ (inner ++ ['"']).dropLast := by
    rw [List.dropLast_concat]
    exact ⟨List.getLast?_concat, hsome, hnone⟩
  show (if _ then some (inner ++ ['"']).dropLast else none) = _
  rw [if_pos hclosed, List.dropLast_concat]

/-- A text with a dot, in quotes. -/
theorem inner?_segmentOf (hnone : '"' ∉ text.toList) (hdot : '.' ∈ text.toList) :
    inner? (segmentOf text).toList = some text.toList := by
  have hchars : (segmentOf text).toList = '"' :: (text.toList ++ ['"']) := by
    simp [segmentOf, hdot]
  rw [hchars]
  exact inner?_in_quotes (List.ne_nil_of_mem hdot) hnone

/-- A segment is its own segment. -/
theorem quote_segmentOf (hnone : '"' ∉ text.toList) :
    quote (segmentOf text) = .ok (segmentOf text) := by
  unfold quote
  by_cases hdot : '.' ∈ text.toList
  · rw [inner?_segmentOf hnone hdot]
    simp [hdot]
  · have hself : segmentOf text = text := if_neg hdot
    rw [hself, inner?_of_no_quote hnone]
    simp [hnone, hdot]

/-- A segment is read as the text that it stands for. -/
theorem unquote_segmentOf (hnone : '"' ∉ text.toList) : unquote (segmentOf text) = text := by
  unfold unquote
  by_cases hdot : '.' ∈ text.toList
  · rw [inner?_segmentOf hnone hdot]
    exact String.ofList_toList
  · have hself : segmentOf text = text := if_neg hdot
    rw [hself, inner?_of_no_quote hnone]

/-- **Quoting a name writes the segment of what the name means.** -/
theorem quote_eq_ok (h : quote name = .ok segment) :
    '"' ∉ (unquote name).toList ∧ segment = segmentOf (unquote name) := by
  unfold quote at h
  unfold unquote
  split at h
  · rename_i inner hinner
    obtain ⟨hname, -, hnone⟩ := inner?_eq_some hinner
    refine ⟨by rwa [String.toList_ofList], ?_⟩
    unfold segmentOf
    rw [String.toList_ofList]
    cases h
    by_cases hdot : '.' ∈ inner
    · -- the name stands in quotes already, and needs them
      rw [if_pos hdot, if_pos hdot]
      apply String.toList_injective
      simp [hname]
    · rw [if_neg hdot, if_neg hdot]
  · split at h
    · cases h
    · rename_i hnone
      refine ⟨hnone, ?_⟩
      unfold segmentOf
      split at h
      · rename_i hdot
        cases h
        rw [if_pos hdot]
      · rename_i hdot
        cases h
        rw [if_neg hdot]

/-- A segment closes the quotes that it opens. -/
theorem balanced_segmentOf (hnone : '"' ∉ text.toList) : Balanced (segmentOf text) := by
  have hcount : text.toList.count '"' = 0 := List.count_eq_zero.2 hnone
  unfold segmentOf Balanced
  split <;> simp [hcount]

/-- Only the empty name has an empty segment. -/
theorem eq_empty_of_quote (h : quote name = .ok "") : name = "" := by
  obtain ⟨-, hsegment⟩ := quote_eq_ok h
  have htext : unquote name = "" := by
    unfold segmentOf at hsegment
    split at hsegment
    · have hchars := congrArg String.toList hsegment
      simp at hchars
    · exact hsegment.symm
  -- what stands between quotes is not empty, so the name has none
  unfold unquote at htext
  split at htext
  · rename_i inner hinner
    obtain ⟨-, hsome, -⟩ := inner?_eq_some hinner
    have hchars := congrArg String.toList htext
    rw [String.toList_ofList] at hchars
    exact absurd hchars hsome
  · exact htext

/-! ## §2. Names put together from segments. -/

/-- A text that closes its quotes and is not cut by its own dots. -/
def IsSegment (text : String) : Prop :=
  Balanced text ∧ segments false text.toList = [text.toList]

theorem isSegment_of_quote (h : quote name = .ok segment) : IsSegment segment := by
  obtain ⟨hnone, hsegment⟩ := quote_eq_ok h
  refine ⟨?_, segments_of_quote h⟩
  rw [hsegment]
  exact balanced_segmentOf hnone

/-- The dots between segments separate, and no others do. -/
theorem segments_build {parts : List String} (hparts : ∀ part ∈ parts, IsSegment part)
    (hne : parts ≠ []) : segments false (build parts).toList = parts.map String.toList := by
  unfold build
  induction parts with
  | nil => exact absurd rfl hne
  | cons part rest ih =>
    obtain ⟨hquotes, hone⟩ := hparts part List.mem_cons_self
    by_cases hrest : rest = []
    · subst hrest
      exact hone
    · have hchars : (Text.join "." (part :: rest)).toList
          = part.toList ++ '.' :: (Text.join "." rest).toList := by
        rw [Text.join_cons "." part hrest]
        simp
      rw [hchars, segments_append_dot (endsQuoted_of_balanced hquotes), hone,
        ih (fun p hp => hparts p (List.mem_cons_of_mem _ hp)) hrest]
      rfl

/-- **A name is cut into the segments it was put together from**, unless it is the empty name, which has
    none. -/
theorem split_build {parts : List String} (hparts : ∀ part ∈ parts, IsSegment part)
    (hne : parts ≠ [""]) : split (build parts) = parts := by
  by_cases hnil : parts = []
  · subst hnil
    rfl
  have hsegments := segments_build hparts hnil
  have hname : build parts ≠ "" := by
    intro hempty
    rw [hempty] at hsegments
    have hchars : parts.map String.toList = [""].map String.toList := hsegments.symm
    exact hne (List.map_injective_iff.2 (fun _ _ => String.toList_injective) hchars)
  have hround : String.ofList ∘ String.toList = id := by
    funext part
    exact String.ofList_toList
  rw [split_of_ne_empty hname, hsegments, List.map_map, hround, List.map_id]

/-! ## §3. There and back. -/

/-- **Cutting and putting together undo each other, and so do quoting and reading.**  Every name is put
    together again from its segments, wherever its quotes stand.  The segments of accepted names are those
    of the name that is put together from them; only a single empty one is lost.  Quoting a segment changes
    nothing, and what a segment means is what the name means. -/
theorem split_build_inverse :
    (∀ fqn, build (split fqn) = fqn)
      ∧ (∀ names parts, names.mapM quote = .ok parts → names ≠ [""] → split (build parts) = parts)
      ∧ ∀ name segment, quote name = .ok segment →
        quote segment = .ok segment ∧ unquote segment = unquote name := by
  refine ⟨build_split, ?_, ?_⟩
  · intro names parts hquoted hne
    refine split_build ?_ ?_
    · intro part hpart
      obtain ⟨name, -, hname⟩ := Outcome.mem_of_mapM_eq_ok hquoted hpart
      exact isSegment_of_quote hname
    · rintro rfl
      -- a single empty segment is that of a single empty name
      obtain ⟨name, rest, hname, hrest, rfl⟩ :=
        List.forall₂_cons_right_iff.1 (Outcome.mapM_eq_ok_iff.1 hquoted)
      obtain rfl := List.forall₂_nil_right_iff.1 hrest
      exact hne (by rw [eq_empty_of_quote hname])
  · intro name segment hquoted
    obtain ⟨hnone, rfl⟩ := quote_eq_ok hquoted
    exact ⟨quote_segmentOf hnone, unquote_segmentOf hnone⟩

/-- A schema and a column with dots in their names, and a table with needless quotes. -/
theorem split_build_inverse_column :
    ["svc", "my.schema", "\"orders\"", "", "\"net.total\""].mapM quote
        = .ok ["svc", "\"my.schema\"", "orders", "", "\"net.total\""]
      ∧ split "svc.\"my.schema\".orders..\"net.total\""
        = ["svc", "\"my.schema\"", "orders", "", "\"net.total\""]
      ∧ unquote "\"my.schema\"" = unquote "my.schema" := by
  have hquoted : ["svc", "my.schema", "\"orders\"", "", "\"net.total\""].mapM quote
      = .ok ["svc", "\"my.schema\"", "orders", "", "\"net.total\""] := by decide +kernel
  obtain ⟨-, hsplit, hsegment⟩ := split_build_inverse
  exact ⟨hquoted, hsplit _ _ hquoted (by decide), (hsegment "my.schema" _ (by decide +kernel)).2⟩

/-! ## §4. One segment more. -/

/-- **Adding a name fails only with quoting it, and adds one segment.**  Behind a name that is not empty
    and closes its quotes stands the segment of the added name, and without its last segment the result is
    that name again; what is added to the empty name has no parent. -/
theorem add_extends (start name : String) :
    (∀ e, add start name = .error e ↔ quote name = .error e)
      ∧ ∀ fqn, add start name = .ok fqn →
        (start ≠ "" → Balanced start → ∃ segment, quote name = .ok segment
          ∧ split fqn = split start ++ [segment] ∧ parent? fqn = some start)
        ∧ (start = "" → parent? fqn = none) := by
  refine ⟨?_, ?_⟩
  · intro e
    unfold add
    cases quote name <;> simp
  · intro fqn hadd
    refine ⟨?_, ?_⟩
    · intro hstart hquotes
      obtain ⟨segment, hsegment, hfqn⟩ := add_eq_ok hadd
      have hnotEmpty : ¬ start.isEmpty = true := by rwa [String.isEmpty_iff]
      have hparent := parent?_add hquotes hadd
      rw [if_neg hnotEmpty] at hfqn hparent
      refine ⟨segment, hsegment, ?_, hparent⟩
      rw [hfqn, split_below hstart hquotes, segments_of_quote hsegment, List.map_singleton,
        String.ofList_toList]
    · rintro rfl
      exact parent?_add (by decide) hadd

/-- A name with a dot behind a name that ends in an empty segment. -/
theorem add_extends_dotted :
    add "Tier." "Gold.Plus" = .ok "Tier..\"Gold.Plus\""
      ∧ split "Tier..\"Gold.Plus\"" = split "Tier." ++ ["\"Gold.Plus\""]
      ∧ parent? "Tier..\"Gold.Plus\"" = some "Tier."
      ∧ parent? "\"Gold.Plus\"" = none := by
  have hadd : add "Tier." "Gold.Plus" = .ok "Tier..\"Gold.Plus\"" := by decide +kernel
  have halone : add "" "Gold.Plus" = .ok "\"Gold.Plus\"" := by decide +kernel
  obtain ⟨segment, hsegment, hsplit, hparent⟩ :=
    ((add_extends "Tier." "Gold.Plus").2 _ hadd).1 (by decide) (by decide)
  obtain rfl : segment = "\"Gold.Plus\"" := by
    have hquoted : quote "Gold.Plus" = .ok "\"Gold.Plus\"" := by decide +kernel
    exact Except.ok.inj (hsegment.symm.trans hquoted)
  exact ⟨hadd, hsplit, hparent, ((add_extends "" "Gold.Plus").2 _ halone).2 rfl⟩

end CatalogIndex.Name
