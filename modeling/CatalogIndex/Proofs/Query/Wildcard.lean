/-
  CatalogIndex.Proofs.Query.Wildcard — which texts a pattern stands for.

  In the pattern of a query a star is any text and a question mark any character; every other character
  is itself, and there is no way to write a star or a question mark that is one.  A pattern without marks
  stands for itself alone.  A pattern with a mark always stands for other texts as well, and one of them
  is as long as the pattern itself; so a pattern that goes on with a dot and a star asks for the texts
  below the first part exactly if that part has no marks.

  ## Main definitions

    * `Text.fits`, `Text.matchesPattern` — whether a pattern stands for a text;
    * `Text.Plain` — a pattern without marks;
    * `Query.wildcards` — the patterns in a query.

  ## Main results

    * `fits_append` — a pattern of two parts, part by part;
    * `fits_iff_eq_of_plain`, `exists_fits_ne` — patterns without marks, and with marks;
    * `matchesPattern_below_iff` — what a pattern with a dot and a star behind it stands for;
    * `below_iff_plain` — exactly when these are the texts below the first part.
-/
import CatalogIndex.Proofs.Name.Segments
import CatalogIndex.Query.Basic
import Mathlib.Data.List.Infix

namespace CatalogIndex

namespace Text

/-! ## §1. Patterns. -/

/-- Whether a pattern stands for a text: `*` is any text, `?` any character, and every other character
    is itself. -/
def fits : List Char → List Char → Bool
  | [], cs => cs.isEmpty
  | p :: ps, cs =>
    if p = '*' then cs.tails.any (fits ps)
    else (cs.head?.any fun c => p = '?' || p = c) && fits ps cs.tail

/-- `fits` on strings. -/
def matchesPattern (pattern text : String) : Bool := fits pattern.toList text.toList

/-- A pattern without marks. -/
def Plain (ps : List Char) : Prop := '*' ∉ ps ∧ '?' ∉ ps

instance (ps : List Char) : Decidable (Plain ps) := inferInstanceAs (Decidable (_ ∧ _))

variable {p c : Char} {ps qs cs rest : List Char}

theorem fits_nil_iff : fits [] cs = true ↔ cs = [] := List.isEmpty_iff

theorem fits_star_iff : fits ('*' :: ps) cs = true ↔ ∃ run rest, cs = run ++ rest ∧ fits ps rest = true := by
  rw [fits, if_pos rfl, List.any_eq_true]
  constructor
  · rintro ⟨rest, hrest, hfits⟩
    obtain ⟨run, hrun⟩ := (List.mem_tails _ _).1 hrest
    exact ⟨run, rest, hrun.symm, hfits⟩
  · rintro ⟨run, rest, rfl, hfits⟩
    exact ⟨rest, (List.mem_tails _ _).2 (List.suffix_append run rest), hfits⟩

theorem fits_cons_iff (hp : p ≠ '*') :
    fits (p :: ps) cs = true ↔ ∃ c rest, cs = c :: rest ∧ (p = '?' ∨ p = c) ∧ fits ps rest = true := by
  rw [fits, if_neg hp]
  cases cs with
  | nil => simp
  | cons c rest => simp

/-- **A pattern of two parts** stands for the texts that can be cut into one for each part. -/
theorem fits_append :
    fits (ps ++ qs) cs = true ↔ ∃ as bs, cs = as ++ bs ∧ fits ps as = true ∧ fits qs bs = true := by
  induction ps generalizing cs with
  | nil =>
    constructor
    · intro h
      exact ⟨[], cs, rfl, rfl, h⟩
    · rintro ⟨as, bs, rfl, has, hbs⟩
      rw [fits_nil_iff.1 has]
      exact hbs
  | cons p ps ih =>
    rw [List.cons_append]
    by_cases hp : p = '*'
    · -- what the star stands for is in front of the text for the first part
      subst hp
      rw [fits_star_iff]
      constructor
      · rintro ⟨run, rest, rfl, hrest⟩
        obtain ⟨as, bs, rfl, has, hbs⟩ := ih.1 hrest
        exact ⟨run ++ as, bs, (List.append_assoc run as bs).symm, fits_star_iff.2 ⟨run, as, rfl, has⟩, hbs⟩
      · rintro ⟨as, bs, rfl, has, hbs⟩
        obtain ⟨run, rest, rfl, hrest⟩ := fits_star_iff.1 has
        exact ⟨run, rest ++ bs, List.append_assoc run rest bs, ih.2 ⟨rest, bs, rfl, hrest, hbs⟩⟩
    · rw [fits_cons_iff hp]
      constructor
      · rintro ⟨c, rest, rfl, hc, hrest⟩
        obtain ⟨as, bs, rfl, has, hbs⟩ := ih.1 hrest
        exact ⟨c :: as, bs, rfl, (fits_cons_iff hp).2 ⟨c, as, rfl, hc, has⟩, hbs⟩
      · rintro ⟨as, bs, rfl, has, hbs⟩
        obtain ⟨c, rest, rfl, hc, hrest⟩ := (fits_cons_iff hp).1 has
        exact ⟨c, rest ++ bs, rfl, hc, ih.2 ⟨rest, bs, rfl, hrest, hbs⟩⟩

/-- A pattern stands for itself, taken as a text. -/
theorem fits_self (ps : List Char) : fits ps ps = true := by
  induction ps with
  | nil => rfl
  | cons p ps ih =>
    by_cases hp : p = '*'
    · subst hp
      exact fits_star_iff.2 ⟨['*'], ps, rfl, ih⟩
    · exact (fits_cons_iff hp).2 ⟨p, ps, rfl, Or.inr rfl, ih⟩

/-! ## §2. Patterns without marks, and with them. -/

theorem plain_cons_iff : Plain (p :: ps) ↔ (p ≠ '*' ∧ p ≠ '?') ∧ Plain ps := by
  unfold Plain
  simp only [List.mem_cons, not_or, ne_comm (a := p)]
  exact and_and_and_comm

/-- Without marks a pattern stands for itself alone. -/
theorem fits_iff_eq_of_plain (h : Plain ps) : fits ps cs = true ↔ cs = ps := by
  induction ps generalizing cs with
  | nil => exact fits_nil_iff
  | cons p ps ih =>
    obtain ⟨⟨hstar, hone⟩, hps⟩ := plain_cons_iff.1 h
    rw [fits_cons_iff hstar]
    constructor
    · rintro ⟨c, rest, rfl, hc, hrest⟩
      rw [hc.resolve_left hone, (ih hps).1 hrest]
    · rintro rfl
      exact ⟨p, ps, rfl, Or.inr rfl, (ih hps).2 rfl⟩

/-- **With a mark it stands for another text as well**, one as long as the pattern. -/
theorem exists_fits_ne (h : ¬ Plain ps) :
    ∃ cs, fits ps cs = true ∧ cs.length = ps.length ∧ cs ≠ ps := by
  induction ps with
  | nil => exact absurd ⟨List.not_mem_nil, List.not_mem_nil⟩ h
  | cons p ps ih =>
    by_cases hmark : p ≠ '*' ∧ p ≠ '?'
    · obtain ⟨cs, hfits, hlength, hne⟩ := ih fun hps => h (plain_cons_iff.2 ⟨hmark, hps⟩)
      refine ⟨p :: cs, (fits_cons_iff hmark.1).2 ⟨p, cs, rfl, Or.inr rfl, hfits⟩, ?_, ?_⟩
      · rw [List.length_cons, List.length_cons, hlength]
      · exact fun heq => hne (List.cons.inj heq).2
    · -- a letter stands where the mark does
      refine ⟨'x' :: ps, ?_, rfl, ?_⟩
      · by_cases hstar : p = '*'
        · subst hstar
          exact fits_star_iff.2 ⟨['x'], ps, rfl, fits_self ps⟩
        · have hone : p = '?' := Decidable.byContradiction fun hone => hmark ⟨hstar, hone⟩
          exact (fits_cons_iff hstar).2 ⟨'x', ps, rfl, Or.inl hone, fits_self ps⟩
      · intro heq
        obtain rfl : 'x' = p := (List.cons.inj heq).1
        exact hmark (by decide)

/-! ## §3. Texts below a name. -/

theorem fits_dot_star_iff : fits ['.', '*'] cs = true ↔ ∃ rest, cs = '.' :: rest := by
  rw [fits_cons_iff (by decide)]
  constructor
  · rintro ⟨c, rest, rfl, hc, -⟩
    exact ⟨rest, by rw [← hc.resolve_left (by decide)]⟩
  · rintro ⟨rest, rfl⟩
    exact ⟨'.', rest, rfl, Or.inr rfl, fits_star_iff.2 ⟨rest, [], (List.append_nil rest).symm, rfl⟩⟩

/-- A pattern with a dot and a star behind it stands for every text with a dot behind something that the
    pattern stands for. -/
theorem matchesPattern_below_iff (pattern text : String) :
    matchesPattern (pattern ++ ".*") text = true
      ↔ ∃ start rest, text = start ++ "." ++ rest ∧ matchesPattern pattern start = true := by
  have hpattern : (pattern ++ ".*").toList = pattern.toList ++ ['.', '*'] := by
    rw [String.toList_append]
    rfl
  unfold matchesPattern
  rw [hpattern, fits_append]
  constructor
  · rintro ⟨as, bs, htext, has, hbs⟩
    obtain ⟨rest, rfl⟩ := fits_dot_star_iff.1 hbs
    refine ⟨String.ofList as, String.ofList rest, String.toList_injective ?_, ?_⟩
    · simpa using htext
    · rwa [String.toList_ofList]
  · rintro ⟨start, rest, rfl, hstart⟩
    refine ⟨start.toList, '.' :: rest.toList, by simp, hstart, ?_⟩
    exact fits_dot_star_iff.2 ⟨rest.toList, rfl⟩

/-- **It stands for the texts below the pattern itself, and no others, exactly if the pattern has no
    marks.** -/
theorem below_iff_plain (pattern : String) :
    (∀ text, matchesPattern (pattern ++ ".*") text = true ↔ startsWith text (pattern ++ ".") = true)
      ↔ Plain pattern.toList := by
  constructor
  · intro h
    refine Decidable.byContradiction fun hmarks => ?_
    obtain ⟨cs, hfits, hlength, hne⟩ := exists_fits_ne hmarks
    -- another text for the pattern, and a dot: as long as the pattern with its dot, and not the same
    have hmatches : matchesPattern (pattern ++ ".*") (String.ofList cs ++ "." ++ "") = true := by
      refine (matchesPattern_below_iff _ _).2 ⟨String.ofList cs, "", rfl, ?_⟩
      unfold matchesPattern
      rwa [String.toList_ofList]
    obtain ⟨rest, hrest⟩ := startsWith_iff.1 ((h _).1 hmatches)
    have hchars : cs ++ ['.'] = pattern.toList ++ '.' :: rest.toList := by
      simpa using congrArg String.toList hrest
    exact hne (List.append_inj_left hchars hlength)
  · intro hplain text
    rw [matchesPattern_below_iff, startsWith_iff]
    constructor
    · rintro ⟨start, rest, rfl, hstart⟩
      have hsame : start = pattern :=
        String.toList_injective ((fits_iff_eq_of_plain hplain).1 hstart)
      exact ⟨rest, by rw [hsame]⟩
    · rintro ⟨rest, rfl⟩
      exact ⟨pattern, rest, rfl, fits_self _⟩

end Text

/-! ## §4. Patterns in queries. -/

namespace Query

mutual

/-- The patterns in a query, each with its field. -/
def wildcards : Query → List (String × String)
  | .wildcard field pattern => [(field, pattern)]
  | .bool must should mustNot filter =>
    wildcardsIn must ++ wildcardsIn should ++ wildcardsIn mustNot ++ wildcardsIn filter
  | _ => []

def wildcardsIn : List Query → List (String × String)
  | [] => []
  | q :: rest => wildcards q ++ wildcardsIn rest

end

end Query

end CatalogIndex
