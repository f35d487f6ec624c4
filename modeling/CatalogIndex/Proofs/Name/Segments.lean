/-
  CatalogIndex.Proofs.Name.Segments — names as texts and names as lists of segments.

  Writes by query compare names as texts: a name is equal to another one, or begins with it and a dot.
  What is meant is a statement about segments: the segments of the one name are the first segments of
  the other.  For a name that is not empty and closes every quote it opens, the two are the same; a dot
  behind such a name is always a separator, so the cut falls at a boundary of segments.

  ## Main definitions

    * `Balanced` — every quote that is opened is closed;
    * `AtOrBelow` — a name, or a name below it, as a comparison of texts.

  ## Main results

    * `build_split` — a name is put together again from its segments;
    * `split_below` — a name below another one has its segments, and then more;
    * `split_isPrefix_iff` — the comparison of texts is the comparison of segments;
    * `split_replaceStart` — another start of a name is another start of its segments.
-/
import CatalogIndex.Name

namespace CatalogIndex

/-! ## §1. Texts that begin with a text. -/

namespace Text

theorem startsWith_iff {s start : String} : startsWith s start = true ↔ ∃ rest, s = start ++ rest := by
  unfold startsWith
  rw [List.isPrefixOf_iff_prefix]
  constructor
  · rintro ⟨rest, hrest⟩
    refine ⟨String.ofList rest, String.toList_injective ?_⟩
    rw [String.toList_append, String.toList_ofList, hrest]
  · rintro ⟨rest, rfl⟩
    rw [String.toList_append]
    exact List.prefix_append _ _

/-- One more text in front of others. -/
theorem join_cons (sep s : String) {texts : List String} (h : texts ≠ []) :
    join sep (s :: texts) = s ++ sep ++ join sep texts := by
  cases texts with
  | nil => exact absurd rfl h
  | cons t rest => rfl

theorem join_append (sep : String) {as bs : List String} (ha : as ≠ []) (hb : bs ≠ []) :
    join sep (as ++ bs) = join sep as ++ sep ++ join sep bs := by
  induction as with
  | nil => exact absurd rfl ha
  | cons a rest ih =>
    cases rest with
    | nil => exact join_cons sep a hb
    | cons a' rest' =>
      have hrest := ih (List.cons_ne_nil a' rest')
      rw [List.cons_append, join_cons sep a (by simp), hrest, join_cons sep a (List.cons_ne_nil a' rest')]
      simp only [String.append_assoc]

end Text

namespace Name

/-! ## §2. Quotes. -/

/-- Every quote that is opened is closed: there is an even number of them. -/
def Balanced (name : String) : Prop := name.toList.count '"' % 2 = 0

instance (name : String) : Decidable (Balanced name) :=
  inferInstanceAs (Decidable (name.toList.count '"' % 2 = 0))

/-- Whether a text ends inside quotes; `quoted` says whether it starts there. -/
def endsQuoted (quoted : Bool) : List Char → Bool
  | [] => quoted
  | c :: cs => endsQuoted (if c = '"' then !quoted else quoted) cs

theorem endsQuoted_eq (quoted : Bool) (cs : List Char) :
    endsQuoted quoted cs = (quoted != decide (cs.count '"' % 2 = 1)) := by
  induction cs generalizing quoted with
  | nil => simp [endsQuoted]
  | cons c rest ih =>
    unfold endsQuoted
    rw [ih]
    by_cases hc : c = '"'
    · -- one quote more turns the parity, and so does the quote that is passed
      subst hc
      rw [List.count_cons_self, if_pos rfl]
      have hparity : decide ((rest.count '"' + 1) % 2 = 1) = !decide (rest.count '"' % 2 = 1) := by
        by_cases h : rest.count '"' % 2 = 1
        · simp [h]; omega
        · simp [h]; omega
      rw [hparity]
      cases quoted <;> simp
    · rw [List.count_cons_of_ne hc, if_neg hc]

theorem endsQuoted_of_balanced {name : String} (h : Balanced name) :
    endsQuoted false name.toList = false := by
  have heven : name.toList.count '"' % 2 = 0 := h
  rw [endsQuoted_eq]
  simp [heven]

/-! ## §3. Cutting and putting together. -/

theorem segments_ne_nil (quoted : Bool) (cs : List Char) : segments quoted cs ≠ [] := by
  cases cs with
  | nil => simp [segments]
  | cons c rest =>
    unfold segments
    split
    · simp
    · split <;> simp

/-- A character that does not separate belongs to the first segment. -/
theorem segments_cons_of_not_separator {quoted : Bool} {c : Char} (h : ¬ (c = '.' ∧ quoted = false))
    (cs : List Char) :
    ∃ segment rest, segments (if c = '"' then !quoted else quoted) cs = segment :: rest
      ∧ segments quoted (c :: cs) = (c :: segment) :: rest := by
  cases hrest : segments (if c = '"' then !quoted else quoted) cs with
  | nil => exact absurd hrest (segments_ne_nil _ cs)
  | cons segment rest =>
    refine ⟨segment, rest, rfl, ?_⟩
    show (if c = '.' ∧ quoted = false then _ else _) = _
    rw [if_neg h, hrest]

/-- A dot behind a text that ends outside quotes separates the segments of the text from what
    follows. -/
theorem segments_append_dot {quoted : Bool} {as : List Char} (h : endsQuoted quoted as = false)
    (bs : List Char) : segments quoted (as ++ '.' :: bs) = segments quoted as ++ segments false bs := by
  induction as generalizing quoted with
  | nil =>
    have hquoted : quoted = false := h
    subst hquoted
    rfl
  | cons c rest ih =>
    by_cases hsep : c = '.' ∧ quoted = false
    · obtain ⟨rfl, rfl⟩ := hsep
      show [] :: segments false (rest ++ '.' :: bs) = ([] :: segments false rest) ++ segments false bs
      rw [@ih false h]
      rfl
    · -- the character joins the first segment, with what follows the rest and without it
      have hrest := @ih (if c = '"' then !quoted else quoted) h
      obtain ⟨segment, more, hcut, hcons⟩ := segments_cons_of_not_separator hsep rest
      obtain ⟨segment', more', hcut', hcons'⟩ :=
        segments_cons_of_not_separator hsep (rest ++ '.' :: bs)
      rw [hcut, hcut'] at hrest
      injection hrest with hsegment hmore
      show segments quoted (c :: (rest ++ '.' :: bs)) = _
      rw [hcons', hcons, hsegment, hmore]
      rfl

/-- The segments of a text, with dots between them, are the text. -/
theorem join_segments (quoted : Bool) (cs : List Char) :
    Text.join "." ((segments quoted cs).map String.ofList) = String.ofList cs := by
  induction cs generalizing quoted with
  | nil => rfl
  | cons c rest ih =>
    have hchar : String.ofList (c :: rest) = String.ofList [c] ++ String.ofList rest := by
      rw [← String.ofList_append]
      rfl
    by_cases hsep : c = '.' ∧ quoted = false
    · -- an empty segment stands in front of the others, and the dot behind it
      obtain ⟨rfl, rfl⟩ := hsep
      have hne : (segments false rest).map String.ofList ≠ [] := by
        simpa using segments_ne_nil false rest
      show Text.join "." (String.ofList [] :: (segments false rest).map String.ofList) = _
      rw [Text.join_cons _ _ hne, ih, hchar]
      rfl
    · obtain ⟨segment, more, hcut, hcons⟩ := segments_cons_of_not_separator hsep rest
      have hrest := ih (if c = '"' then !quoted else quoted)
      have hhead : String.ofList (c :: segment) = String.ofList [c] ++ String.ofList segment := by
        rw [← String.ofList_append]
        rfl
      rw [hcut] at hrest
      rw [hcons, hchar, ← hrest, List.map_cons, List.map_cons, hhead]
      cases more with
      | nil => rfl
      | cons next others =>
        rw [Text.join_cons _ _ (by simp), Text.join_cons _ _ (by simp)]
        simp only [String.append_assoc]

theorem split_of_ne_empty {name : String} (h : name ≠ "") :
    split name = (segments false name.toList).map String.ofList := by
  unfold split
  rw [if_neg (by rwa [String.isEmpty_iff])]

theorem split_ne_nil {name : String} (h : name ≠ "") : split name ≠ [] := by
  rw [split_of_ne_empty h]
  simpa using segments_ne_nil false name.toList

/-- **A name is put together again from its segments.** -/
theorem build_split (name : String) : build (split name) = name := by
  by_cases h : name = ""
  · subst h
    rfl
  · show Text.join "." (split name) = name
    rw [split_of_ne_empty h, join_segments, String.ofList_toList]

/-! ## §4. Names below a name. -/

/-- A name, or a name below it: the text begins with it and a dot. -/
def AtOrBelow (start name : String) : Prop := name = start ∨ Text.startsWith name (start ++ ".") = true

instance (start name : String) : Decidable (AtOrBelow start name) :=
  inferInstanceAs (Decidable (_ ∨ _))

theorem atOrBelow_iff {start name : String} :
    AtOrBelow start name ↔ name = start ∨ ∃ rest, name = start ++ "." ++ rest := by
  unfold AtOrBelow
  rw [Text.startsWith_iff]

/-- **A name below another one has its segments, and then those of the rest.** -/
theorem split_below {start : String} (hstart : start ≠ "") (hquotes : Balanced start) (rest : String) :
    split (start ++ "." ++ rest) = split start ++ (segments false rest.toList).map String.ofList := by
  have hne : start ++ "." ++ rest ≠ "" := by
    intro h
    have hlist := congrArg String.toList h
    simp at hlist
  have htext : (start ++ "." ++ rest).toList = start.toList ++ '.' :: rest.toList := by
    simp
  rw [split_of_ne_empty hne, split_of_ne_empty hstart, htext,
    segments_append_dot (endsQuoted_of_balanced hquotes), List.map_append]

/-- **A name is at or below another one exactly if its segments begin with those of the other.** -/
theorem split_isPrefix_iff {start : String} (hstart : start ≠ "") (hquotes : Balanced start)
    (name : String) : split start <+: split name ↔ AtOrBelow start name := by
  rw [atOrBelow_iff]
  constructor
  · rintro ⟨more, hmore⟩
    have hname : name = build (split start ++ more) := by
      rw [hmore, build_split]
    -- the name is put together from both lists, so a dot stands where they meet
    by_cases hnil : more = []
    · left
      rw [hname, hnil, List.append_nil, build_split]
    · right
      refine ⟨build more, ?_⟩
      have hjoin := Text.join_append "." (split_ne_nil hstart) hnil
      calc name = Text.join "." (split start ++ more) := hname
        _ = build (split start) ++ "." ++ build more := hjoin
        _ = start ++ "." ++ build more := by rw [build_split]
  · rintro (rfl | ⟨rest, rfl⟩)
    · exact List.prefix_refl _
    · rw [split_below hstart hquotes]
      exact List.prefix_append _ _

/-- The name without as many characters as `start` has, and `newStart` in front. -/
def replaceStart (start newStart name : String) : String :=
  newStart ++ String.ofList (name.toList.drop start.toList.length)

theorem replaceStart_self (start newStart : String) : replaceStart start newStart start = newStart := by
  simp [replaceStart]

theorem replaceStart_below (start newStart rest : String) :
    replaceStart start newStart (start ++ "." ++ rest) = newStart ++ "." ++ rest := by
  apply String.toList_injective
  simp [replaceStart]

/-- **Another start of a name is another start of its segments**; the segments behind it stay. -/
theorem split_replaceStart {start newStart name : String} (hstart : start ≠ "")
    (hquotes : Balanced start) (hnew : newStart ≠ "") (hnewQuotes : Balanced newStart)
    (h : AtOrBelow start name) :
    split (replaceStart start newStart name)
      = split newStart ++ (split name).drop (split start).length := by
  rcases atOrBelow_iff.1 h with rfl | ⟨rest, rfl⟩
  · rw [replaceStart_self, List.drop_length, List.append_nil]
  · rw [replaceStart_below, split_below hstart hquotes, split_below hnew hnewQuotes,
      List.drop_left]

/-- A name that goes on behind `start` with another character than a dot is not below it. -/
theorem not_atOrBelow_of_append {start : String} {c : Char} (hc : c ≠ '.') (rest : List Char) :
    ¬ AtOrBelow start (start ++ String.ofList (c :: rest)) := by
  rw [atOrBelow_iff]
  rintro (h | ⟨more, h⟩)
  · have hlist := congrArg String.toList h
    simp at hlist
  · have hlist := congrArg String.toList h
    simp at hlist
    exact hc hlist.1

end Name

end CatalogIndex
