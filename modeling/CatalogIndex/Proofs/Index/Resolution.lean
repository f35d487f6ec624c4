/-
  CatalogIndex.Proofs.Index.Resolution — names that are read and names that are written.

  An index is written to under the name of its mapping, with the alias of the deployment in front.  It is
  read under names that a caller lists, with commas between them and perhaps with blanks.  Both get to the
  same index, as the list is cut where the caller put the commas: an alias without commas adds none, and
  the blanks are trimmed before the alias is put in front.  Only with the empty alias the list stays as it
  is, blanks included.

  What was put in front is taken away once, so that a name which looks as if it had the alias already
  comes back as it was.

  ## Main definitions

    * `Text.Unpadded` — a text without blanks around it.

  ## Main results

    * `Text.split_join` — texts that are listed, and cut again;
    * `Registry.split_resolve` — what any list is resolved to;
    * `Registry.unresolve_withClusterAlias` — the alias in front is taken away again;
    * `Registry.index_eq_resolve` — the index of a type is read where it is written;
    * `Registry.resolve_listed` — listed names get to the indexes that are written, and back.
-/
import CatalogIndex.Proofs.Index.Names

namespace CatalogIndex

/-! ## §1. Blanks, commas and starts of texts. -/

namespace Text

/-- Neither the first character of the text is blank nor the last one. -/
def Unpadded (s : String) : Prop :=
  s.toList.head?.any isBlank = false ∧ s.toList.getLast?.any isBlank = false

instance (s : String) : Decidable (Unpadded s) := inferInstanceAs (Decidable (_ ∧ _))

theorem trimStart_eq_self {cs : List Char} (h : cs.head?.any isBlank = false) : trimStart cs = cs := by
  cases cs with
  | nil => rfl
  | cons c rest =>
    have hc : isBlank c = false := h
    exact List.dropWhile_cons_of_neg (Bool.eq_false_iff.1 hc)

theorem trimEnd_eq_self {cs : List Char} (h : cs.getLast?.any isBlank = false) : trimEnd cs = cs := by
  have hreverse : trimStart cs.reverse = cs.reverse :=
    trimStart_eq_self (by rwa [List.head?_reverse])
  unfold trimEnd
  rw [hreverse, List.reverse_reverse]

/-- Trimming takes blanks away from the start of a text, and leaves what has none around it. -/
theorem trim_append {pad s : String} (hpad : isAllBlank pad = true) (h : Unpadded s) :
    trim (pad ++ s) = s := by
  have hstart : trimStart (pad ++ s).toList = trimStart s.toList := by
    rw [String.toList_append]
    exact List.dropWhile_append_of_pos (List.all_eq_true.1 hpad)
  unfold trim
  rw [hstart, trimStart_eq_self h.1, trimEnd_eq_self h.2, String.ofList_toList]

/-- Texts without commas that are put together with commas are found again at the commas. -/
theorem split_join {texts : List String} (hne : texts ≠ []) (h : ∀ text ∈ texts, ',' ∉ text.toList) :
    split ',' (join "," texts) = texts := by
  induction texts with
  | nil => exact absurd rfl hne
  | cons text rest ih =>
    have htext := h text List.mem_cons_self
    unfold split at ih ⊢
    cases rest with
    | nil =>
      show (pieces ',' text.toList).map String.ofList = [text]
      rw [pieces_of_notMem htext, List.map_singleton, String.ofList_toList]
    | cons second more =>
      -- the first text ends at the first comma, and the others are behind it
      have hjoin : (join "," (text :: second :: more)).toList
          = text.toList ++ ',' :: (join "," (second :: more)).toList := by
        rw [join_cons _ _ (List.cons_ne_nil _ _), String.toList_append, String.toList_append,
          List.append_assoc]
        rfl
      rw [hjoin, pieces_append_sep htext, List.map_cons, String.ofList_toList,
        ih (List.cons_ne_nil _ _) fun text htext => h text (List.mem_cons_of_mem _ htext)]

theorem notMem_of_mem_split {sep : Char} {s piece : String} (h : piece ∈ split sep s) :
    sep ∉ piece.toList := by
  obtain ⟨cs, hcs, rfl⟩ := List.mem_map.1 h
  rw [String.toList_ofList]
  exact notMem_of_mem_pieces hcs

theorem split_ne_nil (sep : Char) (s : String) : split sep s ≠ [] := by
  unfold split
  rw [Ne, List.map_eq_nil_iff]
  exact pieces_ne_nil sep _

theorem dropStart?_append (start rest : String) : dropStart? start (start ++ rest) = some rest := by
  unfold dropStart?
  rw [if_pos (startsWith_iff.2 ⟨rest, rfl⟩), String.toList_append, List.drop_left,
    String.ofList_toList]

end Text

/-! ## §2. Lists of names. -/

namespace Registry

/-- The alias of the deployment is taken away where it was put in front, and only once. -/
theorem unresolve_withClusterAlias (r : Registry) (name : String) :
    r.unresolve (withClusterAlias r.clusterAlias name) = name := by
  unfold unresolve withClusterAlias
  split
  · rfl
  · rw [Text.dropStart?_append, Option.getD_some]

/-- **A list is resolved name by name**: cut at commas, it is the list that was given, cut at commas, each
    name with the alias in front.  If there is an alias, blanks around the names are gone. -/
theorem split_resolve (r : Registry) (hcomma : ',' ∉ r.clusterAlias.toList) (names : String) :
    Text.split ',' (r.resolve names) = (Text.split ',' names).map fun name =>
      withClusterAlias r.clusterAlias (if r.clusterAlias = "" then name else Text.trim name) := by
  unfold resolve
  by_cases hempty : r.clusterAlias = ""
  · simp [hempty, withClusterAlias]
  · rw [if_neg (by rwa [String.isEmpty_iff])]
    simp only [if_neg hempty, withClusterAlias_of_ne hempty]
    refine Text.split_join ?_ ?_
    · rw [Ne, List.map_eq_nil_iff]
      exact Text.split_ne_nil _ _
    · -- neither the alias nor what is left of a piece holds a comma
      intro name hname
      obtain ⟨piece, hpiece, rfl⟩ := List.mem_map.1 hname
      have htrim : ',' ∉ (Text.trim piece).toList := fun h =>
        Text.notMem_of_mem_split hpiece (Text.mem_of_mem_trim h)
      have hseparator : ',' ∉ aliasSeparator.toList := by decide
      simp only [String.toList_append, List.mem_append, not_or]
      exact ⟨⟨hcomma, hseparator⟩, htrim⟩

/-- A single name is resolved like a name that is written. -/
theorem resolve_of_unpadded (r : Registry) {name : String} (hcomma : ',' ∉ name.toList)
    (h : Text.Unpadded name) : r.resolve name = withClusterAlias r.clusterAlias name := by
  have hsplit : Text.split ',' name = [name] :=
    Text.split_join (List.cons_ne_nil name []) (by simpa using hcomma)
  have htrim : Text.trim ("" ++ name) = name := Text.trim_append rfl h
  rw [String.empty_append] at htrim
  unfold resolve withClusterAlias
  rw [hsplit, List.map_singleton, htrim]
  rfl

/-- The index that is written for a type of entities is the one that is read under the name of its
    mapping. -/
theorem index_eq_resolve {r : Registry} {entityType : String} {m : IndexMapping}
    (hm : r.require entityType = .ok m) (hcomma : ',' ∉ m.indexName.toList)
    (h : Text.Unpadded m.indexName) : r.index entityType = .ok (r.resolve m.indexName) := by
  rw [r.resolve_of_unpadded hcomma h]
  unfold index
  rw [hm]
  rfl

/-- A list of names: each entry is what stands in front of a name, and the name. -/
def listed (entries : List (String × String)) : String :=
  Text.join "," (entries.map fun entry => entry.1 ++ entry.2)

/-- A list is cut into its entries, if there are blanks only in front of the names. -/
theorem split_listed {entries : List (String × String)} (hne : entries ≠ [])
    (hblanks : ∀ entry ∈ entries, Text.isAllBlank entry.1 = true)
    (hnames : ∀ entry ∈ entries, ',' ∉ entry.2.toList) :
    Text.split ',' (listed entries) = entries.map fun entry => entry.1 ++ entry.2 := by
  refine Text.split_join (by simpa using hne) ?_
  intro text htext
  obtain ⟨entry, hentry, rfl⟩ := List.mem_map.1 htext
  -- a comma is not blank
  have hblank : ',' ∉ entry.1.toList := fun h =>
    absurd (List.all_eq_true.1 (hblanks entry hentry) _ h) (by decide)
  simp only [String.toList_append, List.mem_append, not_or]
  exact ⟨hblank, hnames entry hentry⟩

/-- **Listed names get to the indexes that are written under them, in order, and back.**  Where there is
    an alias, blanks may stand in front of the names. -/
theorem resolve_listed (r : Registry) (hcomma : ',' ∉ r.clusterAlias.toList)
    (entries : List (String × String)) (hne : entries ≠ [])
    (hnames : ∀ entry ∈ entries, ',' ∉ entry.2.toList ∧ Text.Unpadded entry.2)
    (hblanks : ∀ entry ∈ entries,
      Text.isAllBlank entry.1 = true ∧ (r.clusterAlias = "" → entry.1 = "")) :
    Text.split ',' (r.resolve (listed entries))
        = entries.map (fun entry => withClusterAlias r.clusterAlias entry.2)
      ∧ (Text.split ',' (r.resolve (listed entries))).map r.unresolve = entries.map Prod.snd := by
  have hresolved : Text.split ',' (r.resolve (listed entries))
      = entries.map fun entry => withClusterAlias r.clusterAlias entry.2 := by
    rw [r.split_resolve hcomma, split_listed hne (fun entry hentry => (hblanks entry hentry).1)
      (fun entry hentry => (hnames entry hentry).1), List.map_map]
    refine List.map_congr_left fun entry hentry => ?_
    obtain ⟨hblank, hnone⟩ := hblanks entry hentry
    show withClusterAlias _ (if _ then entry.1 ++ entry.2 else _) = _
    by_cases hempty : r.clusterAlias = ""
    · rw [if_pos hempty, hnone hempty, String.empty_append]
    · rw [if_neg hempty, Text.trim_append hblank (hnames entry hentry).2]
  refine ⟨hresolved, ?_⟩
  rw [hresolved, List.map_map]
  exact List.map_congr_left fun entry _ => r.unresolve_withClusterAlias entry.2

/-- A registry of a deployment without entities. -/
def ofAlias (clusterAlias : String) : Registry :=
  { mappings := [], clusterAlias, language := "en", schemaRoot := "" }

/-- A list in which one name begins with the alias `acme` and one is empty. -/
def spacedNames : List (String × String) := [("", "table"), ("  ", "acme_page"), (" ", "")]

/-- The alias is put in front of a name that begins with it as well; without an alias there are no
    blanks. -/
theorem resolve_listed_acme :
    listed spacedNames = "table,  acme_page, "
      ∧ Text.split ',' ((ofAlias "acme").resolve (listed spacedNames))
        = ["acme_table", "acme_acme_page", "acme_"]
      ∧ (Text.split ',' ((ofAlias "acme").resolve (listed spacedNames))).map (ofAlias "acme").unresolve
        = ["table", "acme_page", ""]
      ∧ Text.split ',' ((ofAlias "").resolve (listed [("", "table"), ("", "page")])) = ["table", "page"] := by
  obtain ⟨hacme, hback⟩ :=
    resolve_listed (ofAlias "acme") (by decide) spacedNames (by decide) (by decide) (by decide)
  obtain ⟨hown, -⟩ :=
    resolve_listed (ofAlias "") (by decide) [("", "table"), ("", "page")] (by decide) (by decide)
      (by decide)
  exact ⟨by decide, hacme, hback, hown⟩

end Registry

end CatalogIndex
