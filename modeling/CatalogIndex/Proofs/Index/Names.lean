/-
  CatalogIndex.Proofs.Index.Names — names as the cluster knows them.

  A name gets the alias of the deployment and an underscore in front.  That keeps different names
  different, and the alias of all documents is no exception: it is the name `all` of the deployment.
  Several names stand next to each other with commas between them; where none of them holds a comma
  itself, every stretch between commas is one of these names, also in what is left of the text before
  its first slash.

  ## Main definitions

    * `OwnName` — a name of a deployment, without commas;
    * `Addressed` — a text that lists such names.

  ## Main results

    * `withClusterAlias_injective` — different names stay different;
    * `globalAlias_eq`, `globalAlias_mem_children_iff` — the alias of all documents among the others;
    * `startsWith_of_mem_pathNames` — what stands before the first slash are names of the deployment;
    * `addressed_resolve` — what callers name is resolved to such names.
-/
import CatalogIndex.Index.Registry
import CatalogIndex.Proofs.Keyed
import CatalogIndex.Proofs.Name.Segments
import CatalogIndex.Proofs.Outcome
import CatalogIndex.Proofs.Text.Pieces

namespace CatalogIndex

/-! ## §1. Trimmed texts. -/

namespace Text

/-- Trimming brings nothing new. -/
theorem mem_of_mem_trim {s : String} {c : Char} (h : c ∈ (trim s).toList) : c ∈ s.toList := by
  unfold trim trimEnd trimStart at h
  rw [String.toList_ofList, List.mem_reverse] at h
  have hinner := List.mem_reverse.1 ((List.dropWhile_sublist _).mem h)
  exact (List.dropWhile_sublist _).mem hinner

end Text

/-! ## §2. Single names. -/

/-- Different names of a deployment stay different. -/
theorem withClusterAlias_injective (clusterAlias : String) :
    Function.Injective (withClusterAlias clusterAlias) := by
  intro a b h
  unfold withClusterAlias at h
  split at h
  · exact h
  · -- the same text stands in front of both
    rw [String.append_assoc, String.append_assoc] at h
    have hrest := (String.append_right_inj _).1 h
    exact (String.append_right_inj _).1 hrest

theorem withClusterAlias_of_ne {clusterAlias : String} (h : clusterAlias ≠ "") (name : String) :
    withClusterAlias clusterAlias name = clusterAlias ++ aliasSeparator ++ name := by
  unfold withClusterAlias
  rw [if_neg fun hempty => h (String.isEmpty_iff.1 hempty)]

/-- A name of a deployment, without commas. -/
def OwnName (clusterAlias text : String) : Prop :=
  ∃ name, text = withClusterAlias clusterAlias name ∧ ',' ∉ name.toList

namespace Registry

/-- The alias of all documents is the name `all` of the deployment. -/
theorem globalAlias_eq (r : Registry) : r.globalAlias = withClusterAlias r.clusterAlias globalName := by
  -- it is resolved like a list of names that callers give, and the list has one name
  have hsplit : Text.split ',' globalName = [globalName] := by decide
  have htrim : Text.trim globalName = globalName := by decide
  unfold globalAlias resolve withClusterAlias
  rw [hsplit, List.map_singleton, htrim]
  rfl

/-- All documents count as children exactly where the mapping says so. -/
theorem globalAlias_mem_children_iff (r : Registry) (m : IndexMapping) :
    r.globalAlias ∈ r.children m ↔ globalName ∈ m.childAliases := by
  rw [globalAlias_eq]
  show _ ∈ m.childAliases.map (withClusterAlias r.clusterAlias) ↔ _
  rw [List.mem_map]
  constructor
  · rintro ⟨name, hname, heq⟩
    rwa [← withClusterAlias_injective r.clusterAlias heq]
  · exact fun hname => ⟨globalName, hname, rfl⟩

theorem ownName_globalAlias (r : Registry) : OwnName r.clusterAlias r.globalAlias :=
  ⟨globalName, r.globalAlias_eq, by decide⟩

end Registry

/-! ## §3. Lists of names. -/

/-- A text that lists names of a deployment, with commas between them. -/
def Addressed (clusterAlias text : String) : Prop :=
  ∃ names, names ≠ [] ∧ (∀ name ∈ names, OwnName clusterAlias name) ∧ text = Text.join "," names

theorem OwnName.addressed {clusterAlias text : String} (h : OwnName clusterAlias text) :
    Addressed clusterAlias text := by
  refine ⟨[text], List.cons_ne_nil _ _, fun name hname => ?_, rfl⟩
  rwa [List.mem_singleton.1 hname]

/-- A list of names begins with the alias of the deployment. -/
theorem Addressed.exists_append {clusterAlias text : String} (hne : clusterAlias ≠ "")
    (h : Addressed clusterAlias text) : ∃ rest, text = clusterAlias ++ aliasSeparator ++ rest := by
  obtain ⟨names, hnil, hnames, rfl⟩ := h
  cases names with
  | nil => exact absurd rfl hnil
  | cons first others =>
    obtain ⟨name, rfl, -⟩ := hnames first List.mem_cons_self
    rw [withClusterAlias_of_ne hne]
    cases others with
    | nil => exact ⟨name, rfl⟩
    | cons second more =>
      refine ⟨name ++ "," ++ Text.join "," (second :: more), ?_⟩
      rw [Text.join_cons _ _ (List.cons_ne_nil _ _)]
      simp only [String.append_assoc]

/-- What stands before the first slash. -/
def beforeSlash (cs : List Char) : List Char := cs.takeWhile (· ≠ '/')

theorem beforeSlash_cons {c : Char} (h : c ≠ '/') (cs : List Char) :
    beforeSlash (c :: cs) = c :: beforeSlash cs :=
  List.takeWhile_cons_of_pos (by simpa using h)

theorem beforeSlash_append_of_mem {as : List Char} (h : '/' ∈ as) (bs : List Char) :
    beforeSlash (as ++ bs) = beforeSlash as := by
  induction as with
  | nil => cases h
  | cons c rest ih =>
    by_cases hc : c = '/'
    · subst hc
      rfl
    · have hrest : '/' ∈ rest := (List.mem_cons.1 h).resolve_left (Ne.symm hc)
      rw [List.cons_append, beforeSlash_cons hc, beforeSlash_cons hc, ih hrest]

theorem beforeSlash_append_of_notMem {as : List Char} (h : '/' ∉ as) (bs : List Char) :
    beforeSlash (as ++ bs) = as ++ beforeSlash bs := by
  unfold beforeSlash
  refine List.takeWhile_append_of_pos fun c hc => ?_
  simpa using fun heq : c = '/' => h (heq ▸ hc)

/-- A path that goes on behind a text with a slash. -/
def IsBelow (text path : String) : Prop := ∃ rest, path.toList = text.toList ++ '/' :: rest

/-- A path that is a text, or goes on behind it with a slash. -/
def IsUnder (text path : String) : Prop := path = text ∨ IsBelow text path

theorem isBelow_segment (text segment : String) {rest : List Char}
    (h : segment.toList = '/' :: rest) : IsBelow text (text ++ segment) :=
  ⟨rest, by rw [String.toList_append, h]⟩

theorem IsBelow.append {text path : String} (h : IsBelow text path) (more : String) :
    IsBelow text (path ++ more) := by
  obtain ⟨rest, hpath⟩ := h
  refine ⟨rest ++ more.toList, ?_⟩
  rw [String.toList_append, hpath, List.append_assoc]
  rfl

theorem IsUnder.exists_rest {text path : String} (h : IsUnder text path) :
    ∃ rest, path.toList = text.toList ++ rest ∧ beforeSlash rest = [] := by
  rcases h with rfl | ⟨rest, hpath⟩
  · exact ⟨[], (List.append_nil _).symm, rfl⟩
  · exact ⟨'/' :: rest, hpath, rfl⟩

/-- One name of a list.  Either the first slash is in it, and nothing behind it counts, or all of it
    counts. -/
theorem beforeSlash_name {start : List Char} (hstart : '/' ∉ start) (name tail : List Char) :
    beforeSlash (start ++ name ++ tail) = start ++ beforeSlash name
      ∨ beforeSlash (start ++ name ++ tail) = start ++ name ++ beforeSlash tail := by
  rw [List.append_assoc, beforeSlash_append_of_notMem hstart]
  by_cases hname : '/' ∈ name
  · exact Or.inl (by rw [beforeSlash_append_of_mem hname])
  · exact Or.inr (by rw [beforeSlash_append_of_notMem hname, List.append_assoc])

theorem notMem_beforeSlash {c : Char} {cs : List Char} (h : c ∉ cs) : c ∉ beforeSlash cs :=
  fun hmem => h ((List.takeWhile_sublist _).mem hmem)

/-- Before the first slash of a path under names that begin alike, every stretch between commas begins
    like them. -/
theorem isPrefix_of_mem_pieces {start : List Char} (hcomma : ',' ∉ start) (hslash : '/' ∉ start)
    {names : List String} (hnil : names ≠ [])
    (hnames : ∀ name ∈ names, ∃ cs, name.toList = start ++ cs ∧ ',' ∉ cs) {rest : List Char}
    (hrest : beforeSlash rest = []) :
    ∀ piece ∈ Text.pieces ',' (beforeSlash ((Text.join "," names).toList ++ rest)),
      start <+: piece := by
  induction names with
  | nil => exact absurd rfl hnil
  | cons first others ih =>
    obtain ⟨name, hfirst, hname⟩ := hnames first List.mem_cons_self
    have hcut : Text.pieces ',' (start ++ beforeSlash name) = [start ++ beforeSlash name] :=
      Text.pieces_of_notMem (by simp [hcomma, notMem_beforeSlash hname])
    have hwhole : ',' ∉ start ++ name := by simp [hcomma, hname]
    intro piece hpiece
    cases others with
    | nil =>
      -- the only name: what follows it holds nothing before a slash
      change piece ∈ Text.pieces ',' (beforeSlash (first.toList ++ rest)) at hpiece
      rw [hfirst] at hpiece
      rcases beforeSlash_name hslash name rest with hread | hread
      · rw [hread, hcut] at hpiece
        rw [List.mem_singleton.1 hpiece]
        exact List.prefix_append _ _
      · rw [hread, hrest, List.append_nil, Text.pieces_of_notMem hwhole] at hpiece
        rw [List.mem_singleton.1 hpiece]
        exact List.prefix_append _ _
    | cons second more =>
      have hmore := ih (List.cons_ne_nil _ _) fun name hname =>
        hnames name (List.mem_cons_of_mem _ hname)
      have hjoin : (Text.join "," (first :: second :: more)).toList ++ rest
          = start ++ name ++ ',' :: ((Text.join "," (second :: more)).toList ++ rest) := by
        rw [Text.join_cons _ _ (List.cons_ne_nil _ _), String.toList_append, String.toList_append,
          hfirst]
        simp
      rw [hjoin] at hpiece
      rcases beforeSlash_name hslash name
        (',' :: ((Text.join "," (second :: more)).toList ++ rest)) with hread | hread
      · rw [hread, hcut] at hpiece
        rw [List.mem_singleton.1 hpiece]
        exact List.prefix_append _ _
      · -- the whole name is read, and then the others
        rw [hread, beforeSlash_cons (by decide), Text.pieces_append_sep hwhole] at hpiece
        rcases List.mem_cons.1 hpiece with rfl | hpiece
        · exact List.prefix_append _ _
        · exact hmore piece hpiece

/-- The names that a path goes to: what stands between commas, before the first slash. -/
def pathNames (path : String) : List String :=
  (Text.pieces ',' (beforeSlash path.toList)).map String.ofList

theorem pathNames_ne_nil (path : String) : pathNames path ≠ [] := by
  unfold pathNames
  rw [Ne, List.map_eq_nil_iff]
  exact Text.pieces_ne_nil _ _

/-- **A path under names of a deployment goes to names with its alias in front, and nowhere else.** -/
theorem startsWith_of_mem_pathNames {clusterAlias text path : String} (hne : clusterAlias ≠ "")
    (hcomma : ',' ∉ clusterAlias.toList) (hslash : '/' ∉ clusterAlias.toList)
    (htext : Addressed clusterAlias text) (hpath : IsUnder text path) :
    ∀ name ∈ pathNames path, Text.startsWith name (clusterAlias ++ aliasSeparator) = true := by
  obtain ⟨names, hnil, hnames, rfl⟩ := htext
  obtain ⟨rest, hchars, hrest⟩ := hpath.exists_rest
  have hseparator : aliasSeparator.toList = ['_'] := rfl
  have hcomma' : ',' ∉ (clusterAlias ++ aliasSeparator).toList := by
    rw [String.toList_append, hseparator]
    simpa using hcomma
  have hslash' : '/' ∉ (clusterAlias ++ aliasSeparator).toList := by
    rw [String.toList_append, hseparator]
    simpa using hslash
  have howned : ∀ name ∈ names,
      ∃ cs, name.toList = (clusterAlias ++ aliasSeparator).toList ++ cs ∧ ',' ∉ cs := by
    intro name hname
    obtain ⟨bare, rfl, hbare⟩ := hnames name hname
    refine ⟨bare.toList, ?_, hbare⟩
    rw [withClusterAlias_of_ne hne, String.toList_append]
  intro name hname
  obtain ⟨piece, hpiece, rfl⟩ := List.mem_map.1 hname
  rw [hchars] at hpiece
  have hstart := isPrefix_of_mem_pieces hcomma' hslash' hnil howned hrest piece hpiece
  unfold Text.startsWith
  rw [String.toList_ofList]
  exact List.isPrefixOf_iff_prefix.2 hstart

example : pathNames "acme_table,acme_page/_doc/a,b" = ["acme_table", "acme_page"] := by decide

/-! ## §4. Where the names come from. -/

/-- No name of the mapping holds a comma. -/
def IndexMapping.CommaFree (m : IndexMapping) : Prop :=
  ∀ name ∈ m.indexName :: m.aliasName :: (m.parentAliases ++ m.childAliases), ',' ∉ name.toList

namespace IndexMapping.CommaFree

variable {m : IndexMapping} (h : m.CommaFree) (clusterAlias : String)

include h

theorem ownName_index : OwnName clusterAlias (m.index clusterAlias) :=
  ⟨m.indexName, rfl, h _ List.mem_cons_self⟩

theorem ownName_allAliases : ∀ name ∈ m.allAliases clusterAlias, OwnName clusterAlias name := by
  intro name hname
  unfold IndexMapping.allAliases at hname
  rcases List.mem_append.1 hname with hown | hparent
  · split at hown
    · cases hown
    · rw [List.mem_singleton.1 hown]
      exact ⟨m.aliasName, rfl, h _ (List.mem_cons_of_mem _ List.mem_cons_self)⟩
  · obtain ⟨parent, hmem, rfl⟩ := List.mem_map.1 hparent
    refine ⟨parent, rfl, h _ ?_⟩
    exact List.mem_cons_of_mem _ (List.mem_cons_of_mem _ (List.mem_append_left _ hmem))

theorem ownName_children : ∀ name ∈ m.children clusterAlias, OwnName clusterAlias name := by
  intro name hname
  obtain ⟨child, hchild, rfl⟩ := List.mem_map.1 hname
  refine ⟨child, rfl, h _ ?_⟩
  exact List.mem_cons_of_mem _ (List.mem_cons_of_mem _ (List.mem_append_right _ hchild))

end IndexMapping.CommaFree

namespace Registry

/-- A mapping that is found is one of the registry. -/
theorem commaFree_of_require {r : Registry} (h : ∀ entry ∈ r.mappings, entry.2.CommaFree)
    {entityType : String} {m : IndexMapping} (hm : r.require entityType = .ok m) : m.CommaFree := by
  unfold require mapping? at hm
  cases hget : Keyed.get? r.mappings entityType with
  | none =>
    rw [hget] at hm
    cases hm
  | some found =>
    rw [hget] at hm
    cases hm
    exact h _ (Keyed.mem_of_get?_eq_some hget)

theorem ownName_index {r : Registry} (h : ∀ entry ∈ r.mappings, entry.2.CommaFree)
    {entityType name : String} (hname : r.index entityType = .ok name) :
    OwnName r.clusterAlias name := by
  obtain ⟨m, hm, rfl⟩ := Outcome.map_eq_ok hname
  exact (commaFree_of_require h hm).ownName_index _

/-- What callers name, with commas or without, is resolved to names of the deployment. -/
theorem addressed_resolve {r : Registry} (hne : r.clusterAlias ≠ "") (names : String) :
    Addressed r.clusterAlias (r.resolve names) := by
  refine ⟨(Text.split ',' names).map fun name => r.clusterAlias ++ aliasSeparator ++ Text.trim name,
    ?_, ?_, ?_⟩
  · unfold Text.split
    rw [Ne, List.map_eq_nil_iff, List.map_eq_nil_iff]
    exact Text.pieces_ne_nil _ _
  · intro name hname
    obtain ⟨piece, hpiece, rfl⟩ := List.mem_map.1 hname
    obtain ⟨cs, hcs, rfl⟩ := List.mem_map.1 hpiece
    refine ⟨Text.trim (String.ofList cs), (withClusterAlias_of_ne hne _).symm, fun hcomma => ?_⟩
    -- the commas are where the list was cut, and trimming adds none
    have hmem := Text.mem_of_mem_trim hcomma
    rw [String.toList_ofList] at hmem
    exact Text.notMem_of_mem_pieces hcs hmem
  · unfold resolve
    rw [if_neg fun hempty => hne (String.isEmpty_iff.1 hempty)]

end Registry

end CatalogIndex
