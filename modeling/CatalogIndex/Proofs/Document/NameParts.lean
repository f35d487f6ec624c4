/-
  CatalogIndex.Proofs.Document.NameParts — a document is found under every name above its own.

  The pieces of a name are collected in one pass over its segments, while the names above it are found by
  cutting and putting together again, one step at a time.  Both are starts of the name, so nothing above
  an entity is missing among the pieces that its document stores; and the depth that is stored beside
  them is the number of its segments, which is how many steps there are.

  ## Main definitions

    * `Covers` — what a list of pieces has to hold.

  ## Main results

    * `mem_nameParts` — the pieces, said without the pass that collects them;
    * `get?_build_names` — a built document stores the pieces and the depth;
    * `nameParts_cover` — the pieces cover the names above, and the depth counts them.
-/
import CatalogIndex.Proofs.Document.Build
import CatalogIndex.Proofs.Name.Ancestry

namespace CatalogIndex

namespace Suggestion

/-! ## §1. The pieces of a name. -/

/-- The pieces for one segment of a name: the segment, its bare form, and the name up to and from it. -/
def piecesAt (before : List String) (segment : String) (after : List String) : List String :=
  [segment, Name.unquote segment, Name.build (before ++ [segment]), Name.build (segment :: after)]

/-- Each segment has its pieces, and there are no others. -/
theorem mem_segmentParts {before parts : List String} {piece : String} :
    piece ∈ segmentParts before parts ↔ ∃ passed segment after, parts = passed ++ segment :: after
      ∧ piece ∈ piecesAt (before ++ passed) segment after := by
  induction parts generalizing before with
  | nil => simp [segmentParts]
  | cons head rest ih =>
    have hparts : segmentParts before (head :: rest)
        = piecesAt before head rest ++ segmentParts (before ++ [head]) rest := rfl
    rw [hparts, List.mem_append, ih]
    constructor
    · rintro (hhead | ⟨passed, segment, after, rfl, hpiece⟩)
      · exact ⟨[], head, rest, rfl, by rwa [List.append_nil]⟩
      · refine ⟨head :: passed, segment, after, rfl, ?_⟩
        rwa [List.append_assoc] at hpiece
    · rintro ⟨passed, segment, after, hsplit, hpiece⟩
      cases passed with
      | nil =>
        cases hsplit
        rw [List.append_nil] at hpiece
        exact Or.inl hpiece
      | cons first passed =>
        cases hsplit
        refine Or.inr ⟨passed, segment, after, rfl, ?_⟩
        rwa [List.append_assoc]

variable {fqn piece : String} {suggestions : List Suggestion}

/-- **The pieces of a name**: the name, the pieces for each of its segments, and the texts of the
    suggestions, as far as they are not empty. -/
theorem mem_nameParts : piece ∈ nameParts fqn suggestions ↔ piece ≠ ""
    ∧ (piece = fqn
      ∨ (∃ before segment after, Name.split fqn = before ++ segment :: after
          ∧ piece ∈ piecesAt before segment after)
      ∨ ∃ s ∈ suggestions, s.input = piece) := by
  unfold nameParts
  rw [Keyed.mem_distinct, List.mem_filter, List.mem_append, List.mem_cons, mem_segmentParts,
    List.mem_map, or_assoc, and_comm]
  simp

/-- The name up to a segment is a piece. -/
theorem start_mem_nameParts {m : Nat} (hm : m < (Name.split fqn).length)
    (hne : Name.build ((Name.split fqn).take (m + 1)) ≠ "") (suggestions : List Suggestion) :
    Name.build ((Name.split fqn).take (m + 1)) ∈ nameParts fqn suggestions := by
  refine mem_nameParts.2 ⟨hne, Or.inr (Or.inl ?_)⟩
  refine ⟨(Name.split fqn).take m, (Name.split fqn)[m], (Name.split fqn).drop (m + 1), ?_, ?_⟩
  · rw [List.getElem_cons_drop, List.take_append_drop]
  · rw [List.take_succ_eq_append_getElem hm]
    simp [piecesAt]

/-- A segment that is not empty stands for a text that is not empty. -/
theorem unquote_ne_empty {segment : String} (h : segment ≠ "") : Name.unquote segment ≠ "" := by
  unfold Name.unquote
  split
  · rename_i inner hinner
    obtain ⟨-, hsome, -⟩ := Name.inner?_eq_some hinner
    intro hempty
    have hchars := congrArg String.toList hempty
    rw [String.toList_ofList] at hchars
    exact hsome hchars
  · exact h

/-! ## §2. What is stored. -/

/-- No builder adds suggestions where the pieces and the depth of the name are stored. -/
theorem standardBuilders_keep_names {b : Builder} (h : b ∈ Keyed.values standardBuilders) :
    ∀ e ∈ b.enrichments, e.target ≠ "fqnDepth" ∧ e.target ≠ "fqnParts" := by
  have hall : ∀ b ∈ Keyed.values standardBuilders, ∀ e ∈ b.enrichments,
      e.target ≠ "fqnDepth" ∧ e.target ≠ "fqnParts" := by decide +kernel
  exact hall b h

/-- **The document of an entity stores the pieces of its name, and how many segments the name has**,
    whatever fields of these names the entity has itself. -/
theorem get?_build_names {e : Entity}
    (htype : Keyed.contains standardBuilders e.entityType = true) :
    ∃ d, Builders.build standardBuilders e.indexable = .ok d
      ∧ Keyed.get? d.fields "fqnDepth" = some (.nat (Name.split e.fullyQualifiedName).length)
      ∧ Keyed.get? d.fields "fqnParts" = some (Json.strings
          (nameParts e.fullyQualifiedName (forEntity e.name e.fullyQualifiedName))) := by
  obtain ⟨b, hb⟩ := Option.isSome_iff_exists.1 htype
  have hmem : b ∈ Keyed.values standardBuilders :=
    List.mem_map.2 ⟨(e.entityType, b), Keyed.mem_of_get?_eq_some hb, rfl⟩
  have hkeep := standardBuilders_keep_names hmem
  obtain ⟨d, hd⟩ := b.build_ok (x := e.indexable) rfl
  refine ⟨d, (Builders.build_of_get? hb).trans hd, ?_, ?_⟩
  · rw [Builder.get?_build hd (by decide) fun enrichment he => (hkeep enrichment he).1,
      Builder.get?_plainFields]
    rfl
  · rw [Builder.get?_build hd (by decide) fun enrichment he => (hkeep enrichment he).2,
      Builder.get?_plainFields]
    rfl

/-! ## §3. What the pieces cover. -/

/-- The pieces are in order, each once and none of them empty; with them an entity is found under its
    name and every name above it, under each segment as it is written and as it reads, and under every
    text that the search box completes to. -/
structure Covers (fqn : String) (suggestions : List Suggestion) (pieces : List String) : Prop where
  ascending : pieces.Pairwise (· < ·)
  notEmpty : "" ∉ pieces
  ancestors : ∀ k name, Name.ancestor? fqn k = some name → name ≠ "" → name ∈ pieces
  segments : ∀ segment ∈ Name.split fqn, segment ≠ "" →
    segment ∈ pieces ∧ Name.unquote segment ∈ pieces
  suggested : ∀ s ∈ suggestions, s.input ≠ "" → s.input ∈ pieces

theorem covers_nameParts (fqn : String) (suggestions : List Suggestion) :
    Covers fqn suggestions (nameParts fqn suggestions) where
  ascending := Keyed.pairwise_distinct _
  notEmpty hempty := (mem_nameParts.1 hempty).1 rfl
  ancestors k name hname hne := by
    obtain ⟨m, hm, rfl⟩ := Name.exists_start_of_ancestor? hname hne
    exact start_mem_nameParts hm hne suggestions
  segments segment hsegment hne := by
    obtain ⟨before, after, hsplit⟩ := List.append_of_mem hsegment
    have hpiece : ∀ piece ∈ piecesAt before segment after, piece ≠ "" →
        piece ∈ nameParts fqn suggestions := fun piece hpiece hpieceNe =>
      mem_nameParts.2 ⟨hpieceNe, Or.inr (Or.inl ⟨before, segment, after, hsplit, hpiece⟩)⟩
    exact ⟨hpiece segment (by simp [piecesAt]) hne,
      hpiece _ (by simp [piecesAt]) (unquote_ne_empty hne)⟩
  suggested s hs hne := mem_nameParts.2 ⟨hne, Or.inr (Or.inr ⟨s, hs, rfl⟩)⟩

/-- **The pieces of a name cover all names above it, and the stored depth counts them.**  From any name
    there are as many steps up as it has segments, less one; the number of segments is what the document
    of an entity of that name stores.  Whatever is suggested besides, all names on the way, and all
    segments, are among the pieces. -/
theorem nameParts_cover (fqn : String) (suggestions : List Suggestion) :
    (∀ k, (Name.ancestor? fqn k).isSome = true ↔ k ≤ max (Name.split fqn).length 1 - 1)
      ∧ (∀ e : Entity, e.fullyQualifiedName = fqn →
          Keyed.contains standardBuilders e.entityType = true →
          ∃ d, Builders.build standardBuilders e.indexable = .ok d
            ∧ Keyed.get? d.fields "fqnDepth" = some (.nat (Name.split fqn).length)
            ∧ Keyed.get? d.fields "fqnParts" = some (Json.strings
                (nameParts fqn (forEntity e.name fqn))))
      ∧ Covers fqn suggestions (nameParts fqn suggestions) := by
  refine ⟨Name.isSome_ancestor?_iff fqn, ?_, covers_nameParts fqn suggestions⟩
  rintro e rfl htype
  exact get?_build_names htype

/-- A table whose name opens a quote, in a schema with a dot in its name, below an empty name. -/
def quotedTable : Entity :=
  { id := .nil, entityType := "table", name := "\"orders.b", fullyQualifiedName := ".\"my.db\".\"orders.b"
    version := .zero, updatedAt := 1 }

/-- It has two names above it, of which the upper one is empty, and the other one is among its pieces. -/
theorem nameParts_cover_quoted :
    (Name.ancestor? ".\"my.db\".\"orders.b" 2).isSome = true
      ∧ (Name.ancestor? ".\"my.db\".\"orders.b" 3).isSome = false
      ∧ (∃ d, Builders.build standardBuilders quotedTable.indexable = .ok d
          ∧ Keyed.get? d.fields "fqnDepth" = some (.nat 3))
      ∧ ".\"my.db\"" ∈ nameParts ".\"my.db\".\"orders.b" [⟨"synonym", 5⟩]
      ∧ "my.db" ∈ nameParts ".\"my.db\".\"orders.b" [⟨"synonym", 5⟩]
      ∧ "synonym" ∈ nameParts ".\"my.db\".\"orders.b" [⟨"synonym", 5⟩] := by
  obtain ⟨hsteps, hstored, hcovers⟩ := nameParts_cover ".\"my.db\".\"orders.b" [⟨"synonym", 5⟩]
  have hdepth : (Name.split ".\"my.db\".\"orders.b").length = 3 := by decide +kernel
  rw [hdepth] at hsteps hstored
  obtain ⟨d, hd, hfield, -⟩ := hstored quotedTable rfl (by decide +kernel)
  have hlast : ¬ (Name.ancestor? ".\"my.db\".\"orders.b" 3).isSome = true := by
    rw [hsteps]
    decide
  refine ⟨(hsteps 2).2 (by decide), Bool.eq_false_iff.2 hlast, ⟨d, hd, hfield⟩, ?_, ?_, ?_⟩
  · exact hcovers.ancestors 1 _ (by decide +kernel) (by decide)
  · exact (hcovers.segments "\"my.db\"" (by decide +kernel) (by decide)).2
  · exact hcovers.suggested ⟨"synonym", 5⟩ List.mem_cons_self (by decide)

end Suggestion

end CatalogIndex
