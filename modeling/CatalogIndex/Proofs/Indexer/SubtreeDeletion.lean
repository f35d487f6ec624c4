/-
  CatalogIndex.Proofs.Indexer.SubtreeDeletion — which names go when a name and what is below it goes.

  Deleting by the start of a name sends one query, which compares texts: it selects every name that
  begins with the given one.  The names below it are among them, and so are names that merely go on
  behind its last character, like `Tier.Golden` behind `Tier.Gold`.  A rename asks for a dot there; this
  deletion does not.

  ## Main definitions

    * `Name.GoesOn` — a name that is longer within the last segment.

  ## Main results

    * `deletion_by_start` — what the deletion sends, and exactly which names it selects;
    * `golden_deleted_with_gold` — a sibling that is deleted.
-/
import CatalogIndex.Proofs.Indexer.Isolation
import CatalogIndex.Proofs.Query.Selection

namespace CatalogIndex

open Name

variable {σ : Type}

/-! ## §1. Names that begin with a name. -/

namespace Name

/-- The name goes on behind the last character of `start`, and not with a dot. -/
def GoesOn (start name : String) : Prop :=
  ∃ c rest, c ≠ '.' ∧ name = start ++ String.ofList (c :: rest)

theorem not_atOrBelow_of_goesOn {start name : String} (h : GoesOn start name) :
    ¬ AtOrBelow start name := by
  obtain ⟨c, rest, hc, rfl⟩ := h
  exact not_atOrBelow_of_append hc rest

/-- **A name begins with another one exactly if it is at or below it, or goes on within its last
    segment.** -/
theorem startsWith_iff_atOrBelow_or_goesOn {start name : String} :
    Text.startsWith name start = true ↔ AtOrBelow start name ∨ GoesOn start name := by
  rw [Text.startsWith_iff, atOrBelow_iff]
  constructor
  · rintro ⟨more, rfl⟩
    -- the first character of what follows decides: there is none, it is a dot, or it is another one
    have hmore : more = String.ofList more.toList := String.ofList_toList.symm
    cases hlist : more.toList with
    | nil =>
      left
      left
      rw [hmore, hlist]
      simp
    | cons c rest =>
      rw [hlist] at hmore
      by_cases hc : c = '.'
      · left
        right
        refine ⟨String.ofList rest, String.toList_injective ?_⟩
        rw [hmore, hc]
        simp
      · right
        exact ⟨c, rest, hc, by rw [hmore]⟩
  · rintro ((rfl | ⟨rest, rfl⟩) | ⟨c, rest, -, rfl⟩)
    · exact ⟨"", by simp⟩
    · exact ⟨"." ++ rest, by rw [String.append_assoc]⟩
    · exact ⟨_, rfl⟩

end Name

/-! ## §2. The request. -/

/-- A deletion by the start of a name sends one query to the index of the type, if the type has one. -/
theorem Indexing.sent_deleteByFqnStart (e : Entity) (i : Indexer σ) (s : Session σ) :
    ((Indexing.deleteByFqnStart e).run i s).2.link.sent
      = s.link.sent ++ ((i.registry.index e.entityType).toOption.map fun index =>
          Cluster.deleteByQueryRequest i.config.searchType [index]
            (Cluster.fqnStartQuery e.fullyQualifiedName)).toList := by
  unfold Indexing.deleteByFqnStart
  rw [Indexing.link_absorb]
  show (Attempt.run (Attempt.ask (·.registry.index e.entityType) >>= _) i s).2.link.sent = _
  rw [Attempt.run_ask_bind]
  cases i.registry.index e.entityType with
  | error reason => exact (List.append_nil _).symm
  | ok index =>
    have hasks := Cluster.asksOnce_deleteByQuery (σ := σ) i.config.searchType
      (Cluster.fqnStartQuery e.fullyQualifiedName) (List.cons_ne_nil index [])
    exact congrArg Link.sent (hasks i.backend s.link).1

/-! ## §3. What is deleted. -/

/-- **A deletion by the start of a name takes the names at or below it, and those that go on within its
    last segment.**  It sends one query; of the documents with a name as text, the query selects just
    these.  So it stays in the subtree of the name for exactly those names that do not go on. -/
theorem deletion_by_start (e : Entity) (i : Indexer σ) (s : Session σ)
    (hname : e.fullyQualifiedName ≠ "") (hquotes : Balanced e.fullyQualifiedName) :
    ((Indexing.deleteByFqnStart e).run i s).2.link.sent
        = s.link.sent ++ ((i.registry.index e.entityType).toOption.map fun index =>
            Cluster.deleteByQueryRequest i.config.searchType [index]
              (Cluster.fqnStartQuery e.fullyQualifiedName)).toList
      ∧ ∀ judge fields name, Keyed.get? fields "fullyQualifiedName" = some (.str name) →
        ((Cluster.fqnStartQuery e.fullyQualifiedName).selects judge (.obj fields) = true
            ↔ AtOrBelow e.fullyQualifiedName name ∨ GoesOn e.fullyQualifiedName name)
          ∧ (AtOrBelow e.fullyQualifiedName name ↔ split e.fullyQualifiedName <+: split name)
          ∧ (((Cluster.fqnStartQuery e.fullyQualifiedName).selects judge (.obj fields) = true
                ↔ AtOrBelow e.fullyQualifiedName name)
              ↔ ¬ GoesOn e.fullyQualifiedName name) := by
  refine ⟨Indexing.sent_deleteByFqnStart e i s, ?_⟩
  intro judge fields name hfield
  have hvalues : Json.valuesAt (.obj fields) (Text.split '.' "fullyQualifiedName") = [.str name] := by
    rw [show Text.split '.' "fullyQualifiedName" = ["fullyQualifiedName"] by decide]
    exact Json.valuesAt_field hfield
  have hselects : (Cluster.fqnStartQuery e.fullyQualifiedName).selects judge (.obj fields) = true
      ↔ AtOrBelow e.fullyQualifiedName name ∨ GoesOn e.fullyQualifiedName name := by
    unfold Cluster.fqnStartQuery
    rw [Query.selects_startsWith, hvalues, ← startsWith_iff_atOrBelow_or_goesOn]
    simp
  refine ⟨hselects, (split_isPrefix_iff hname hquotes name).symm, ?_⟩
  rw [hselects]
  constructor
  · intro h hgoes
    exact not_atOrBelow_of_goesOn hgoes (h.1 (Or.inr hgoes))
  · intro hnot
    exact ⟨fun h => h.resolve_right hnot, Or.inl⟩

/-- An indexer that knows tags, and a cluster that accepts everything. -/
def tagIndexer : Indexer Unit where
  config := {}
  registry :=
    { mappings := [("tag", { indexName := "tag_search_index", aliasName := "tag", indexMappingFile := "" })]
      clusterAlias := "", language := "en", schemaRoot := "" }
  fileText _ := none
  backend _ _ := (.ok { status := 200, body := .null }, ())

/-- The tag `Tier.Gold`. -/
def goldEntity : Entity :=
  { id := .nil, entityType := "tag", name := "Gold", fullyQualifiedName := "Tier.Gold"
    version := .zero, updatedAt := 1 }

/-- A tag below `Tier.Gold` is selected, and `Tier.Golden` is one that goes on. -/
theorem deletion_by_start_gold :
    (Cluster.fqnStartQuery "Tier.Gold").selects (fun _ _ => true)
        (.obj [("fullyQualifiedName", .str "Tier.Gold.Fine")]) = true
      ∧ ¬ ((Cluster.fqnStartQuery "Tier.Gold").selects (fun _ _ => true)
          (.obj [("fullyQualifiedName", .str "Tier.Golden")]) = true
        ↔ AtOrBelow "Tier.Gold" "Tier.Golden") := by
  obtain ⟨-, hnames⟩ := deletion_by_start goldEntity tagIndexer { link := { state := () } }
    (by decide) (by decide)
  constructor
  · exact (hnames _ _ "Tier.Gold.Fine" rfl).1.2 (Or.inl (by decide))
  · intro h
    exact (hnames _ _ "Tier.Golden" rfl).2.2.1 h ⟨'e', ['n'], by decide, by decide⟩

/-- **A sibling is deleted with a tag**: the query that is sent for `Tier.Gold` selects a document with
    the name `Tier.Golden`, which is neither that name nor below it. -/
theorem golden_deleted_with_gold :
    "Tier.Gold" ≠ "" ∧ Balanced "Tier.Gold"
      ∧ ((Indexing.deleteByFqnStart goldEntity).run tagIndexer { link := { state := () } }).2.link.sent
        = [Cluster.deleteByQueryRequest .elasticsearch ["tag_search_index"]
            (Cluster.fqnStartQuery "Tier.Gold")]
      ∧ (Cluster.fqnStartQuery "Tier.Gold").selects (fun _ _ => true)
          (.obj [("fullyQualifiedName", .str "Tier.Golden")]) = true
      ∧ ¬ AtOrBelow "Tier.Gold" "Tier.Golden" ∧ ¬ split "Tier.Gold" <+: split "Tier.Golden" := by
  refine ⟨by decide, by decide, ?_, by decide +kernel, by decide, by decide⟩
  rw [Indexing.sent_deleteByFqnStart]
  rfl

end CatalogIndex
