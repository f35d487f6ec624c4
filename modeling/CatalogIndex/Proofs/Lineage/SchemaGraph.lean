/-
  CatalogIndex.Proofs.Lineage.SchemaGraph — the graph of a schema as a union.

  The tables of a schema are listed by one search, and the graphs around them are merged one after the
  other.  A walk around a table never makes that search again, and does not look at what was merged before,
  so its graph is the same wherever the table stands in the list, and however often.  The merged graph has
  the nodes and edges of all these graphs, in order; it therefore depends on which tables are listed only.

  Where two of the graphs have different documents under one name, the first one merged stays.  Only the
  names of the nodes are known, then, and not the documents.

  ## Main definitions

    * `Agree` — two kinds of searches with the same answers for a walk;
    * `Relisted` — the same tables, in any order and any number of times;
    * `UnionOf` — a graph put together from the graphs of some names.

  ## Main results

    * `traverse_congr` — which answers a walk depends on;
    * `UnionOf.merge` — the step: one table more;
    * `traverseSchema_union` — the graph of a schema, for two lists of the same tables.
-/
import CatalogIndex.Proofs.Lineage.Merging
import CatalogIndex.Proofs.Lineage.WellFormed

namespace CatalogIndex.Lineage

/-! ## §1. What a walk depends on. -/

section Agreement

variable {m : Type → Type} [Monad m] {r : LineageRequest} {fetch fetch' : Query → m (List Fields)}

/-- The searches of a walk have the same answers. -/
structure Agree (r : LineageRequest) (fetch fetch' : Query → m (List Fields)) : Prop where
  root : fetch (rootQuery r) = fetch' (rootQuery r)
  node : ∀ fqn, fetch (nodeQuery r fqn) = fetch' (nodeQuery r fqn)
  child : ∀ fqn, fetch (childQuery r fqn) = fetch' (childQuery r fqn)

theorem Agree.ancestorLevel (h : Agree r fetch fetch') :
    ancestorLevel r fetch = ancestorLevel r fetch' := by
  have hedge : ancestorEdge r fetch = ancestorEdge r fetch' := by
    unfold ancestorEdge
    simp only [h.node]
  have hnode : ancestorNode r fetch = ancestorNode r fetch' := by
    unfold ancestorNode
    rw [hedge]
  unfold Lineage.ancestorLevel
  rw [hnode]

theorem Agree.ancestorWalk (h : Agree r fetch fetch') (depth : Nat) :
    ancestorWalk r fetch depth = ancestorWalk r fetch' depth := by
  -- on the number of levels left; the graph and the frontier change from level to level
  induction depth with
  | zero => rfl
  | succ depth ih =>
    funext g frontier
    unfold Lineage.ancestorWalk
    rw [h.ancestorLevel, ih]

theorem Agree.descendantLevel (h : Agree r fetch fetch') :
    descendantLevel r fetch = descendantLevel r fetch' := by
  have hnode : descendantNode r fetch = descendantNode r fetch' := by
    unfold descendantNode
    simp only [h.child]
  unfold Lineage.descendantLevel
  rw [hnode]

theorem Agree.descendantWalk (h : Agree r fetch fetch') (depth : Nat) :
    descendantWalk r fetch depth = descendantWalk r fetch' depth := by
  induction depth with
  | zero => rfl
  | succ depth ih =>
    funext w frontier
    unfold Lineage.descendantWalk
    rw [h.descendantLevel, ih]

/-- **A walk depends on the answers to its own searches only.** -/
theorem traverse_congr (h : Agree r fetch fetch') : traverse r fetch = traverse r fetch' := by
  unfold traverse
  rw [h.root, h.ancestorWalk, h.descendantWalk]

end Agreement

/-! ## §2. The tables of a schema. -/

/-- The search for the tables of the schema. -/
def tablesQuery (r : LineageRequest) : Query :=
  limited r (Query.textTerm "databaseSchema.fullyQualifiedName" r.fqn)

/-- A table of this name is listed. -/
def IsTable (r : LineageRequest) (fetch : Query → Outcome (List Fields)) (fqn : String) : Prop :=
  ∃ docs, fetch (tablesQuery r) = .ok docs ∧ ∃ doc ∈ docs, fqnOf? doc = some fqn

/-- The same tables are listed, in any order and any number of times; all other searches have the same
    answers. -/
structure Relisted (r : LineageRequest) (fetch fetch' : Query → Outcome (List Fields)) : Prop where
  others : ∀ q, q ≠ tablesQuery r → fetch q = fetch' q
  tables : (∃ e, fetch (tablesQuery r) = .error e ∧ fetch' (tablesQuery r) = .error e)
    ∨ ∃ docs docs', fetch (tablesQuery r) = .ok docs ∧ fetch' (tablesQuery r) = .ok docs'
      ∧ ∀ doc, doc ∈ docs ↔ doc ∈ docs'

variable {r : LineageRequest} {fetch fetch' : Query → Outcome (List Fields)}

/-- No walk makes the search for the tables. -/
theorem Relisted.agree (h : Relisted r fetch fetch') (fqn : String) :
    Agree (tableRequest r fqn) fetch fetch' where
  -- the searches of a walk compare other fields than the schema of a table
  root := h.others _ fun heq => absurd (limitedWith_textTerm_inj heq).1 (by decide)
  node _ := h.others _ fun heq => absurd (limitedWith_textTerm_inj heq).1 (by decide)
  child _ := by
    refine h.others _ fun heq => absurd (limitedWith_textTerm_inj heq).1 ?_
    show ¬ r.kind.edgeField ++ ".fromEntity.fullyQualifiedName" = "databaseSchema.fullyQualifiedName"
    cases r.kind <;> decide

theorem Relisted.traverse_eq (h : Relisted r fetch fetch') (fqn : String) :
    traverse (tableRequest r fqn) fetch = traverse (tableRequest r fqn) fetch' :=
  traverse_congr (h.agree fqn)

theorem Relisted.isTable_iff (h : Relisted r fetch fetch') (fqn : String) :
    IsTable r fetch fqn ↔ IsTable r fetch' fqn := by
  unfold IsTable
  rcases h.tables with ⟨e, hfail, hfail'⟩ | ⟨docs, docs', hdocs, hdocs', hsame⟩
  · simp [hfail, hfail']
  · simp [hdocs, hdocs', hsame]

/-! ## §3. Unions. -/

/-- The graph has the nodes and edges of the graphs of some names, and nothing else. -/
structure UnionOf (graph : String → Outcome LineageGraph) (named : String → Prop) (g : LineageGraph) :
    Prop where
  entity : g.entity = none
  nodes : ∀ x, Keyed.contains g.nodes x = true
    ↔ ∃ fqn, named fqn ∧ ∃ t, graph fqn = .ok t ∧ Keyed.contains t.nodes x = true
  ancestorEdges : ∀ e, e ∈ g.ancestorEdges
    ↔ ∃ fqn, named fqn ∧ ∃ t, graph fqn = .ok t ∧ e ∈ t.ancestorEdges
  descendantEdges : ∀ e, e ∈ g.descendantEdges
    ↔ ∃ fqn, named fqn ∧ ∃ t, graph fqn = .ok t ∧ e ∈ t.descendantEdges

namespace UnionOf

variable {graph : String → Outcome LineageGraph} {named : String → Prop} {g g' : LineageGraph}

theorem empty (graph : String → Outcome LineageGraph) : UnionOf graph (· ∈ []) {} := by
  refine ⟨rfl, ?_, ?_, ?_⟩ <;> simp [Keyed.contains]

/-- What is found in one of the graphs, with one graph more. -/
theorem exists_append_iff {done : List String} {fqn : String} {t : LineageGraph}
    (ht : graph fqn = .ok t) (P : LineageGraph → Prop) :
    (∃ x, x ∈ done ++ [fqn] ∧ ∃ t, graph x = .ok t ∧ P t)
      ↔ (∃ x, x ∈ done ∧ ∃ t, graph x = .ok t ∧ P t) ∨ P t := by
  constructor
  · rintro ⟨x, hx, t', ht', hfound⟩
    rcases List.mem_append.1 hx with hold | hnew
    · exact Or.inl ⟨x, hold, t', ht', hfound⟩
    · rw [List.mem_singleton.1 hnew, ht] at ht'
      cases ht'
      exact Or.inr hfound
  · rintro (⟨x, hx, hfound⟩ | hfound)
    · exact ⟨x, List.mem_append_left _ hx, hfound⟩
    · exact ⟨fqn, List.mem_append_right _ (List.mem_singleton_self fqn), t, ht, hfound⟩

/-- **One graph more.** -/
theorem merge {done : List String} (h : UnionOf graph (· ∈ done) g) {fqn : String} {t : LineageGraph}
    (ht : graph fqn = .ok t) : UnionOf graph (· ∈ done ++ [fqn]) (g.merge t) where
  entity := h.entity
  nodes x := by
    rw [LineageGraph.contains_merge, h.nodes, exists_append_iff ht]
  ancestorEdges e := by
    show e ∈ LineageEdge.union g.ancestorEdges t.ancestorEdges ↔ _
    rw [LineageEdge.mem_union, h.ancestorEdges, exists_append_iff ht]
  descendantEdges e := by
    show e ∈ LineageEdge.union g.descendantEdges t.descendantEdges ↔ _
    rw [LineageEdge.mem_union, h.descendantEdges, exists_append_iff ht]

theorem congr (h : UnionOf graph named g) {named' : String → Prop}
    (hnamed : ∀ fqn, named fqn ↔ named' fqn) : UnionOf graph named' g := by
  obtain rfl : named = named' := funext fun fqn => propext (hnamed fqn)
  exact h

/-- Two unions of the same graphs have the same nodes. -/
theorem keys_eq (h : UnionOf graph named g) (h' : UnionOf graph named g') (hg : g.Ordered)
    (hg' : g'.Ordered) : Keyed.keys g.nodes = Keyed.keys g'.nodes :=
  Keyed.keys_eq_of_contains_iff hg.nodes hg'.nodes fun x => (h.nodes x).trans (h'.nodes x).symm

theorem ancestorEdges_eq (h : UnionOf graph named g) (h' : UnionOf graph named g') (hg : g.Ordered)
    (hg' : g'.Ordered) : g.ancestorEdges = g'.ancestorEdges :=
  hg.ancestorEdges.eq_of_mem_iff hg'.ancestorEdges fun e =>
    (h.ancestorEdges e).trans (h'.ancestorEdges e).symm

theorem descendantEdges_eq (h : UnionOf graph named g) (h' : UnionOf graph named g') (hg : g.Ordered)
    (hg' : g'.Ordered) : g.descendantEdges = g'.descendantEdges :=
  hg.descendantEdges.eq_of_mem_iff hg'.descendantEdges fun e =>
    (h.descendantEdges e).trans (h'.descendantEdges e).symm

end UnionOf

/-! ## §4. The graph of a schema. -/

/-- The walks around the tables, after the list of them was found. -/
theorem traverseSchema_of_tables {docs : List Fields} (h : fetch (tablesQuery r) = .ok docs) :
    traverseSchema r fetch = (docs.filterMap fqnOf?).foldlM
      (fun g fqn => traverse (tableRequest r fqn) fetch >>= fun t => pure (g.merge t)) {} := by
  show (fetch (tablesQuery r) >>= _) = _
  rw [h]
  rfl

theorem isTable_of_tables {docs : List Fields} (h : fetch (tablesQuery r) = .ok docs) (fqn : String) :
    IsTable r fetch fqn ↔ fqn ∈ docs.filterMap fqnOf? := by
  unfold IsTable
  rw [h, List.mem_filterMap]
  simp

/-- The graph of a schema is there exactly if the list of the tables is, and the graph of each table. -/
theorem exists_traverseSchema_iff :
    (∃ g, traverseSchema r fetch = .ok g) ↔ (∃ docs, fetch (tablesQuery r) = .ok docs)
      ∧ ∀ fqn, IsTable r fetch fqn → ∃ t, traverse (tableRequest r fqn) fetch = .ok t := by
  constructor
  · rintro ⟨g, h⟩
    obtain ⟨docs, hdocs, -⟩ := Outcome.bind_eq_ok h
    rw [traverseSchema_of_tables hdocs] at h
    refine ⟨⟨docs, hdocs⟩, fun fqn hfqn => ?_⟩
    exact Outcome.exists_foldlM_eq_ok_iff.1 ⟨g, h⟩ fqn ((isTable_of_tables hdocs fqn).1 hfqn)
  · rintro ⟨⟨docs, hdocs⟩, hgraphs⟩
    rw [traverseSchema_of_tables hdocs]
    refine Outcome.exists_foldlM_eq_ok_iff.2 fun fqn hfqn => ?_
    exact hgraphs fqn ((isTable_of_tables hdocs fqn).2 hfqn)

/-- **The graph of a schema is the union of those of its tables**, in order. -/
theorem unionOf_traverseSchema {g : LineageGraph} (h : traverseSchema r fetch = .ok g) :
    UnionOf (fun fqn => traverse (tableRequest r fqn) fetch) (IsTable r fetch) g ∧ g.Ordered := by
  obtain ⟨docs, hdocs, -⟩ := Outcome.bind_eq_ok h
  rw [traverseSchema_of_tables hdocs] at h
  -- a step merges one graph more; the order is kept along, as it makes the union known from its members
  obtain ⟨hunion, hordered⟩ := Outcome.foldlM_keeps
    (P := fun done g => UnionOf (fun fqn => traverse (tableRequest r fqn) fetch) (· ∈ done) g
      ∧ g.Ordered) (by
        rintro done fqn g g' ⟨hunion, hordered⟩ hstep
        obtain ⟨t, ht, hstep⟩ := Outcome.bind_eq_ok hstep
        cases hstep
        exact ⟨hunion.merge ht, hordered.merge t⟩)
    ⟨UnionOf.empty _, LineageGraph.ordered_empty⟩ h
  exact ⟨hunion.congr fun fqn => (isTable_of_tables hdocs fqn).symm, hordered⟩

theorem Relisted.exists_traverseSchema_iff (h : Relisted r fetch fetch') :
    (∃ g, traverseSchema r fetch = .ok g) ↔ ∃ g, traverseSchema r fetch' = .ok g := by
  have htables : (∃ docs, fetch (tablesQuery r) = .ok docs)
      ↔ ∃ docs, fetch' (tablesQuery r) = .ok docs := by
    rcases h.tables with ⟨e, hfail, hfail'⟩ | ⟨docs, docs', hdocs, hdocs', -⟩
    · simp [hfail, hfail']
    · simp [hdocs, hdocs']
  simp only [Lineage.exists_traverseSchema_iff, htables, h.isTable_iff, h.traverse_eq]

/-- **The graph of a schema depends on its tables only, and not on how they are listed.**  Of two lists of
    the same tables, either both fail or both give the union of the graphs around the tables: a graph
    without an entity, with the same names of nodes and the same edges.  It fails only if the list or the
    walk around one of the tables does.  Merging any graph into another one for a second time changes
    nothing. -/
theorem traverseSchema_union (h : Relisted r fetch fetch') :
    ((∃ e, traverseSchema r fetch = .error e) ∧ (∃ e, traverseSchema r fetch' = .error e)
      ∨ ∃ g g', traverseSchema r fetch = .ok g ∧ traverseSchema r fetch' = .ok g'
        ∧ g.entity = none ∧ g'.entity = none ∧ Keyed.keys g.nodes = Keyed.keys g'.nodes
        ∧ g.ancestorEdges = g'.ancestorEdges ∧ g.descendantEdges = g'.descendantEdges
        ∧ UnionOf (fun fqn => traverse (tableRequest r fqn) fetch) (IsTable r fetch) g)
      ∧ ((∃ g, traverseSchema r fetch = .ok g) ↔ (∃ docs, fetch (tablesQuery r) = .ok docs)
        ∧ ∀ fqn, IsTable r fetch fqn → ∃ t, traverse (tableRequest r fqn) fetch = .ok t)
      ∧ ∀ (g other : LineageGraph) (between : List LineageGraph),
        (between.foldl LineageGraph.merge (g.merge other)).merge other
          = between.foldl LineageGraph.merge (g.merge other) := by
  refine ⟨?_, exists_traverseSchema_iff, LineageGraph.merge_again⟩
  cases hrun : traverseSchema r fetch with
  | error e =>
    refine Or.inl ⟨⟨e, rfl⟩, ?_⟩
    cases hrun' : traverseSchema r fetch' with
    | error e' => exact ⟨e', rfl⟩
    | ok g' =>
      obtain ⟨g, hg⟩ := h.exists_traverseSchema_iff.2 ⟨g', hrun'⟩
      rw [hrun] at hg
      cases hg
  | ok g =>
    obtain ⟨g', hrun'⟩ := h.exists_traverseSchema_iff.1 ⟨g, hrun⟩
    obtain ⟨hunion, hordered⟩ := unionOf_traverseSchema hrun
    obtain ⟨hunion', hordered'⟩ := unionOf_traverseSchema hrun'
    -- the other list has the same tables and the same walks, so its graph is a union of the same graphs
    simp only [← h.traverse_eq] at hunion'
    replace hunion' := hunion'.congr fun fqn => (h.isTable_iff fqn).symm
    exact Or.inr ⟨g, g', rfl, hrun', hunion.entity, hunion'.entity,
      hunion.keys_eq hunion' hordered hordered', hunion.ancestorEdges_eq hunion' hordered hordered',
      hunion.descendantEdges_eq hunion' hordered hordered', hunion⟩

open Classical in
/-- Searches that list the tables of a schema backwards, and then once more. -/
noncomputable def relisting (r : LineageRequest) (fetch : Query → Outcome (List Fields)) (q : Query) :
    Outcome (List Fields) :=
  if q = tablesQuery r then (fetch q).map fun docs => docs.reverse ++ docs else fetch q

theorem relisted_relisting (r : LineageRequest) (fetch : Query → Outcome (List Fields)) :
    Relisted r fetch (relisting r fetch) where
  others _ hq := (if_neg hq).symm
  tables := by
    have hlist : relisting r fetch (tablesQuery r)
        = (fetch (tablesQuery r)).map fun docs => docs.reverse ++ docs := if_pos rfl
    rw [hlist]
    cases fetch (tablesQuery r) with
    | error e => exact Or.inl ⟨e, rfl, rfl⟩
    | ok docs => exact Or.inr ⟨docs, docs.reverse ++ docs, rfl, rfl, by simp⟩

/-- A document of a table in the given schema. -/
def tableIn (schema name : String) (related : List String) : Fields :=
  [("databaseSchema", .object [("fullyQualifiedName", .str schema)]), ("fullyQualifiedName", .str name),
    ("upstreamEntityRelationship", .arr (related.map fun source =>
      .object [("fromEntity", .object [("fullyQualifiedName", .str source)])]))]

/-- Two tables of one schema, the first related to the second, and one of another schema. -/
def salesTables : List Fields :=
  [tableIn "db.sales" "db.sales.orders" ["db.sales.customers"],
    tableIn "db.sales" "db.sales.customers" [], tableIn "db.hr" "db.hr.staff" []]

/-- One level in both directions, for the relationships of the schema. -/
def salesRequest : LineageRequest :=
  { fqn := "db.sales", ancestorDepth := 1, descendantDepth := 1, kind := .schemaEntityRelationship }

/-- The graph of the schema, listed another way, has the two tables and the edge between them. -/
theorem traverseSchema_union_sales :
    ∃ g, traverseSchema salesRequest (relisting salesRequest (searching salesTables)) = .ok g
      ∧ g.entity = none ∧ Keyed.keys g.nodes = ["db.sales.customers", "db.sales.orders"]
      ∧ g.ancestorEdges = [⟨"db.sales.customers", "db.sales.orders"⟩]
      ∧ g.descendantEdges = [⟨"db.sales.customers", "db.sales.orders"⟩] := by
  have hrun : (traverseSchema salesRequest (searching salesTables)).toOption.map (fun g =>
      (Keyed.keys g.nodes, g.ancestorEdges, g.descendantEdges))
      = some (["db.sales.customers", "db.sales.orders"],
        [⟨"db.sales.customers", "db.sales.orders"⟩], [⟨"db.sales.customers", "db.sales.orders"⟩]) := by
    decide +kernel
  obtain ⟨g, hg, hparts⟩ := Outcome.eq_ok_of_toOption_map hrun
  obtain ⟨hkeys, hedges⟩ := Prod.mk.inj hparts
  obtain ⟨hancestors, hdescendants⟩ := Prod.mk.inj hedges
  rcases (traverseSchema_union (relisted_relisting salesRequest (searching salesTables))).1 with
    ⟨⟨e, hfail⟩, -⟩ | ⟨g₁, g', hg₁, hg', -, hentity, hkeys', hancestors', hdescendants', -⟩
  · rw [hg] at hfail
    cases hfail
  · rw [hg] at hg₁
    cases hg₁
    exact ⟨g', hg', hentity, hkeys'.symm.trans hkeys, hancestors'.symm.trans hancestors,
      hdescendants'.symm.trans hdescendants⟩

end CatalogIndex.Lineage
