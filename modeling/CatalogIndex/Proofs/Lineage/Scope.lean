/-
  CatalogIndex.Proofs.Lineage.Scope — the conditions under which a walk searches.

  A walk searches at many places: for the entity, for the sources of edges, for children, and for a schema
  once more around every table.  Each search has to carry the conditions of the request; a single one
  without them would let deleted documents into a graph, or such as the filter leaves out.  So every search
  of a walk is shown to be `Scoped`, whatever the answers and whether or not the walk fails.

  A node of the graph is a document that one of these searches gave.  What is known of all documents that
  scoped searches give is therefore known of all nodes, and with a service that honours its queries that
  is that they are admitted.

  ## Main definitions

    * `Scoped` — a search under the conditions of a request;
    * `Honours` — a service gives nothing but what a query selects;
    * `Admitted` — a document that the conditions of a request let through.

  ## Main results

    * `ensures_traverse_scoped` — the searches and the nodes of one walk;
    * `searches_scoped` — the searches of all walks, and what follows for their graphs.
-/
import CatalogIndex.Proofs.Lineage.Descendants
import CatalogIndex.Proofs.Lineage.Histories

namespace CatalogIndex

namespace Lineage

variable {σ : Type} {r : LineageRequest} {service : Service σ}

/-! ## §1. Scoped searches. -/

/-- A search for a text in a field, other than the type of the entity, under the conditions of the
    request: nothing deleted unless it is asked for, what the filter of the request lets through, and
    `more`. -/
def Scoped (r : LineageRequest) (more : List Query) (q : Query) : Prop :=
  ∃ field text, field ≠ "entityType"
    ∧ q = .bool [.textTerm field text] []
        (if r.includeDeleted then [] else [.term "deleted" (.bool true)])
        ((r.queryFilter.map .raw).toList ++ more)

theorem scoped_rootQuery (r : LineageRequest) :
    Scoped r (r.entityType.map (Query.textTerm "entityType")).toList (rootQuery r) :=
  ⟨"fullyQualifiedName", r.fqn, by decide, rfl⟩

theorem scoped_nodeQuery (r : LineageRequest) (fqn : String) : Scoped r [] (nodeQuery r fqn) :=
  ⟨"fullyQualifiedName", fqn, by decide, rfl⟩

theorem scoped_childQuery (r : LineageRequest) (fqn : String) : Scoped r [] (childQuery r fqn) := by
  refine ⟨r.kind.edgeField ++ ".fromEntity.fullyQualifiedName", fqn, ?_, rfl⟩
  cases r.kind <;> decide

/-- The walk around a table of a schema is under the conditions of the request for the schema, and does
    not ask for a type. -/
theorem scoped_tableRequest {fqn : String} {q : Query} :
    (Scoped (tableRequest r fqn) [] q ↔ Scoped r [] q)
      ∧ (Scoped (tableRequest r fqn)
          ((tableRequest r fqn).entityType.map (Query.textTerm "entityType")).toList q ↔ Scoped r [] q) :=
  ⟨Iff.rfl, Iff.rfl⟩

/-- After `prior`, only searches without a further condition were made. -/
def ScopedAfter (r : LineageRequest) (prior made : List Search) : Prop :=
  ∃ rest, made = prior ++ rest ∧ ∀ s ∈ rest, Scoped r [] s.query

theorem ScopedAfter.search {prior made : List Search} (h : ScopedAfter r prior made) {q : Query}
    (hq : Scoped r [] q) (answer : Outcome (List Fields)) :
    ScopedAfter r prior (made ++ [⟨q, answer⟩]) := by
  obtain ⟨rest, rfl, hrest⟩ := h
  refine ⟨rest ++ [⟨q, answer⟩], List.append_assoc _ _ _, ?_⟩
  intro s hs
  rcases List.mem_append.1 hs with hold | hnew
  · exact hrest s hold
  · rw [List.mem_singleton.1 hnew]
    exact hq

/-! ## §2. What scoped searches give. -/

/-- All documents that scoped searches give have `D`. -/
def Gives (service : Service σ) (r : LineageRequest) (D : Fields → Prop) : Prop :=
  ∀ more q, Scoped r more q → ∀ state docs, (service q state).1 = .ok docs → ∀ doc ∈ docs, D doc

/-- All nodes of a graph have `D`. -/
def NodesHave (D : Fields → Prop) (g : LineageGraph) : Prop := ∀ node ∈ g.nodes, D node.2

variable {D : Fields → Prop} {prior : List Search}

theorem NodesHave.insert {g : LineageGraph} (h : NodesHave D g) {doc : Fields} (hdoc : D doc)
    (x : String) (ancestorEdges descendantEdges : List LineageEdge) :
    NodesHave D { g with nodes := Keyed.insert g.nodes x doc, ancestorEdges, descendantEdges } := by
  intro node hnode
  rcases Keyed.mem_insert hnode with rfl | hold
  · exact hdoc
  · exact h node hold

theorem NodesHave.merge {g other : LineageGraph} (h : NodesHave D g) (hother : NodesHave D other) :
    NodesHave D (g.merge other) := by
  refine List.foldlRecOn (motive := fun (nodes : Keyed Fields) => ∀ node ∈ nodes, D node.2) other.nodes _ h ?_
  rintro nodes hnodes ⟨x, doc⟩ hmem
  dsimp only
  by_cases hseen : Keyed.contains nodes x = true
  · rw [if_pos hseen]
    exact hnodes
  · rw [if_neg hseen]
    intro node hnode
    rcases Keyed.mem_insert hnode with rfl | hold
    · exact hother _ hmem
    · exact hnodes node hold

/-- What holds between two steps of a walk. -/
def InScope (r : LineageRequest) (D : Fields → Prop) (prior : List Search) (g : LineageGraph)
    (made : List Search) : Prop :=
  NodesHave D g ∧ ScopedAfter r prior made

/-- **A scoped search**: it leaves the record in order, and its documents have `D`. -/
theorem ensures_ask_scoped (hgives : Gives service r D) {q : Query} (hq : Scoped r [] q)
    (g : LineageGraph) :
    Ensures (InScope r D prior g) (ask service q)
      (fun docs made => (∀ doc ∈ docs, D doc) ∧ InScope r D prior g made) (ScopedAfter r prior) := by
  refine ensures_ask ?_
  rintro made ⟨hnodes, hmade⟩ answer ⟨state, hanswer⟩
  cases answer with
  | error e => exact hmade.search hq _
  | ok docs => exact ⟨hgives [] q hq state docs hanswer, hnodes, hmade.search hq _⟩

/-! ## §3. Towards the sources. -/

theorem ensures_ancestorEdge_scoped (hgives : Gives service r D) (target : String)
    (walk : LineageGraph × List Fields) (source : String) :
    Ensures (InScope r D prior walk.1) (ancestorEdge r (ask service) target walk source)
      (fun walk => InScope r D prior walk.1) (ScopedAfter r prior) := by
  unfold ancestorEdge
  dsimp only
  by_cases hseen : Keyed.contains walk.1.nodes source = true
  · rw [if_pos hseen]
    exact ensures_pure fun _ h => h
  · rw [if_neg hseen]
    refine ensures_bind (ensures_ask_scoped hgives (scoped_nodeQuery r source) walk.1) fun docs => ?_
    cases docs with
    | nil => exact ensures_pure fun made h => h.2
    | cons doc rest =>
      refine ensures_pure fun made h => ⟨?_, h.2.2⟩
      exact h.2.1.insert (h.1 doc List.mem_cons_self) source _ _

theorem ensures_ancestorWalk_scoped (hgives : Gives service r D) (depth : Nat) (g : LineageGraph)
    (frontier : List Fields) :
    Ensures (InScope r D prior g) (ancestorWalk r (ask service) depth g frontier) (InScope r D prior)
      (ScopedAfter r prior) := by
  induction depth generalizing g frontier with
  | zero => exact ensures_pure fun _ h => h
  | succ depth ih =>
    have hnode : ∀ (walk : LineageGraph × List Fields), ∀ doc ∈ frontier,
        Ensures (InScope r D prior walk.1) (ancestorNode r (ask service) walk doc)
          (fun walk => InScope r D prior walk.1) (ScopedAfter r prior) := by
      intro walk doc _
      unfold ancestorNode
      cases fqnOf? doc with
      | none => exact ensures_pure fun _ h => h
      | some target =>
        exact ensures_foldlM (I := fun walk => InScope r D prior walk.1)
          (fun walk source _ => ensures_ancestorEdge_scoped hgives target walk source) walk
    unfold ancestorWalk
    refine ensures_bind (ensures_foldlM hnode (g, [])) ?_
    rintro ⟨g', next⟩
    show Ensures _ (if next.isEmpty then pure g' else ancestorWalk r (ask service) depth g' next) _ _
    by_cases hlast : next.isEmpty = true
    · rw [if_pos hlast]
      exact ensures_pure fun _ h => h
    · rw [if_neg hlast]
      exact ih g' next

/-! ## §4. Away from the sources. -/

theorem nodesHave_descendantChild {w : DescendantWalk} (h : NodesHave D w.graph) {doc : Fields}
    (hdoc : D doc) (source : String) : NodesHave D (descendantChild source w doc).graph := by
  unfold descendantChild
  cases fqnOf? doc with
  | none => exact h
  | some target =>
    dsimp only
    by_cases hseen : Keyed.contains w.graph.nodes target = true
    · rw [if_pos hseen]
      exact h
    · rw [if_neg hseen]
      exact h.insert hdoc target _ _

theorem ensures_descendantNode_scoped (hgives : Gives service r D) (w : DescendantWalk)
    (source : String) :
    Ensures (InScope r D prior w.graph) (descendantNode r (ask service) w source)
      (fun w => InScope r D prior w.graph) (ScopedAfter r prior) := by
  unfold descendantNode
  by_cases hagain : source ∈ w.expanded
  · rw [if_pos hagain]
    exact ensures_pure fun _ h => h
  · rw [if_neg hagain]
    refine ensures_bind (ensures_ask_scoped hgives (scoped_childQuery r source) w.graph) fun docs => ?_
    refine ensures_pure fun made h => ⟨?_, h.2.2⟩
    refine List.foldlRecOn (motive := fun w => NodesHave D w.graph) docs (descendantChild source)
      (b := { w with expanded := source :: w.expanded }) h.2.1 ?_
    intro w' hw' doc hdoc
    exact nodesHave_descendantChild hw' (h.1 doc hdoc) source

theorem ensures_descendantWalk_scoped (hgives : Gives service r D) (depth : Nat) (w : DescendantWalk)
    (frontier : List String) :
    Ensures (InScope r D prior w.graph) (descendantWalk r (ask service) depth w frontier)
      (InScope r D prior) (ScopedAfter r prior) := by
  induction depth generalizing w frontier with
  | zero => exact ensures_pure fun _ h => h
  | succ depth ih =>
    unfold descendantWalk
    refine ensures_bind (ensures_foldlM (I := fun w => InScope r D prior w.graph)
      (fun w source _ => ensures_descendantNode_scoped hgives w source) { w with next := [] }) ?_
    intro w'
    by_cases hlast : w'.next.isEmpty = true
    · rw [if_pos hlast]
      exact ensures_pure fun _ h => h
    · rw [if_neg hlast]
      exact ih w' w'.next

/-! ## §5. Whole walks. -/

/-- After `prior`, a search for the entity was made, and then only searches without a further
    condition. -/
def OpenedAfter (r : LineageRequest) (prior made : List Search) : Prop :=
  ∃ first, Scoped r (r.entityType.map (Query.textTerm "entityType")).toList first.query
    ∧ ScopedAfter r (prior ++ [first]) made

/-- **One walk**: its searches are scoped, and its nodes are documents that they gave. -/
theorem ensures_traverse_scoped (hgives : Gives service r D) (prior : List Search) :
    Ensures (· = prior) (traverse r (ask service))
      (fun g made => NodesHave D g ∧ OpenedAfter r prior made) (OpenedAfter r prior) := by
  unfold traverse
  refine ensures_bind
    (Q := fun docs made => (∀ doc ∈ docs, D doc) ∧ made = prior ++ [⟨rootQuery r, .ok docs⟩])
    (ensures_ask ?_) ?_
  · rintro made rfl answer ⟨state, hanswer⟩
    cases answer with
    | error e =>
      exact ⟨⟨rootQuery r, .error e⟩, scoped_rootQuery r, [], (List.append_nil _).symm, by simp⟩
    | ok docs => exact ⟨hgives _ _ (scoped_rootQuery r) state docs hanswer, rfl⟩
  · intro docs
    have hopened : ∀ made, ScopedAfter r (prior ++ [⟨rootQuery r, .ok docs⟩]) made →
        OpenedAfter r prior made := fun made h => ⟨_, scoped_rootQuery r, h⟩
    have hstart : ∀ made, made = prior ++ [(⟨rootQuery r, .ok docs⟩ : Search)] →
        ScopedAfter r (prior ++ [⟨rootQuery r, .ok docs⟩]) made := by
      rintro made rfl
      exact ⟨[], (List.append_nil _).symm, by simp⟩
    cases docs with
    | nil => exact ensures_pure fun made h => ⟨by simp [NodesHave], hopened made (hstart made h.2)⟩
    | cons root more =>
      have hwalks := ensures_bind
        (Q := InScope r D (prior ++ [⟨rootQuery r, .ok (root :: more)⟩]))
        (ensures_ancestorWalk_scoped hgives r.ancestorDepth
          { entity := some root, nodes := [(r.fqn, root)] } [root])
        fun g => ensures_descendantWalk_scoped hgives r.descendantDepth { graph := g } [r.fqn]
      refine hwalks.mono ?_ (fun g made h => ⟨h.1, hopened made h.2⟩) hopened
      rintro made ⟨hdocs, hmade⟩
      refine ⟨?_, hstart made hmade⟩
      intro node hnode
      obtain rfl := List.mem_singleton.1 hnode
      exact hdocs root List.mem_cons_self

/-- **The walks around the tables of a schema**: all their searches are scoped, and none asks for a
    type. -/
theorem ensures_traverseSchema_scoped (hgives : Gives service r D) :
    Ensures (· = []) (traverseSchema r (ask service)) (InScope r D []) (ScopedAfter r []) := by
  have hschema : Scoped r [] (limited r (Query.textTerm "databaseSchema.fullyQualifiedName" r.fqn)) :=
    ⟨_, r.fqn, by decide, rfl⟩
  have htable : ∀ (fqn : String) (before after : List Search), ScopedAfter r [] before →
      OpenedAfter (tableRequest r fqn) before after → ScopedAfter r [] after := by
    rintro fqn before after ⟨_, rfl, hrest⟩ ⟨first, hfirst, more, rfl, hmore⟩
    refine ⟨before ++ first :: more, by simp, ?_⟩
    intro s hs
    rcases List.mem_append.1 hs with hold | hnew
    · exact hrest s hold
    · rcases List.mem_cons.1 hnew with rfl | hnew
      · exact scoped_tableRequest.2.1 hfirst
      · exact scoped_tableRequest.1.1 (hmore s hnew)
  unfold traverseSchema
  refine ensures_bind (Q := fun _ => InScope r D [] {}) ?_ fun tables => ?_
  · refine (ensures_ask_scoped hgives hschema {}).mono ?_ (fun _ _ h => h.2) (fun _ h => h)
    rintro made rfl
    exact ⟨by simp [NodesHave], [], rfl, by simp⟩
  · refine ensures_foldlM (I := InScope r D []) (fun g fqn _ history h => ?_) {}
    have hwalk := ensures_bind (f := fun other => (pure (g.merge other) : Asking σ LineageGraph))
      (ensures_traverse_scoped (r := tableRequest r fqn) (D := D) (fun more q hq => hgives more q hq)
        history.made) fun other => ensures_pure (Q := InScope r D [])
        fun made hother => ⟨h.1.merge hother.1, htable fqn _ _ h.2 hother.2⟩
    exact hwalk.mono (fun _ h => h) (fun _ _ h => h) (fun made hfail => htable fqn _ _ h.2 hfail)
      history rfl

/-! ## §6. Services that honour their queries. -/

/-- Whatever has happened before, a search gives only documents that its query selects. -/
def Honours (service : Service σ) (judge : Query → Json → Bool) : Prop :=
  ∀ q state docs, (service q state).1 = .ok docs → ∀ doc ∈ docs, q.selects judge (.obj doc) = true

/-- The document is marked as deleted. -/
def SoftDeleted (doc : Fields) : Prop := .bool true ∈ (Json.obj doc).valuesAt ["deleted"]

/-- The conditions of a request let a document through. -/
def Admitted (r : LineageRequest) (judge : Query → Json → Bool) (doc : Fields) : Prop :=
  (r.includeDeleted = false → ¬ SoftDeleted doc)
    ∧ ∀ filter, r.queryFilter = some filter → judge (.raw filter) (.obj doc) = true

theorem admitted_of_selects {judge : Query → Json → Bool} {more : List Query} {q : Query}
    (hq : Scoped r more q) {doc : Fields} (h : q.selects judge (.obj doc) = true) :
    Admitted r judge doc := by
  obtain ⟨field, text, -, rfl⟩ := hq
  rw [Query.selects_bool] at h
  simp only [Bool.and_eq_true, List.all_append] at h
  obtain ⟨⟨⟨-, hfilter, -⟩, hdeleted⟩, -⟩ := h
  constructor
  · intro hkept hdoc
    rw [hkept] at hdeleted
    have hterm : (Query.term "deleted" (.bool true)).selects judge (.obj doc) = true := by
      unfold Query.selects
      rw [show Text.split '.' "deleted" = ["deleted"] by decide]
      exact List.contains_iff_mem.2 hdoc
    simp [hterm] at hdeleted
  · intro filter hsome
    rw [hsome] at hfilter
    exact List.all_eq_true.1 hfilter (.raw filter) List.mem_cons_self

/-- **Every search of a walk is scoped**, whatever the answers are and whether or not the walk fails.  It
    asks for one thing, under the conditions of the request and no others; only the search for the entity
    of a walk that is not one around a schema may ask for a type as well.  With a service that honours its
    queries, therefore, no graph has a node that the conditions do not let through. -/
theorem searches_scoped (r : LineageRequest) (service : Service σ) (state : σ) :
    (∃ first rest, (run (traverse r (ask service)) state).2 = first :: rest
        ∧ Scoped r (r.entityType.map (Query.textTerm "entityType")).toList first.query
        ∧ ∀ s ∈ rest, Scoped r [] s.query)
      ∧ (∀ s ∈ (run (traverseSchema r (ask service)) state).2, Scoped r [] s.query)
      ∧ ∀ judge, Honours service judge → ∀ g, (run (traverse r (ask service)) state).1 = .ok g
          ∨ (run (traverseSchema r (ask service)) state).1 = .ok g →
        ∀ node ∈ g.nodes, Admitted r judge node.2 := by
  -- the searches of any service give documents of which nothing is claimed
  have hany : Gives service r fun _ => True := fun _ _ _ _ _ _ _ _ => trivial
  refine ⟨?_, ?_, ?_⟩
  · have hopened := (ensures_traverse_scoped (r := r) hany []).mono (fun _ h => h)
      (fun _ _ h => h.2) (fun _ h => h)
    obtain ⟨first, hfirst, rest, hrest, hscoped⟩ := hopened.made state
    exact ⟨first, rest, hrest, hfirst, hscoped⟩
  · have hafter := (ensures_traverseSchema_scoped (r := r) hany).mono (fun _ h => h)
      (fun _ _ h => h.2) (fun _ h => h)
    obtain ⟨rest, hrest, hscoped⟩ := hafter.made state
    rw [hrest]
    exact hscoped
  · intro judge hhonours g hg
    have hgives : Gives service r (Admitted r judge) := fun more q hq state docs hdocs doc hdoc =>
      admitted_of_selects hq (hhonours q state docs hdocs doc hdoc)
    rcases hg with hg | hg
    · exact ((ensures_traverse_scoped hgives []).ok hg).1
    · exact ((ensures_traverseSchema_scoped hgives).ok hg).1

/-- A service that answers from a store. -/
def stored : Service (List Fields) := fun q store => (.ok (matching store q), store)

/-- Two tables, the first made of the second, which is deleted. -/
def deletedSource : List Fields :=
  [listing (.str "mart") ["raw"], ("deleted", .bool true) :: listing (.str "raw") []]

/-- The deleted table is not in the graph of the other one, although it is in the store and the edge from
    it is found. -/
theorem searches_scoped_deletedSource :
    ∃ g, (run (traverse { fqn := "mart", ancestorDepth := 1 } (ask stored)) deletedSource).1 = .ok g
      ∧ g.ancestorEdges = [⟨"raw", "mart"⟩] ∧ ∀ node ∈ g.nodes, ¬ SoftDeleted node.2 := by
  have hrun : ((run (traverse { fqn := "mart", ancestorDepth := 1 } (ask stored))
      deletedSource).1).toOption.map (·.ancestorEdges) = some [⟨"raw", "mart"⟩] := by decide +kernel
  obtain ⟨g, hg, hedges⟩ := Outcome.eq_ok_of_toOption_map hrun
  have hhonours : Honours stored fun _ _ => true := by
    intro q store docs hdocs doc hdoc
    cases hdocs
    exact (List.mem_filter.1 hdoc).2
  refine ⟨g, hg, hedges, fun node hnode => ?_⟩
  exact ((searches_scoped { fqn := "mart", ancestorDepth := 1 } stored deletedSource).2.2 _ hhonours g
    (Or.inl hg) node hnode).1 rfl

end Lineage

end CatalogIndex
