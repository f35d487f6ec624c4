/-
  CatalogIndex.Proofs.Lineage.WellFormed — graphs that hang together, whatever the searches give.

  The two parts of a walk write into the same graph while the index may change between any two searches.
  Nothing can be said about which documents a graph holds, then; but it always hangs together.  The entity
  is the node under the name that was asked for, every edge away from the sources has both ends among the
  nodes and lies on a chain of such edges from the entity, and every other node is there for the sake of
  an edge.

  A part of the walk only ever adds to the graph (`Grows`).  What a well-formed graph needs of an addition
  is said once (`WellFormed.grow`), and the steps of both parts are instances of it.

  ## Main definitions

    * `WellFormed` — the graph hangs together, and no chain is longer than the levels walked;
    * `Asked` — the searches made so far, none of them a second one for the same children.

  ## Main results

    * `wellFormed_descendantChild` — the step of the walk away from the sources;
    * `traverse_wellFormed` — the graphs of all walks, and the searches made for them.
-/
import CatalogIndex.Proofs.Lineage.Descendants
import CatalogIndex.Proofs.Lineage.Histories

namespace CatalogIndex.Lineage

variable {σ : Type} {r : LineageRequest} {root : Fields} {n : Nat}

/-! ## §1. Graphs that hang together. -/

/-- An edge away from the sources leads from `source` to `target`. -/
def Edge (g : LineageGraph) (source target : String) : Prop := ⟨source, target⟩ ∈ g.descendantEdges

/-- The graph hangs together; `levels` bounds the length of the chains away from the sources. -/
structure WellFormed (r : LineageRequest) (root : Fields) (levels : Nat) (g : LineageGraph) :
    Prop where
  entity : g.entity = some root
  start : Keyed.get? g.nodes r.fqn = some root
  ends : ∀ e ∈ g.descendantEdges,
    Keyed.contains g.nodes e.source = true ∧ Keyed.contains g.nodes e.target = true
  /-- An edge is the last one of a chain from the entity. -/
  chained : ∀ e ∈ g.descendantEdges, ∃ k < levels, ReachedIn (Edge g) r.fqn k e.source
  /-- Every node but the entity is at the end of an edge. -/
  joined : ∀ x, Keyed.contains g.nodes x = true → x = r.fqn
    ∨ (∃ e ∈ g.ancestorEdges, e.source = x) ∨ ∃ e ∈ g.descendantEdges, e.target = x

/-- Nothing is taken from the graph, and no node is replaced. -/
structure Grows (g g' : LineageGraph) : Prop where
  entity : g'.entity = g.entity
  nodes : ∀ x doc, Keyed.get? g.nodes x = some doc → Keyed.get? g'.nodes x = some doc
  ancestorEdges : ∀ e ∈ g.ancestorEdges, e ∈ g'.ancestorEdges
  descendantEdges : ∀ e ∈ g.descendantEdges, e ∈ g'.descendantEdges

namespace Grows

variable {g g' : LineageGraph}

theorem contains (h : Grows g g') {x : String} (hx : Keyed.contains g.nodes x = true) :
    Keyed.contains g'.nodes x = true := by
  obtain ⟨doc, hdoc⟩ := Option.isSome_iff_exists.1 hx
  exact Option.isSome_iff_exists.2 ⟨doc, h.nodes x doc hdoc⟩

theorem reachedIn (h : Grows g g') {start x : String} {k : Nat} (hx : ReachedIn (Edge g) start k x) :
    ReachedIn (Edge g') start k x :=
  hx.mono fun _ _ he => h.descendantEdges _ he

theorem addAncestor (g : LineageGraph) (e : LineageEdge) :
    Grows g { g with ancestorEdges := LineageEdge.add g.ancestorEdges e } where
  entity := rfl
  nodes _ _ hx := hx
  ancestorEdges _ he := (LineageEdge.mem_add _ _ _).2 (Or.inr he)
  descendantEdges _ he := he

theorem addDescendant (g : LineageGraph) (e : LineageEdge) :
    Grows g { g with descendantEdges := LineageEdge.add g.descendantEdges e } where
  entity := rfl
  nodes _ _ hx := hx
  ancestorEdges _ he := he
  descendantEdges _ he := (LineageEdge.mem_add _ _ _).2 (Or.inr he)

theorem addNode {g : LineageGraph} {x : String} (hx : ¬ Keyed.contains g.nodes x = true)
    (doc : Fields) : Grows g { g with nodes := Keyed.insert g.nodes x doc } where
  entity := rfl
  nodes y old hy := by
    have hne : y ≠ x := by
      rintro rfl
      exact hx (Option.isSome_iff_exists.2 ⟨old, hy⟩)
    exact (Keyed.get?_insert_of_ne hne g.nodes doc).trans hy
  ancestorEdges _ he := he
  descendantEdges _ he := he

theorem trans {g'' : LineageGraph} (h : Grows g g') (h' : Grows g' g'') : Grows g g'' where
  entity := h'.entity.trans h.entity
  nodes x doc hx := h'.nodes x doc (h.nodes x doc hx)
  ancestorEdges e he := h'.ancestorEdges e (h.ancestorEdges e he)
  descendantEdges e he := h'.descendantEdges e (h.descendantEdges e he)

end Grows

namespace WellFormed

variable {g g' : LineageGraph}

/-- **What may be added to a graph**: nodes at the ends of edges, and edges that lengthen a chain. -/
theorem grow (h : WellFormed r root n g) (hgrows : Grows g g')
    (hnodes : ∀ x, Keyed.contains g'.nodes x = true → Keyed.contains g.nodes x = true
      ∨ (∃ e ∈ g'.ancestorEdges, e.source = x) ∨ ∃ e ∈ g'.descendantEdges, e.target = x)
    (hedges : ∀ e ∈ g'.descendantEdges, e ∈ g.descendantEdges
      ∨ (Keyed.contains g'.nodes e.source = true ∧ Keyed.contains g'.nodes e.target = true)
        ∧ ∃ k < n, ReachedIn (Edge g') r.fqn k e.source) :
    WellFormed r root n g' := by
  refine ⟨hgrows.entity.trans h.entity, hgrows.nodes _ _ h.start, ?_, ?_, ?_⟩
  · intro e he
    rcases hedges e he with hold | ⟨hends, -⟩
    · exact ⟨hgrows.contains (h.ends e hold).1, hgrows.contains (h.ends e hold).2⟩
    · exact hends
  · intro e he
    rcases hedges e he with hold | ⟨-, hchain⟩
    · obtain ⟨k, hk, hreached⟩ := h.chained e hold
      exact ⟨k, hk, hgrows.reachedIn hreached⟩
    · exact hchain
  · intro x hx
    rcases hnodes x hx with hold | hnew
    · rcases h.joined x hold with hself | ⟨e, he, hsource⟩ | ⟨e, he, htarget⟩
      · exact Or.inl hself
      · exact Or.inr (Or.inl ⟨e, hgrows.ancestorEdges e he, hsource⟩)
      · exact Or.inr (Or.inr ⟨e, hgrows.descendantEdges e he, htarget⟩)
    · exact Or.inr hnew

theorem mono (h : WellFormed r root n g) {n' : Nat} (hn : n ≤ n') : WellFormed r root n' g := by
  refine ⟨h.entity, h.start, h.ends, ?_, h.joined⟩
  intro e he
  obtain ⟨k, hk, hreached⟩ := h.chained e he
  exact ⟨k, by omega, hreached⟩

/-- The graph that a walk starts with. -/
theorem initial : WellFormed r root 0 { entity := some root, nodes := [(r.fqn, root)] } := by
  refine ⟨rfl, by simp [Keyed.get?], ?_, ?_, ?_⟩
  · intro e he
    cases he
  · intro e he
    cases he
  · intro x hx
    left
    by_contra hne
    simp [Keyed.contains, Keyed.get?, Ne.symm hne] at hx

end WellFormed

/-! ## §2. Searches. -/

/-- No two searches look for the children of the same node. -/
def ChildrenOnce (r : LineageRequest) (made : List Search) : Prop :=
  made.Pairwise fun s t => ∀ fqn, ¬ (s.query = childQuery r fqn ∧ t.query = childQuery r fqn)

/-- The searches of a walk so far: what the first one was, and that the children of a node were searched
    for at most once, and only if it is expanded. -/
structure Asked (r : LineageRequest) (first : Search) (expanded : List String) (made : List Search) :
    Prop where
  first : made.head? = some first
  once : ChildrenOnce r made
  expanded : ∀ s ∈ made, ∀ fqn, s.query = childQuery r fqn → fqn ∈ expanded

theorem limitedWith_textTerm_inj {field field' value value' : String} {more more' : List Query}
    (h : limitedWith r (Query.textTerm field value) more
      = limitedWith r (Query.textTerm field' value') more') : field = field' ∧ value = value' := by
  unfold limitedWith Query.textTerm at h
  injection h with hmust
  injection hmust with hterm
  injection hterm with hfield hvalue
  injection hvalue with hvalue
  exact ⟨hfield, hvalue⟩

/-- A search by a name is no search for children. -/
theorem limitedWith_fqn_ne_childQuery (r : LineageRequest) (name fqn : String) (more : List Query) :
    limitedWith r (Query.textTerm "fullyQualifiedName" name) more ≠ childQuery r fqn := by
  intro h
  have hfield := (limitedWith_textTerm_inj h).1
  cases hkind : r.kind with
  | _ =>
    rw [hkind] at hfield
    exact absurd hfield (by decide)

namespace Asked

variable {first : Search} {expanded : List String} {made : List Search}

/-- The first search of a walk. -/
theorem opened (answer : Outcome (List Fields)) :
    Asked r ⟨rootQuery r, answer⟩ [] [⟨rootQuery r, answer⟩] := by
  refine ⟨rfl, List.pairwise_singleton _ _, ?_⟩
  intro s hs fqn hquery
  rw [List.mem_singleton.1 hs] at hquery
  exact absurd hquery (limitedWith_fqn_ne_childQuery r _ _ _)

/-- One search more. -/
theorem search (h : Asked r first expanded made) {expanded' : List String} {q : Query}
    (answer : Outcome (List Fields)) (hkept : ∀ x ∈ expanded, x ∈ expanded')
    (hq : ∀ fqn, q = childQuery r fqn → fqn ∉ expanded ∧ fqn ∈ expanded') :
    Asked r first expanded' (made ++ [⟨q, answer⟩]) := by
  refine ⟨?_, ?_, ?_⟩
  · rw [List.head?_append, h.first]
    rfl
  · refine List.pairwise_append.2 ⟨h.once, List.pairwise_singleton _ _, ?_⟩
    intro s hs t ht fqn hboth
    rw [List.mem_singleton.1 ht] at hboth
    exact (hq fqn hboth.2).1 (h.expanded s hs fqn hboth.1)
  · intro s hs fqn hquery
    rcases List.mem_append.1 hs with hold | hnew
    · exact hkept fqn (h.expanded s hold fqn hquery)
    · rw [List.mem_singleton.1 hnew] at hquery
      exact (hq fqn hquery).2

theorem node (h : Asked r first expanded made) (fqn : String) (answer : Outcome (List Fields)) :
    Asked r first expanded (made ++ [⟨nodeQuery r fqn, answer⟩]) :=
  h.search answer (fun _ hx => hx)
    fun _ hq => absurd hq (limitedWith_fqn_ne_childQuery r _ _ _)

theorem child (h : Asked r first expanded made) {fqn : String} (hnew : fqn ∉ expanded)
    (answer : Outcome (List Fields)) :
    Asked r first (fqn :: expanded) (made ++ [⟨childQuery r fqn, answer⟩]) := by
  refine h.search answer (fun x hx => List.mem_cons_of_mem fqn hx) ?_
  intro x hq
  obtain rfl : fqn = x := (limitedWith_textTerm_inj hq).2
  exact ⟨hnew, List.mem_cons_self⟩

end Asked

/-- What is known of the searches of a walk that failed. -/
def AskedSome (r : LineageRequest) (first : Search) (made : List Search) : Prop :=
  ∃ expanded, Asked r first expanded made

/-! ## §3. Towards the sources. -/

variable {service : Service σ} {first : Search}

/-- What holds between two steps towards the sources. -/
def Climbing (r : LineageRequest) (root : Fields) (first : Search) (g : LineageGraph)
    (made : List Search) : Prop :=
  WellFormed r root 0 g ∧ Asked r first [] made

theorem wellFormed_ancestorEdge {g : LineageGraph} (h : WellFormed r root n g) (e : LineageEdge) :
    WellFormed r root n { g with ancestorEdges := LineageEdge.add g.ancestorEdges e } :=
  h.grow (.addAncestor g e) (fun _ hx => Or.inl hx) fun _ he => Or.inl he

/-- The source of an edge joins the graph. -/
theorem wellFormed_ancestorFound {g : LineageGraph} (h : WellFormed r root n g) {e : LineageEdge}
    (he : e ∈ g.ancestorEdges) (hnew : ¬ Keyed.contains g.nodes e.source = true) (doc : Fields) :
    WellFormed r root n { g with nodes := Keyed.insert g.nodes e.source doc } := by
  refine h.grow (.addNode hnew doc) ?_ fun _ he => Or.inl he
  intro x hx
  rcases (Keyed.contains_insert _ _ _ _).1 hx with rfl | hold
  · exact Or.inr (Or.inl ⟨e, he, rfl⟩)
  · exact Or.inl hold

theorem ensures_ancestorEdge (target : String) (walk : LineageGraph × List Fields) (source : String) :
    Ensures (Climbing r root first walk.1) (ancestorEdge r (ask service) target walk source)
      (fun walk => Climbing r root first walk.1) (AskedSome r first) := by
  unfold ancestorEdge
  dsimp only
  by_cases hseen : Keyed.contains walk.1.nodes source = true
  · rw [if_pos hseen]
    exact ensures_pure fun made h => ⟨wellFormed_ancestorEdge h.1 _, h.2⟩
  · rw [if_neg hseen]
    refine ensures_bind
      (Q := fun _ => Climbing r root first
        { walk.1 with ancestorEdges := LineageEdge.add walk.1.ancestorEdges ⟨source, target⟩ })
      (ensures_ask ?_) ?_
    · rintro made ⟨hgraph, hasked⟩ answer -
      have hasked' := hasked.node source answer
      cases answer with
      | error e => exact ⟨[], hasked'⟩
      | ok docs => exact ⟨wellFormed_ancestorEdge hgraph _, hasked'⟩
    · intro docs
      cases docs with
      | nil => exact ensures_pure fun made h => h
      | cons doc rest =>
        refine ensures_pure fun made h => ⟨?_, h.2⟩
        exact wellFormed_ancestorFound (e := ⟨source, target⟩) h.1
          ((LineageEdge.mem_add _ _ _).2 (Or.inl rfl)) hseen doc

theorem ensures_ancestorNode (walk : LineageGraph × List Fields) (doc : Fields) :
    Ensures (Climbing r root first walk.1) (ancestorNode r (ask service) walk doc)
      (fun walk => Climbing r root first walk.1) (AskedSome r first) := by
  unfold ancestorNode
  cases fqnOf? doc with
  | none => exact ensures_pure fun _ h => h
  | some target =>
    exact ensures_foldlM (I := fun walk => Climbing r root first walk.1)
      (fun walk source _ => ensures_ancestorEdge target walk source) walk

/-- The walk towards the sources leaves a graph that hangs together. -/
theorem ensures_ancestorWalk (depth : Nat) (g : LineageGraph) (frontier : List Fields) :
    Ensures (Climbing r root first g) (ancestorWalk r (ask service) depth g frontier)
      (Climbing r root first) (AskedSome r first) := by
  induction depth generalizing g frontier with
  | zero => exact ensures_pure fun _ h => h
  | succ depth ih =>
    unfold ancestorWalk
    refine ensures_bind (Q := fun walk => Climbing r root first walk.1)
      (ensures_foldlM (fun walk doc _ => ensures_ancestorNode walk doc) (g, [])) ?_
    rintro ⟨g', next⟩
    show Ensures _ (if next.isEmpty then pure g' else ancestorWalk r (ask service) depth g' next) _ _
    by_cases hlast : next.isEmpty = true
    · rw [if_pos hlast]
      exact ensures_pure fun _ h => h
    · rw [if_neg hlast]
      exact ih g' next

/-! ## §4. Away from the sources. -/

/-- All of these names are nodes that a chain of the given length reaches. -/
def Reaches (r : LineageRequest) (n : Nat) (g : LineageGraph) (names : List String) : Prop :=
  ∀ x ∈ names, Keyed.contains g.nodes x = true ∧ ReachedIn (Edge g) r.fqn n x

theorem Reaches.grow {g g' : LineageGraph} {names : List String} (h : Reaches r n g names)
    (hgrows : Grows g g') : Reaches r n g' names :=
  fun x hx => ⟨hgrows.contains (h x hx).1, hgrows.reachedIn (h x hx).2⟩

/-- What holds of the graph within a level: it started from names that `n` edges reach, and what it
    brings is reached by one more. -/
structure Descending (r : LineageRequest) (root : Fields) (n : Nat) (frontier : List String)
    (w : DescendantWalk) : Prop where
  graph : WellFormed r root (n + 1) w.graph
  frontier : Reaches r n w.graph frontier
  next : Reaches r (n + 1) w.graph w.next

/-- **The step away from the sources**: a document that lists an edge from a node of the frontier. -/
theorem descending_descendantChild {frontier : List String} {w : DescendantWalk}
    (h : Descending r root n frontier w) {source : String} (hsource : source ∈ frontier)
    (doc : Fields) : Descending r root n frontier (descendantChild source w doc) := by
  unfold descendantChild
  cases fqnOf? doc with
  | none => exact h
  | some target =>
    dsimp only
    have hedge := Grows.addDescendant w.graph ⟨source, target⟩
    have hadded : (⟨source, target⟩ : LineageEdge)
        ∈ LineageEdge.add w.graph.descendantEdges ⟨source, target⟩ :=
      (LineageEdge.mem_add _ _ _).2 (Or.inl rfl)
    -- whatever becomes of the nodes, the one new edge leads from the frontier to `target`
    have hgraph : ∀ g', Grows w.graph g' →
        g'.descendantEdges = LineageEdge.add w.graph.descendantEdges ⟨source, target⟩ →
        Keyed.contains g'.nodes target = true →
        (∀ x, Keyed.contains g'.nodes x = true → Keyed.contains w.graph.nodes x = true ∨ x = target) →
        WellFormed r root (n + 1) g' := by
      intro g' hgrows hedges htarget hnodes
      obtain ⟨hnode, hreached⟩ := h.frontier source hsource
      refine h.graph.grow hgrows ?_ ?_
      · intro x hx
        rcases hnodes x hx with hold | rfl
        · exact Or.inl hold
        · exact Or.inr (Or.inr ⟨_, hedges ▸ hadded, rfl⟩)
      · intro e he
        rw [hedges] at he
        rcases (LineageEdge.mem_add _ _ _).1 he with rfl | hold
        · exact Or.inr ⟨⟨hgrows.contains hnode, htarget⟩, n, by omega, hgrows.reachedIn hreached⟩
        · exact Or.inl hold
    by_cases hseen : Keyed.contains w.graph.nodes target = true
    · rw [if_pos hseen]
      exact ⟨hgraph _ hedge rfl hseen fun x hx => Or.inl hx, h.frontier.grow hedge, h.next.grow hedge⟩
    · rw [if_neg hseen]
      have hgrows := hedge.trans (.addNode (g := { w.graph with
        descendantEdges := LineageEdge.add w.graph.descendantEdges ⟨source, target⟩ }) hseen doc)
      have hnodes := fun x => Keyed.contains_insert w.graph.nodes target x doc
      refine ⟨hgraph _ hgrows rfl ((hnodes target).2 (Or.inl rfl)) ?_, h.frontier.grow hgrows, ?_⟩
      · intro x hx
        exact ((hnodes x).1 hx).symm
      · intro x hx
        rcases List.mem_append.1 hx with hold | hnew
        · exact h.next.grow hgrows x hold
        · obtain rfl := List.mem_singleton.1 hnew
          have hlast := hgrows.reachedIn (h.frontier source hsource).2
          exact ⟨(hnodes x).2 (Or.inl rfl), .next hlast hadded⟩

/-- What holds between two searches of a level. -/
def Walking (r : LineageRequest) (root : Fields) (first : Search) (n : Nat) (frontier : List String)
    (w : DescendantWalk) (made : List Search) : Prop :=
  Descending r root n frontier w ∧ Asked r first w.expanded made

theorem ensures_descendantNode {frontier : List String} {source : String} (hsource : source ∈ frontier)
    (w : DescendantWalk) :
    Ensures (Walking r root first n frontier w) (descendantNode r (ask service) w source)
      (Walking r root first n frontier) (AskedSome r first) := by
  unfold descendantNode
  by_cases hagain : source ∈ w.expanded
  · rw [if_pos hagain]
    exact ensures_pure fun _ h => h
  · rw [if_neg hagain]
    refine ensures_bind
      (Q := fun _ => Walking r root first n frontier { w with expanded := source :: w.expanded })
      (ensures_ask ?_) ?_
    · rintro made ⟨hw, hasked⟩ answer -
      have hasked' := hasked.child hagain answer
      cases answer with
      | error e => exact ⟨_, hasked'⟩
      | ok docs => exact ⟨⟨hw.graph, hw.frontier, hw.next⟩, hasked'⟩
    · intro docs
      refine ensures_pure fun made h => ⟨?_, ?_⟩
      · refine List.foldlRecOn docs (descendantChild source) h.1 ?_
        intro w' hw' doc _
        exact descending_descendantChild hw' hsource doc
      · rw [expanded_foldl_descendantChild]
        exact h.2

/-- The walk away from the sources leaves a graph that hangs together. -/
theorem ensures_descendantWalk (depth : Nat) (w : DescendantWalk) (frontier : List String) :
    Ensures
      (fun made => WellFormed r root n w.graph ∧ Reaches r n w.graph frontier
        ∧ Asked r first w.expanded made)
      (descendantWalk r (ask service) depth w frontier)
      (fun g made => WellFormed r root (n + depth) g ∧ AskedSome r first made)
      (AskedSome r first) := by
  induction depth generalizing n w frontier with
  | zero =>
    refine ensures_pure fun made h => ?_
    exact ⟨h.1, w.expanded, h.2.2⟩
  | succ depth ih =>
    unfold descendantWalk
    have hlevel : Ensures
        (fun made => WellFormed r root n w.graph ∧ Reaches r n w.graph frontier
          ∧ Asked r first w.expanded made)
        (descendantLevel r (ask service) w frontier) (Walking r root first n frontier)
        (AskedSome r first) := by
      intro history h
      refine ensures_foldlM (fun w source hsource => ensures_descendantNode hsource w)
        { w with next := [] } history ⟨⟨h.1.mono (by omega), h.2.1, ?_⟩, h.2.2⟩
      intro x hx
      cases hx
    refine ensures_bind hlevel fun w' => ?_
    by_cases hlast : w'.next.isEmpty = true
    · rw [if_pos hlast]
      refine ensures_pure fun made h => ?_
      exact ⟨h.1.graph.mono (by omega), w'.expanded, h.2⟩
    · rw [if_neg hlast]
      intro history h
      have hrest := ih (n := n + 1) w' w'.next history ⟨h.1.graph, h.1.next, h.2⟩
      rwa [show n + 1 + depth = n + (depth + 1) by omega] at hrest

/-! ## §5. Whole walks. -/

/-- What a walk has made of the answer to its first search. -/
def Walked (r : LineageRequest) (answer : Outcome (List Fields)) (g : LineageGraph) : Prop :=
  (answer = .ok [] ∧ g = {})
    ∨ ∃ root more, answer = .ok (root :: more) ∧ WellFormed r root r.descendantDepth g

theorem ensures_traverse (r : LineageRequest) (service : Service σ) :
    Ensures (· = []) (traverse r (ask service))
      (fun g made => ∃ answer, AskedSome r ⟨rootQuery r, answer⟩ made ∧ Walked r answer g)
      (fun made => ∃ answer, AskedSome r ⟨rootQuery r, answer⟩ made) := by
  unfold traverse
  refine ensures_bind
    (Q := fun docs made => Asked r ⟨rootQuery r, .ok docs⟩ [] made) (ensures_ask ?_) ?_
  · rintro made rfl answer -
    have hopened : Asked r ⟨rootQuery r, answer⟩ [] [⟨rootQuery r, answer⟩] := .opened answer
    cases answer with
    | error e => exact ⟨.error e, [], hopened⟩
    | ok docs => exact hopened
  · intro docs
    cases docs with
    | nil => exact ensures_pure fun made h => ⟨.ok [], ⟨[], h⟩, Or.inl ⟨rfl, rfl⟩⟩
    | cons root more =>
      -- from here on the first search is the one that gave `root`
      have hwalks : Ensures (Asked r ⟨rootQuery r, .ok (root :: more)⟩ [])
          (ancestorWalk r (ask service) r.ancestorDepth
            { entity := some root, nodes := [(r.fqn, root)] } [root]
            >>= fun g => descendantWalk r (ask service) r.descendantDepth { graph := g } [r.fqn])
          (fun g made => WellFormed r root (0 + r.descendantDepth) g
            ∧ AskedSome r ⟨rootQuery r, .ok (root :: more)⟩ made)
          (AskedSome r ⟨rootQuery r, .ok (root :: more)⟩) := by
        refine ensures_bind (Q := Climbing r root ⟨rootQuery r, .ok (root :: more)⟩)
          (fun history h => ensures_ancestorWalk _ _ _ history ⟨.initial, h⟩) fun g history h => ?_
        refine ensures_descendantWalk r.descendantDepth { graph := g } [r.fqn] history ⟨h.1, ?_, h.2⟩
        intro x hx
        obtain rfl := List.mem_singleton.1 hx
        exact ⟨Option.isSome_iff_exists.2 ⟨root, h.1.start⟩, .start⟩
      refine hwalks.mono (fun _ h => h) ?_ ?_
      · rintro g made ⟨hgraph, hasked⟩
        rw [Nat.zero_add] at hgraph
        exact ⟨.ok (root :: more), hasked, Or.inr ⟨root, more, rfl, hgraph⟩⟩
      · intro made hasked
        exact ⟨.ok (root :: more), hasked⟩

/-- **Whatever answers the searches, the graph of a walk hangs together.**  The first search is the one for
    the entity.  If it gives nothing the graph is empty; otherwise its first document is the entity and the
    node under the name that was asked for, edges away from the sources lead from node to node along chains
    no longer than the wanted depth, and every other node is at the end of an edge.  The children of a node
    are searched for at most once, also if the walk fails. -/
theorem traverse_wellFormed (r : LineageRequest) (service : Service σ) (state : σ) :
    ∃ answer rest, (run (traverse r (ask service)) state).2 = ⟨rootQuery r, answer⟩ :: rest
      ∧ ChildrenOnce r (run (traverse r (ask service)) state).2
      ∧ ∀ g, (run (traverse r (ask service)) state).1 = .ok g → Walked r answer g := by
  have hwalk := ensures_traverse r service
  have hasked : Ensures (· = []) (traverse r (ask service))
      (fun _ made => ∃ answer, AskedSome r ⟨rootQuery r, answer⟩ made)
      (fun made => ∃ answer, AskedSome r ⟨rootQuery r, answer⟩ made) :=
    hwalk.mono (fun _ h => h) (fun _ _ h => h.imp fun _ => And.left) (fun _ h => h)
  obtain ⟨answer, expanded, hasked⟩ := hasked.made state
  obtain ⟨rest, hrest⟩ := List.head?_eq_some_iff.1 hasked.first
  refine ⟨answer, rest, hrest, hasked.once, fun g hg => ?_⟩
  obtain ⟨answer', ⟨expanded', hasked'⟩, hwalked⟩ := hwalk.ok hg
  -- the record has one first search only
  have hsame := hasked'.first.symm.trans hasked.first
  injection hsame with hsame
  injection hsame with _ hanswer
  rwa [hanswer] at hwalked

/-- A service that counts, and finds for every search a document that was not there before. -/
def counting : Service Nat := fun _ n => (.ok [listing (.str (toString n)) []], n + 1)

/-- The walk from `orders` goes on to what it is told are the children, although the service has never
    heard of an entity of this name. -/
theorem traverse_wellFormed_counting :
    ∃ g root, (run (traverse { fqn := "orders", descendantDepth := 2 } (ask counting)) 0).1 = .ok g
      ∧ g.descendantEdges = [⟨"1", "2"⟩, ⟨"orders", "1"⟩]
      ∧ WellFormed { fqn := "orders", descendantDepth := 2 } root 2 g := by
  have hrun : ((run (traverse { fqn := "orders", descendantDepth := 2 } (ask counting)) 0).1).toOption.map
      (·.descendantEdges) = some [⟨"1", "2"⟩, ⟨"orders", "1"⟩] := by decide +kernel
  obtain ⟨g, hg, hedges⟩ := Outcome.eq_ok_of_toOption_map hrun
  obtain ⟨answer, rest, -, -, hwalked⟩ :=
    traverse_wellFormed { fqn := "orders", descendantDepth := 2 } counting 0
  rcases hwalked g hg with ⟨-, rfl⟩ | ⟨root, more, -, hgraph⟩
  · cases hedges
  · exact ⟨g, root, hg, hedges, hgraph⟩

end CatalogIndex.Lineage
