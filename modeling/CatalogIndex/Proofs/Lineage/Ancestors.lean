/-
  CatalogIndex.Proofs.Lineage.Ancestors — what the walk towards the sources finds.

  The walk is a search level by level.  Its names are those of the nodes, and a step leads from the name
  of a document to the source of an edge that the document lists, if a document is found for it.  The
  edges that the walk collects are those listed by the documents that fewer steps reach than there are
  levels, however often a node comes up on the way.  A document without a name of its own leads nowhere:
  its edges have no end, so the walk neither collects nor follows them.

  A level follows the edges listed by its frontier one after the other.  `Followed` says what it has
  found once it has followed some of them; `followed_ancestorEdge` is the step, and
  `followed_ancestorLevel` the level.

  ## Main definitions

    * `nodeAt` — the document of a node;
    * `Lists`, `Leads` — a document lists an edge from another one, and the walk follows it;
    * `edgesInto` — the edges that lead to a document.

  ## Main results

    * `ancestors_traverse` — the edges and nodes of a walk towards the sources;
    * `unnamed_leads_nowhere` — edges behind a document without a name are not found.
-/
import CatalogIndex.Lineage.Traversal
import CatalogIndex.Proofs.Keyed
import CatalogIndex.Proofs.Lineage.Levels
import CatalogIndex.Proofs.Lineage.Merging
import CatalogIndex.Proofs.Outcome
import CatalogIndex.Proofs.Query.Selection

namespace CatalogIndex

namespace Lineage

variable {r : LineageRequest} {fetch : Query → Outcome (List Fields)}

/-! ## §1. Documents and their edges. -/

/-- The first document that a search gives; none if it gives none or fails. -/
def firstOf : Outcome (List Fields) → Option Fields
  | .ok docs => docs.head?
  | .error _ => none

/-- The document of a node: for the entity itself the one that the walk starts from, and for another
    name the first one that is found. -/
def nodeAt (r : LineageRequest) (fetch : Query → Outcome (List Fields)) (root : Fields)
    (fqn : String) : Option Fields :=
  if fqn = r.fqn then some root else firstOf (fetch (nodeQuery r fqn))

/-- A document lists an edge from the node of another one. -/
def Lists (r : LineageRequest) (node : String → Option Fields) (doc source : Fields) : Prop :=
  ∃ fqn ∈ edgeSources r.kind.edgeField doc, node fqn = some source

/-- A document with a name lists an edge from the node of another one. -/
def Leads (r : LineageRequest) (node : String → Option Fields) (doc source : Fields) : Prop :=
  (fqnOf? doc).isSome = true ∧ Lists r node doc source

/-- The edges that lead to a document; without a name it has none. -/
def edgesInto (r : LineageRequest) (doc : Fields) : List LineageEdge :=
  match fqnOf? doc with
  | none => []
  | some target => (edgeSources r.kind.edgeField doc).map fun source => { source, target }

theorem mem_edgesInto {doc : Fields} {e : LineageEdge} :
    e ∈ edgesInto r doc
      ↔ fqnOf? doc = some e.target ∧ e.source ∈ edgeSources r.kind.edgeField doc := by
  obtain ⟨source, target⟩ := e
  unfold edgesInto
  cases fqnOf? doc with
  | none => simp
  | some name =>
    simp only [List.mem_map, LineageEdge.mk.injEq, Option.some.injEq]
    constructor
    · rintro ⟨s, hs, rfl, rfl⟩
      exact ⟨rfl, hs⟩
    · rintro ⟨rfl, hs⟩
      exact ⟨source, hs, rfl, rfl⟩

/-! ## §2. One level. -/

/-- What a level has found that started from `g` and has followed `edges`: it collected the edges, and
    the new nodes among their sources, which it keeps for the next level. -/
structure Followed (node : String → Option Fields) (g : LineageGraph) (edges : List LineageEdge)
    (walk : LineageGraph × List Fields) : Prop where
  ancestorEdges : ∀ e, e ∈ walk.1.ancestorEdges ↔ e ∈ g.ancestorEdges ∨ e ∈ edges
  descendantEdges : walk.1.descendantEdges = g.descendantEdges
  nodes : ∀ x, Keyed.contains walk.1.nodes x = true ↔ Keyed.contains g.nodes x = true
    ∨ (∃ e ∈ edges, e.source = x) ∧ (node x).isSome = true
  next : ∀ d, d ∈ walk.2 ↔ ∃ x, (∃ e ∈ edges, e.source = x) ∧ ¬ Keyed.contains g.nodes x = true
    ∧ node x = some d

/-- Following one edge: it is collected, and its source is new or not. -/
theorem ancestorEdge_eq_ok {g : LineageGraph} {next : List Fields} {target source : String}
    {walk : LineageGraph × List Fields}
    (h : ancestorEdge r fetch target (g, next) source = .ok walk) :
    ((Keyed.contains g.nodes source = true ∨ firstOf (fetch (nodeQuery r source)) = none)
        ∧ walk = ({ g with ancestorEdges := LineageEdge.add g.ancestorEdges ⟨source, target⟩ }, next))
      ∨ ¬ Keyed.contains g.nodes source = true ∧ ∃ d, firstOf (fetch (nodeQuery r source)) = some d
        ∧ walk = ({ g with
            ancestorEdges := LineageEdge.add g.ancestorEdges ⟨source, target⟩
            nodes := Keyed.insert g.nodes source d }, next ++ [d]) := by
  unfold ancestorEdge at h
  dsimp only at h
  by_cases hseen : Keyed.contains g.nodes source = true
  · rw [if_pos hseen] at h
    cases h
    exact Or.inl ⟨Or.inl hseen, rfl⟩
  · rw [if_neg hseen] at h
    obtain ⟨docs, hdocs, h⟩ := Outcome.bind_eq_ok h
    rw [hdocs]
    cases docs with
    | nil =>
      cases h
      exact Or.inl ⟨Or.inr rfl, rfl⟩
    | cons d rest =>
      cases h
      exact Or.inr ⟨hseen, d, rfl, rfl⟩

variable {node : String → Option Fields} {g : LineageGraph}

/-- **The step of a level**: it follows one edge more. -/
theorem followed_ancestorEdge {edges : List LineageEdge} {walk walk' : LineageGraph × List Fields}
    {target source : String} (hwalk : Followed node g edges walk)
    (hnode : ∀ x, ¬ Keyed.contains g.nodes x = true → node x = firstOf (fetch (nodeQuery r x)))
    (h : ancestorEdge r fetch target walk source = .ok walk') :
    Followed node g (edges ++ [⟨source, target⟩]) walk' := by
  obtain ⟨g₁, next⟩ := walk
  have hedges : ∀ x, (∃ e ∈ edges ++ [(⟨source, target⟩ : LineageEdge)], e.source = x)
      ↔ (∃ e ∈ edges, e.source = x) ∨ source = x := by
    intro x
    simp [or_and_right, exists_or]
  have hcollected : ∀ e, e ∈ LineageEdge.add g₁.ancestorEdges ⟨source, target⟩
      ↔ e ∈ g.ancestorEdges ∨ e ∈ edges ++ [⟨source, target⟩] := by
    intro e
    rw [LineageEdge.mem_add, hwalk.ancestorEdges, List.mem_append, List.mem_singleton]
    exact or_comm.trans or_assoc
  rcases ancestorEdge_eq_ok h with ⟨hold, rfl⟩ | ⟨hnew, d, hd, rfl⟩
  · -- the source is no new node: it is there already, or it is not found
    have hsource : ∀ x, source = x → ¬ Keyed.contains g.nodes x = true → (node x).isSome = true →
        ∃ e ∈ edges, e.source = x := by
      rintro x rfl hx hsome
      rcases hold with hseen | hnone
      · exact ((hwalk.nodes source).1 hseen).elim (fun h => absurd h hx) (·.1)
      · rw [hnode source hx, hnone] at hsome
        cases hsome
    refine ⟨hcollected, hwalk.descendantEdges, ?_, ?_⟩
    · intro x
      rw [hwalk.nodes, hedges]
      constructor
      · rintro (hx | ⟨he, hsome⟩)
        · exact Or.inl hx
        · exact Or.inr ⟨Or.inl he, hsome⟩
      · rintro (hx | ⟨he | heq, hsome⟩)
        · exact Or.inl hx
        · exact Or.inr ⟨he, hsome⟩
        · by_cases hx : Keyed.contains g.nodes x = true
          · exact Or.inl hx
          · exact Or.inr ⟨hsource x heq hx hsome, hsome⟩
    · intro d
      rw [hwalk.next]
      constructor
      · rintro ⟨x, he, hx, hd⟩
        exact ⟨x, (hedges x).2 (Or.inl he), hx, hd⟩
      · rintro ⟨x, he, hx, hd⟩
        rcases (hedges x).1 he with he | heq
        · exact ⟨x, he, hx, hd⟩
        · exact ⟨x, hsource x heq hx (by rw [hd]; rfl), hx, hd⟩
  · -- the source is a new node
    have hfresh : ¬ Keyed.contains g.nodes source = true :=
      fun hx => hnew ((hwalk.nodes source).2 (Or.inl hx))
    have hsource : node source = some d := by rw [hnode source hfresh, hd]
    refine ⟨hcollected, hwalk.descendantEdges, ?_, ?_⟩
    · intro x
      rw [Keyed.contains_insert, hwalk.nodes, hedges]
      constructor
      · rintro (rfl | hx | ⟨he, hsome⟩)
        · exact Or.inr ⟨Or.inr rfl, by rw [hsource]; rfl⟩
        · exact Or.inl hx
        · exact Or.inr ⟨Or.inl he, hsome⟩
      · rintro (hx | ⟨he | rfl, hsome⟩)
        · exact Or.inr (Or.inl hx)
        · exact Or.inr (Or.inr ⟨he, hsome⟩)
        · exact Or.inl rfl
    · intro d'
      rw [List.mem_append, List.mem_singleton, hwalk.next]
      constructor
      · rintro (⟨x, he, hx, hd'⟩ | rfl)
        · exact ⟨x, (hedges x).2 (Or.inl he), hx, hd'⟩
        · exact ⟨source, (hedges source).2 (Or.inr rfl), hfresh, hsource⟩
      · rintro ⟨x, he, hx, hd'⟩
        rcases (hedges x).1 he with he | rfl
        · exact Or.inl ⟨x, he, hx, hd'⟩
        · rw [hsource] at hd'
          exact Or.inr (Option.some.inj hd').symm

/-- **A level follows the edges that its frontier lists.** -/
theorem followed_ancestorLevel {frontier : List Fields} {walk : LineageGraph × List Fields}
    (hnode : ∀ x, ¬ Keyed.contains g.nodes x = true → node x = firstOf (fetch (nodeQuery r x)))
    (h : ancestorLevel r fetch g frontier = .ok walk) :
    Followed node g (frontier.flatMap (edgesInto r)) walk := by
  have hstart : Followed node g [] (g, []) := by
    refine ⟨?_, rfl, ?_, ?_⟩ <;> simp
  have hdoc : ∀ (done : List Fields) (doc : Fields) (walk walk' : LineageGraph × List Fields),
      Followed node g (done.flatMap (edgesInto r)) walk → ancestorNode r fetch walk doc = .ok walk' →
      Followed node g ((done ++ [doc]).flatMap (edgesInto r)) walk' := by
    intro done doc walk walk' hwalk h
    have hflat : (done ++ [doc]).flatMap (edgesInto r)
        = done.flatMap (edgesInto r) ++ edgesInto r doc := by
      simp
    rw [hflat]
    unfold ancestorNode at h
    cases hname : fqnOf? doc with
    | none =>
      have hinto : edgesInto r doc = [] := by
        unfold edgesInto
        rw [hname]
      rw [hname] at h
      cases h
      rwa [hinto, List.append_nil]
    | some target =>
      have hinto : edgesInto r doc
          = (edgeSources r.kind.edgeField doc).map fun source => ⟨source, target⟩ := by
        unfold edgesInto
        rw [hname]
      rw [hname] at h
      rw [hinto]
      -- within the document, one edge after the other
      refine Outcome.foldlM_keeps (P := fun sources walk => Followed node g (done.flatMap (edgesInto r)
        ++ sources.map fun source => (⟨source, target⟩ : LineageEdge)) walk) ?_ ?_ h
      · intro sources source walk walk' hwalk h
        rw [List.map_append, ← List.append_assoc]
        exact followed_ancestorEdge hwalk hnode h
      · simpa using hwalk
  exact Outcome.foldlM_keeps
    (P := fun done walk => Followed node g (done.flatMap (edgesInto r)) walk) hdoc hstart h

/-! ## §3. The walk. -/

/-- A step towards the sources: the document of `fqn` lists an edge from `source`, which is found. -/
def Sources (r : LineageRequest) (node : String → Option Fields) (fqn source : String) : Prop :=
  (∃ doc, node fqn = some doc ∧ ∃ e ∈ edgesInto r doc, e.source = source)
    ∧ (node source).isSome = true

/-- A number of steps towards the sources.  No name is barred. -/
def AncestorIn (r : LineageRequest) (node : String → Option Fields) : Nat → String → Prop :=
  ReachedIn (Avoiding (fun _ => False) (Sources r node)) r.fqn

/-- What the walk towards the sources has found with its first `n` levels: the edges that lead to the
    documents it has expanded, and the sources of these edges. -/
structure AncestorsFound (r : LineageRequest) (node : String → Option Fields) (n : Nat)
    (g : LineageGraph) : Prop where
  edges : ∀ e, e ∈ g.ancestorEdges
    ↔ ∃ x d, (∃ k < n, AncestorIn r node k x) ∧ node x = some d ∧ e ∈ edgesInto r d
  nodes : ∀ x, Keyed.contains g.nodes x = true
    ↔ x = r.fqn ∨ (∃ e ∈ g.ancestorEdges, e.source = x) ∧ (node x).isSome = true
  descendantEdges : g.descendantEdges = []

/-- What the walk knows before it goes on.  Its frontier is kept as documents; `names` are their
    names. -/
structure AncestorsKnown (r : LineageRequest) (node : String → Option Fields) (n : Nat)
    (g : LineageGraph) (names : String → Prop) (frontier : List Fields) : Prop
    extends AncestorsFound r node n g where
  level : Level (Sources r node) (fun _ => False) r.fqn n
    (fun x => Keyed.contains g.nodes x = true) names
  frontier : ∀ d, d ∈ frontier ↔ ∃ x, names x ∧ node x = some d

/-- The walk starts with the document of the entity. -/
theorem ancestorsKnown_start {root : Fields} (hroot : node r.fqn = some root) :
    AncestorsKnown r node 0 { entity := some root, nodes := [(r.fqn, root)] } (· = r.fqn) [root] := by
  have hcontains : ∀ x, Keyed.contains [(r.fqn, root)] x = true ↔ x = r.fqn := by
    intro x
    by_cases h : r.fqn = x
    · simp [Keyed.contains, Keyed.get?, h]
    · simp [Keyed.contains, Keyed.get?, h, Ne.symm h]
  refine ⟨⟨?_, ?_, rfl⟩, .initial ?_ (fun _ => Iff.rfl), ?_⟩
  · simp
  · intro x
    rw [hcontains]
    simp
  · intro x
    rw [hcontains]
    simp
  · intro d
    simp [hroot, eq_comm]

/-- The edges that a frontier lists lead to the steps from its names. -/
theorem AncestorsKnown.steps {n : Nat} {names : String → Prop} {frontier : List Fields}
    (h : AncestorsKnown r node n g names frontier) (x : String) :
    ((∃ e ∈ frontier.flatMap (edgesInto r), e.source = x) ∧ (node x).isSome = true)
      ↔ ∃ y, names y ∧ Sources r node y x := by
  constructor
  · rintro ⟨⟨e, he, hsource⟩, hsome⟩
    obtain ⟨d, hd, he⟩ := List.mem_flatMap.1 he
    obtain ⟨y, hy, hdoc⟩ := (h.frontier d).1 hd
    exact ⟨y, hy, ⟨d, hdoc, e, he, hsource⟩, hsome⟩
  · rintro ⟨y, hy, ⟨d, hdoc, e, he, hsource⟩, hsome⟩
    exact ⟨⟨e, List.mem_flatMap.2 ⟨d, (h.frontier d).2 ⟨y, hy, hdoc⟩, he⟩, hsource⟩, hsome⟩

/-- **One level more**: the walk knows what is reached by one step more. -/
theorem AncestorsKnown.next {n : Nat} {names : String → Prop} {frontier : List Fields}
    {walk : LineageGraph × List Fields} (h : AncestorsKnown r node n g names frontier)
    (hwalk : Followed node g (frontier.flatMap (edgesInto r)) walk) :
    AncestorsKnown r node (n + 1) walk.1
      (fun x => (∃ y, names y ∧ Sources r node y x) ∧ ¬ Keyed.contains g.nodes x = true) walk.2 := by
  refine ⟨⟨?_, ?_, ?_⟩, h.level.next ?_ (fun _ => Iff.rfl), ?_⟩
  · intro e
    rw [hwalk.ancestorEdges, h.edges, List.mem_flatMap]
    constructor
    · rintro (⟨x, d, hbefore, hdoc, he⟩ | ⟨d, hd, he⟩)
      · exact ⟨x, d, (h.level.expanded_succ x).2 (Or.inl hbefore), hdoc, he⟩
      · obtain ⟨x, hx, hdoc⟩ := (h.frontier d).1 hd
        exact ⟨x, d, (h.level.expanded_succ x).2 (Or.inr hx), hdoc, he⟩
    · rintro ⟨x, d, hreached, hdoc, he⟩
      rcases (h.level.expanded_succ x).1 hreached with hbefore | hx
      · exact Or.inl ⟨x, d, hbefore, hdoc, he⟩
      · exact Or.inr ⟨d, (h.frontier d).2 ⟨x, hx, hdoc⟩, he⟩
  · intro x
    rw [hwalk.nodes, h.nodes]
    simp only [hwalk.ancestorEdges, or_and_right, exists_or]
    exact or_assoc
  · rw [hwalk.descendantEdges, h.descendantEdges]
  · intro x
    rw [hwalk.nodes, h.steps]
  · intro d
    rw [hwalk.next]
    constructor
    · rintro ⟨x, he, hnew, hd⟩
      exact ⟨x, ⟨(h.steps x).1 ⟨he, by rw [hd]; rfl⟩, hnew⟩, hd⟩
    · rintro ⟨x, ⟨hstep, hnew⟩, hd⟩
      exact ⟨x, ((h.steps x).2 hstep).1, hnew, hd⟩

/-- **A walk towards the sources finds what fewer steps reach than it has levels.**  If it ends early,
    more levels would find nothing more. -/
theorem ancestorsFound_ancestorWalk
    (hnode : ∀ x, x ≠ r.fqn → node x = firstOf (fetch (nodeQuery r x))) {depth n : Nat}
    {names : String → Prop} {frontier : List Fields} {g' : LineageGraph}
    (h : AncestorsKnown r node n g names frontier)
    (hrun : ancestorWalk r fetch depth g frontier = .ok g') :
    AncestorsFound r node (n + depth) g' := by
  induction depth generalizing n g names frontier with
  | zero =>
    cases hrun
    exact h.toAncestorsFound
  | succ depth ih =>
    obtain ⟨⟨g₁, next⟩, hlevel, hrun⟩ := Outcome.bind_eq_ok hrun
    dsimp only at hrun
    have hfetched : ∀ x, ¬ Keyed.contains g.nodes x = true →
        node x = firstOf (fetch (nodeQuery r x)) := by
      intro x hx
      exact hnode x fun heq => hx ((h.nodes x).2 (Or.inl heq))
    have hnext := h.next (followed_ancestorLevel hfetched hlevel)
    have hdepth : n + 1 + depth = n + (depth + 1) := by omega
    by_cases hempty : next.isEmpty = true
    · rw [if_pos hempty] at hrun
      cases hrun
      -- no document is left, so no name is left either
      have hnames : ∀ x, ¬ ((∃ y, names y ∧ Sources r node y x)
          ∧ ¬ Keyed.contains g.nodes x = true) := by
        intro x hx
        obtain ⟨y, -, -, hsome⟩ := hx.1
        obtain ⟨d, hd⟩ := Option.isSome_iff_exists.1 hsome
        have hmem := (hnext.frontier d).2 ⟨x, hx, hd⟩
        rw [List.isEmpty_iff.1 hempty] at hmem
        cases hmem
      refine ⟨?_, hnext.nodes, hnext.descendantEdges⟩
      intro e
      rw [hnext.edges]
      refine exists_congr fun x => exists_congr fun d => and_congr_left fun _ => ?_
      rw [← hdepth]
      exact (hnext.level.expanded_add hnames depth x).symm
    · rw [if_neg hempty] at hrun
      have hfound := ih hnext hrun
      rwa [hdepth] at hfound

/-! ## §4. Steps between documents. -/

/-- A number of steps between names are as many steps between their documents. -/
theorem reachedIn_leads_iff {root : Fields} (hroot : node r.fqn = some root) {n : Nat} {d : Fields} :
    ReachedIn (Leads r node) root n d ↔ ∃ x, AncestorIn r node n x ∧ node x = some d := by
  constructor
  · intro h
    induction h with
    | start => exact ⟨r.fqn, .start, hroot⟩
    | @next _ doc source _ last ih =>
      obtain ⟨x, hx, hdoc⟩ := ih
      obtain ⟨hnamed, y, hy, hsource⟩ := last
      obtain ⟨target, htarget⟩ := Option.isSome_iff_exists.1 hnamed
      have hedge : (⟨y, target⟩ : LineageEdge) ∈ edgesInto r doc := mem_edgesInto.2 ⟨htarget, hy⟩
      exact ⟨y, .next hx ⟨⟨⟨doc, hdoc, _, hedge, rfl⟩, by rw [hsource]; rfl⟩, id⟩, hsource⟩
  · rintro ⟨x, hx, hdoc⟩
    induction hx generalizing d with
    | start =>
      rw [hroot] at hdoc
      cases hdoc
      exact .start
    | next _ last ih =>
      obtain ⟨⟨⟨doc, hfrom, e, he, rfl⟩, -⟩, -⟩ := last
      obtain ⟨htarget, hsource⟩ := mem_edgesInto.1 he
      exact .next (ih hfrom) ⟨by rw [htarget]; rfl, e.source, hsource, hdoc⟩

/-! ## §5. The whole walk. -/

/-- A walk that starts from a document goes towards the sources first, and from what it found there in
    the other direction. -/
theorem traverse_eq_ok {root : Fields} {rest : List Fields} {g : LineageGraph}
    (hroot : fetch (rootQuery r) = .ok (root :: rest)) (h : traverse r fetch = .ok g) :
    ∃ g₁, AncestorsFound r (nodeAt r fetch root) r.ancestorDepth g₁
      ∧ descendantWalk r fetch r.descendantDepth { graph := g₁ } [r.fqn] = .ok g := by
  obtain ⟨docs, hdocs, h⟩ := Outcome.bind_eq_ok h
  rw [hroot] at hdocs
  cases hdocs
  obtain ⟨g₁, hancestors, hdescendants⟩ := Outcome.bind_eq_ok h
  refine ⟨g₁, ?_, hdescendants⟩
  have hself : nodeAt r fetch root r.fqn = some root := if_pos rfl
  have hothers : ∀ x, x ≠ r.fqn → nodeAt r fetch root x = firstOf (fetch (nodeQuery r x)) :=
    fun x hx => if_neg hx
  have hfound := ancestorsFound_ancestorWalk hothers (ancestorsKnown_start hself) hancestors
  rwa [Nat.zero_add] at hfound

theorem ancestorEdges_descendantChild (source : String) (w : DescendantWalk) (doc : Fields) :
    (descendantChild source w doc).graph.ancestorEdges = w.graph.ancestorEdges := by
  unfold descendantChild
  cases fqnOf? doc with
  | none => rfl
  | some target =>
    dsimp only
    split <;> rfl

theorem ancestorEdges_descendantNode {w w' : DescendantWalk} {source : String}
    (h : descendantNode r fetch w source = .ok w') :
    w'.graph.ancestorEdges = w.graph.ancestorEdges := by
  unfold descendantNode at h
  split at h
  · cases h
    rfl
  · obtain ⟨docs, -, h⟩ := Outcome.bind_eq_ok h
    cases h
    refine List.foldlRecOn (motive := fun w' => w'.graph.ancestorEdges = w.graph.ancestorEdges) docs
      (descendantChild source) ?_ ?_
    · rfl
    · intro w' hw' doc _
      exact (ancestorEdges_descendantChild source w' doc).trans hw'

/-- The walk away from the sources leaves the edges towards them alone. -/
theorem ancestorEdges_descendantWalk {depth : Nat} {w : DescendantWalk} {frontier : List String}
    {g : LineageGraph} (h : descendantWalk r fetch depth w frontier = .ok g) :
    g.ancestorEdges = w.graph.ancestorEdges := by
  induction depth generalizing w frontier with
  | zero =>
    cases h
    rfl
  | succ depth ih =>
    obtain ⟨w', hlevel, h⟩ := Outcome.bind_eq_ok h
    have hkept : w'.graph.ancestorEdges = w.graph.ancestorEdges := by
      refine Outcome.foldlM_keeps
        (P := fun _ w' => w'.graph.ancestorEdges = w.graph.ancestorEdges) ?_ rfl hlevel
      intro _ source w₁ w₂ hw hnode
      exact (ancestorEdges_descendantNode hnode).trans hw
    split at h
    · cases h
      exact hkept
    · exact (ih h).trans hkept

/-- **The walk towards the sources collects exactly the edges of what it reaches.**  An edge is found if
    it leads to the name of a document that fewer steps reach than the walk has levels, and the document
    lists it.  If the walk does not go in the other direction, its nodes are the entity itself and the
    sources of these edges that are found. -/
theorem ancestors_traverse {root : Fields} {rest : List Fields} {g : LineageGraph}
    (hroot : fetch (rootQuery r) = .ok (root :: rest)) (h : traverse r fetch = .ok g) :
    (∀ u v, ⟨u, v⟩ ∈ g.ancestorEdges
        ↔ ∃ n < r.ancestorDepth, ∃ doc, ReachedIn (Leads r (nodeAt r fetch root)) root n doc
          ∧ fqnOf? doc = some v ∧ u ∈ edgeSources r.kind.edgeField doc)
      ∧ (r.descendantDepth = 0 → ∀ x, Keyed.contains g.nodes x = true
        ↔ x = r.fqn ∨ (∃ v, ⟨x, v⟩ ∈ g.ancestorEdges) ∧ (nodeAt r fetch root x).isSome = true) := by
  obtain ⟨g₁, hfound, hrest⟩ := traverse_eq_ok hroot h
  have hsame := ancestorEdges_descendantWalk hrest
  have hself : nodeAt r fetch root r.fqn = some root := if_pos rfl
  constructor
  · intro u v
    rw [hsame, hfound.edges]
    constructor
    · rintro ⟨x, doc, ⟨n, hn, hx⟩, hdoc, he⟩
      exact ⟨n, hn, doc, (reachedIn_leads_iff hself).2 ⟨x, hx, hdoc⟩, mem_edgesInto.1 he⟩
    · rintro ⟨n, hn, doc, hreached, he⟩
      obtain ⟨x, hx, hdoc⟩ := (reachedIn_leads_iff hself).1 hreached
      exact ⟨x, doc, ⟨n, hn, hx⟩, hdoc, mem_edgesInto.2 he⟩
  · intro hdepth x
    rw [hdepth] at hrest
    cases hrest
    rw [hfound.nodes, LineageEdge.exists_source_iff]

/-! ## §6. Stores. -/

/-- A document with the given name that lists edges from `sources`. -/
def listing (name : Json) (sources : List String) : Fields :=
  [("fullyQualifiedName", name),
    ("upstreamLineage", .arr (sources.map fun source =>
      .object [("fromEntity", .object [("fullyQualifiedName", .str source)])]))]

/-- Searches in a store. -/
def searching (store : List Fields) (q : Query) : Outcome (List Fields) := .ok (matching store q)

/-- What a search finds in a store, its query selects. -/
theorem selects_of_searching {store docs : List Fields} {q : Query} (h : searching store q = .ok docs)
    {doc : Fields} (hdoc : doc ∈ docs) : q.selects (fun _ _ => true) (.obj doc) = true := by
  cases h
  exact (List.mem_filter.1 hdoc).2

/-- What a search for a name finds in a store has that name, if it has one at all. -/
theorem fqnOf?_of_searching {store docs : List Fields} {fqn : String}
    (h : searching store (nodeQuery r fqn) = .ok docs) {doc : Fields} (hdoc : doc ∈ docs) :
    fqnOf? doc = none ∨ fqnOf? doc = some fqn := by
  have hselected := selects_of_searching h hdoc
  unfold nodeQuery limited limitedWith at hselected
  rw [Query.selects_bool] at hselected
  have hname : (Query.textTerm "fullyQualifiedName" fqn).selects (fun _ _ => true) (.obj doc) = true := by
    simp only [List.all_cons, List.all_nil, Bool.and_true, Bool.and_eq_true] at hselected
    exact hselected.1.1.1
  rw [Query.selects_textTerm, show Text.split '.' "fullyQualifiedName" = ["fullyQualifiedName"] by decide]
    at hname
  cases hfield : Keyed.get? doc "fullyQualifiedName" with
  | none => exact Or.inl (by rw [fqnOf?, hfield]; rfl)
  | some value =>
    cases value with
    | str name =>
      rw [Json.valuesAt_field hfield, List.mem_singleton, Json.str.injEq] at hname
      exact Or.inr (by rw [fqnOf?, hfield, hname]; rfl)
    | _ => exact Or.inl (by rw [fqnOf?, hfield]; rfl)

/-- Three tables, each made of the one before, and the first one of the last. -/
def tableCycle : List Fields :=
  [listing (.str "raw") ["mart"], listing (.str "staging") ["raw"], listing (.str "mart") ["staging"]]

/-- Two levels from `mart` collect the edge from `raw` to `staging`. -/
theorem ancestors_traverse_cycle :
    ∃ g, traverse { fqn := "mart", ancestorDepth := 2 } (searching tableCycle) = .ok g
      ∧ ⟨"raw", "staging"⟩ ∈ g.ancestorEdges := by
  have hrun : ∃ g, traverse { fqn := "mart", ancestorDepth := 2 } (searching tableCycle) = .ok g :=
    ⟨_, rfl⟩
  obtain ⟨g, hg⟩ := hrun
  refine ⟨g, hg, ?_⟩
  have hroot : searching tableCycle (rootQuery { fqn := "mart", ancestorDepth := 2 })
      = .ok [listing (.str "mart") ["staging"]] := by rfl
  refine ((ancestors_traverse hroot hg).1 "raw" "staging").2 ⟨1, by decide, ?_⟩
  exact ⟨listing (.str "staging") ["raw"],
    .next .start ⟨by decide, "staging", by decide, rfl⟩, by decide, by decide⟩

/-- The second of these tables has a list of names, and a search for one of them finds it. -/
def unnamedTable : List Fields :=
  [listing (.str "a") ["b"], listing (.arr [.str "b"]) ["c"], listing (.str "c") ["d"]]

/-- Three levels towards the sources of `a`. -/
def towardsA : LineageRequest := { fqn := "a", ancestorDepth := 3 }

/-- **A document without a name leads nowhere.**  It is found for the name `b` and lists an edge from
    `c`, which lists one from `d`.  The walk does not go on from it, and does not collect the edge from
    `d` to `c`; following what the documents list, it would. -/
theorem unnamed_leads_nowhere :
    (∀ fqn docs, searching unnamedTable (nodeQuery towardsA fqn) = .ok docs →
        ∀ doc ∈ docs, fqnOf? doc = none ∨ fqnOf? doc = some fqn)
      ∧ searching unnamedTable (rootQuery towardsA) = .ok [listing (.str "a") ["b"]]
      ∧ ∃ g, traverse towardsA (searching unnamedTable) = .ok g ∧ g.ancestorEdges = [⟨"b", "a"⟩]
        ∧ ¬ ∀ u v, ⟨u, v⟩ ∈ g.ancestorEdges
          ↔ ∃ n < towardsA.ancestorDepth, ∃ doc,
            ReachedIn (Lists towardsA (nodeAt towardsA (searching unnamedTable)
              (listing (.str "a") ["b"]))) (listing (.str "a") ["b"]) n doc
            ∧ fqnOf? doc = some v ∧ u ∈ edgeSources towardsA.kind.edgeField doc := by
  refine ⟨fun fqn docs h doc hdoc => fqnOf?_of_searching h hdoc, rfl, _, rfl, rfl, ?_⟩
  intro hall
  have hunnamed : Lists towardsA (nodeAt towardsA (searching unnamedTable)
      (listing (.str "a") ["b"])) (listing (.str "a") ["b"]) (listing (.arr [.str "b"]) ["c"]) :=
    ⟨"b", by decide, rfl⟩
  have hbehind : Lists towardsA (nodeAt towardsA (searching unnamedTable)
      (listing (.str "a") ["b"])) (listing (.arr [.str "b"]) ["c"]) (listing (.str "c") ["d"]) :=
    ⟨"c", by decide, rfl⟩
  have hcollected : (⟨"d", "c"⟩ : LineageEdge) ∈ [(⟨"b", "a"⟩ : LineageEdge)] :=
    (hall "d" "c").2 ⟨2, by decide, listing (.str "c") ["d"], .next (.next .start hunnamed) hbehind,
      by decide, by decide⟩
  exact absurd hcollected (by decide)

end Lineage

end CatalogIndex
