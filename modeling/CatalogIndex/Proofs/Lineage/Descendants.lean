/-
  CatalogIndex.Proofs.Lineage.Descendants — what the walk away from the sources finds.

  This walk is a search level by level, too.  A step leads from a name to the names of the documents that
  are found for the edges from it, its children.  The walk remembers whose children it has searched for,
  but what it goes on from is decided by the nodes of the graph: a child joins the next level only if it
  is a new node.  The nodes of the walk towards the sources are in the graph already, so they are barred
  from this search.  On a cycle, what is made of such a node is found only if it is reached past all of
  them.

  ## Main definitions

    * `children` — the names of the documents that are found for the edges from a name;
    * `IsAncestor` — another node that the walk towards the sources has found.

  ## Main results

    * `descendants_traverse` — the edges of a walk away from the sources;
    * `ancestor_not_expanded` — the walk towards the sources changes what is found in the other direction.
-/
import CatalogIndex.Proofs.Lineage.Ancestors

namespace CatalogIndex.Lineage

variable {r : LineageRequest} {fetch : Query → Outcome (List Fields)}

/-! ## §1. Children. -/

/-- The names of the documents that are found for the edges from a name. -/
def children (r : LineageRequest) (fetch : Query → Outcome (List Fields)) (fqn : String) :
    List String :=
  match fetch (childQuery r fqn) with
  | .ok docs => docs.filterMap fqnOf?
  | .error _ => []

/-- A step away from the sources. -/
def ChildOf (r : LineageRequest) (fetch : Query → Outcome (List Fields)) (fqn child : String) : Prop :=
  child ∈ children r fetch fqn

/-- The edges to the children. -/
def edgesFrom (r : LineageRequest) (fetch : Query → Outcome (List Fields)) (fqn : String) :
    List LineageEdge :=
  (children r fetch fqn).map fun child => ⟨fqn, child⟩

theorem mem_edgesFrom {fqn : String} {e : LineageEdge} :
    e ∈ edgesFrom r fetch fqn ↔ e.source = fqn ∧ ChildOf r fetch e.source e.target := by
  obtain ⟨source, target⟩ := e
  unfold edgesFrom ChildOf
  simp only [List.mem_map, LineageEdge.mk.injEq]
  constructor
  · rintro ⟨child, hchild, rfl, rfl⟩
    exact ⟨rfl, hchild⟩
  · rintro ⟨rfl, hchild⟩
    exact ⟨target, hchild, rfl, rfl⟩

/-! ## §2. One level. -/

/-- What a level has gathered that started from `w₀` and has gone along `edges`: the edges, and the new
    nodes among their targets, which it keeps for the next level. -/
structure Gathered (w₀ : DescendantWalk) (edges : List LineageEdge) (w : DescendantWalk) : Prop where
  descendantEdges : ∀ e, e ∈ w.graph.descendantEdges ↔ e ∈ w₀.graph.descendantEdges ∨ e ∈ edges
  nodes : ∀ x, Keyed.contains w.graph.nodes x = true
    ↔ Keyed.contains w₀.graph.nodes x = true ∨ ∃ e ∈ edges, e.target = x
  next : ∀ x, x ∈ w.next
    ↔ (∃ e ∈ edges, e.target = x) ∧ ¬ Keyed.contains w₀.graph.nodes x = true

variable {w₀ w w' : DescendantWalk} {edges : List LineageEdge}

/-- What was gathered does not depend on the record of whose children were searched for. -/
theorem Gathered.expand (h : Gathered w₀ edges w) (expanded : List String) :
    Gathered w₀ edges { w with expanded } :=
  ⟨h.descendantEdges, h.nodes, h.next⟩

/-- Edges that the level found in place add nothing. -/
theorem Gathered.again (h : Gathered w₀ edges w) {more : List LineageEdge}
    (hmore : ∀ e ∈ more, e ∈ edges
      ∨ e ∈ w₀.graph.descendantEdges ∧ Keyed.contains w₀.graph.nodes e.target = true) :
    Gathered w₀ (edges ++ more) w := by
  -- a target of the further edges is a target of the old ones, or was a node from the start
  have htarget : ∀ x, (∃ e ∈ edges ++ more, e.target = x)
      → (∃ e ∈ edges, e.target = x) ∨ Keyed.contains w₀.graph.nodes x = true := by
    rintro x ⟨e, he, rfl⟩
    rcases List.mem_append.1 he with hold | hnew
    · exact Or.inl ⟨e, hold, rfl⟩
    · rcases hmore e hnew with hold | ⟨-, hnode⟩
      · exact Or.inl ⟨e, hold, rfl⟩
      · exact Or.inr hnode
  have hkept : ∀ x, (∃ e ∈ edges, e.target = x) → ∃ e ∈ edges ++ more, e.target = x := by
    rintro x ⟨e, he, hx⟩
    exact ⟨e, List.mem_append_left more he, hx⟩
  refine ⟨?_, ?_, ?_⟩
  · intro e
    rw [h.descendantEdges, List.mem_append]
    constructor
    · rintro (hold | hold)
      · exact Or.inl hold
      · exact Or.inr (Or.inl hold)
    · rintro (hold | hold | hnew)
      · exact Or.inl hold
      · exact Or.inr hold
      · exact (hmore e hnew).elim Or.inr fun hthere => Or.inl hthere.1
  · intro x
    rw [h.nodes]
    constructor
    · rintro (hold | he)
      · exact Or.inl hold
      · exact Or.inr (hkept x he)
    · rintro (hold | he)
      · exact Or.inl hold
      · exact (htarget x he).symm
  · intro x
    rw [h.next]
    constructor
    · rintro ⟨he, hnew⟩
      exact ⟨hkept x he, hnew⟩
    · rintro ⟨he, hnew⟩
      exact ⟨(htarget x he).resolve_right hnew, hnew⟩

/-- **The step of a level**: a document that is found brings one edge more. -/
theorem gathered_descendantChild (h : Gathered w₀ edges w) (source : String) {target : String}
    {doc : Fields} (hname : fqnOf? doc = some target) :
    Gathered w₀ (edges ++ [⟨source, target⟩]) (descendantChild source w doc) := by
  have htargets : ∀ x, (∃ e ∈ edges ++ [(⟨source, target⟩ : LineageEdge)], e.target = x)
      ↔ (∃ e ∈ edges, e.target = x) ∨ target = x := by
    intro x
    simp [or_and_right, exists_or]
  have hcollected : ∀ e, e ∈ LineageEdge.add w.graph.descendantEdges ⟨source, target⟩
      ↔ e ∈ w₀.graph.descendantEdges ∨ e ∈ edges ++ [⟨source, target⟩] := by
    intro e
    rw [LineageEdge.mem_add, h.descendantEdges, List.mem_append, List.mem_singleton]
    exact or_comm.trans or_assoc
  unfold descendantChild
  rw [hname]
  dsimp only
  by_cases hseen : Keyed.contains w.graph.nodes target = true
  · -- the target is a node already: from the start, or by one of the edges before
    rw [if_pos hseen]
    have hthere := (h.nodes target).1 hseen
    refine ⟨hcollected, ?_, ?_⟩
    · intro x
      rw [h.nodes, htargets]
      constructor
      · rintro (hold | he)
        · exact Or.inl hold
        · exact Or.inr (Or.inl he)
      · rintro (hold | he | rfl)
        · exact Or.inl hold
        · exact Or.inr he
        · exact hthere
    · intro x
      rw [h.next, htargets]
      constructor
      · rintro ⟨he, hnew⟩
        exact ⟨Or.inl he, hnew⟩
      · rintro ⟨he | rfl, hnew⟩
        · exact ⟨he, hnew⟩
        · exact ⟨hthere.resolve_left hnew, hnew⟩
  · -- the target is a new node
    rw [if_neg hseen]
    have hfresh : ¬ Keyed.contains w₀.graph.nodes target = true :=
      fun hold => hseen ((h.nodes target).2 (Or.inl hold))
    refine ⟨hcollected, ?_, ?_⟩
    · intro x
      rw [Keyed.contains_insert, h.nodes, htargets, eq_comm (a := x)]
      exact or_comm.trans or_assoc
    · intro x
      rw [List.mem_append, List.mem_singleton, h.next, htargets]
      constructor
      · rintro (⟨he, hnew⟩ | rfl)
        · exact ⟨Or.inl he, hnew⟩
        · exact ⟨Or.inr rfl, hfresh⟩
      · rintro ⟨he | rfl, hnew⟩
        · exact Or.inl ⟨he, hnew⟩
        · exact Or.inr rfl

/-- The documents of one search bring the edges to their names. -/
theorem gathered_foldl_descendantChild {source : String} (docs : List Fields)
    (h : Gathered w₀ edges w) :
    Gathered w₀ (edges ++ (docs.filterMap fqnOf?).map fun child => ⟨source, child⟩)
      (docs.foldl (descendantChild source) w) := by
  induction docs generalizing w edges with
  | nil => simpa using h
  | cons doc rest ih =>
    rw [List.foldl_cons]
    cases hname : fqnOf? doc with
    | none =>
      have hsame : descendantChild source w doc = w := by
        unfold descendantChild
        rw [hname]
      rw [hsame, List.filterMap_cons_none hname]
      exact ih h
    | some target =>
      have hrest := ih (gathered_descendantChild h source hname)
      rw [List.filterMap_cons_some hname, List.map_cons]
      rwa [List.append_assoc] at hrest

theorem expanded_foldl_descendantChild (source : String) (docs : List Fields) (w : DescendantWalk) :
    (docs.foldl (descendantChild source) w).expanded = w.expanded := by
  refine List.foldlRecOn (motive := fun w' => w'.expanded = w.expanded) docs (descendantChild source)
    rfl ?_
  intro w' hw' doc _
  rw [← hw']
  unfold descendantChild
  cases fqnOf? doc with
  | none => rfl
  | some target =>
    dsimp only
    split <;> rfl

/-- **A level goes along all edges from its frontier.**  A name is not searched for a second time, but
    then its edges are there already. -/
theorem gathered_descendantLevel {frontier : List String}
    (hbefore : ∀ s ∈ w.expanded, ∀ e ∈ edgesFrom r fetch s,
      e ∈ w.graph.descendantEdges ∧ Keyed.contains w.graph.nodes e.target = true)
    (h : descendantLevel r fetch w frontier = .ok w') :
    Gathered w (frontier.flatMap (edgesFrom r fetch)) w'
      ∧ ∀ s, s ∈ w'.expanded ↔ s ∈ w.expanded ∨ s ∈ frontier := by
  refine Outcome.foldlM_keeps (P := fun done w' => Gathered w (done.flatMap (edgesFrom r fetch)) w'
    ∧ ∀ s, s ∈ w'.expanded ↔ s ∈ w.expanded ∨ s ∈ done) ?_ ?_ h
  · rintro done source w₁ w₂ ⟨hgathered, hexpanded⟩ hnode
    rw [List.flatMap_append, List.flatMap_singleton]
    unfold descendantNode at hnode
    by_cases hagain : source ∈ w₁.expanded
    · rw [if_pos hagain] at hnode
      cases hnode
      refine ⟨hgathered.again fun e he => ?_, ?_⟩
      · rcases (hexpanded source).1 hagain with hold | hdone
        · exact Or.inr (hbefore source hold e he)
        · exact Or.inl (List.mem_flatMap.2 ⟨source, hdone, he⟩)
      · intro s
        rw [hexpanded, List.mem_append, List.mem_singleton]
        constructor
        · rintro (hold | hdone)
          · exact Or.inl hold
          · exact Or.inr (Or.inl hdone)
        · rintro (hold | hdone | rfl)
          · exact Or.inl hold
          · exact Or.inr hdone
          · exact (hexpanded s).1 hagain
    · rw [if_neg hagain] at hnode
      obtain ⟨docs, hdocs, hnode⟩ := Outcome.bind_eq_ok hnode
      cases hnode
      have hchildren : children r fetch source = docs.filterMap fqnOf? := by
        unfold children
        rw [hdocs]
      constructor
      · unfold edgesFrom
        rw [hchildren]
        exact gathered_foldl_descendantChild docs (hgathered.expand (source :: w₁.expanded))
      · intro s
        rw [expanded_foldl_descendantChild, List.mem_cons, hexpanded, List.mem_append,
          List.mem_singleton]
        exact or_comm.trans or_assoc
  · refine ⟨⟨?_, ?_, ?_⟩, ?_⟩ <;> simp

/-! ## §3. The walk. -/

/-- A number of steps away from the sources, none of them to a barred name. -/
def DescendantIn (r : LineageRequest) (fetch : Query → Outcome (List Fields))
    (barred : String → Prop) : Nat → String → Prop :=
  ReachedIn (Avoiding barred (ChildOf r fetch)) r.fqn

/-- What the walk away from the sources knows after `n` levels. -/
structure DescendantsKnown (r : LineageRequest) (fetch : Query → Outcome (List Fields))
    (barred : String → Prop) (n : Nat) (w : DescendantWalk) (frontier : List String) : Prop where
  level : Level (ChildOf r fetch) barred r.fqn n
    (fun x => Keyed.contains w.graph.nodes x = true) (· ∈ frontier)
  edges : ∀ e, e ∈ w.graph.descendantEdges
    ↔ (∃ k < n, DescendantIn r fetch barred k e.source) ∧ ChildOf r fetch e.source e.target
  expanded : ∀ s ∈ w.expanded, ∃ k < n, DescendantIn r fetch barred k s

variable {barred : String → Prop}

/-- The children of what was expanded are nodes, and so are the edges to them in the graph. -/
theorem DescendantsKnown.complete {n : Nat} {frontier : List String}
    (h : DescendantsKnown r fetch barred n w frontier) {s : String} (hs : s ∈ w.expanded)
    {e : LineageEdge} (he : e ∈ edgesFrom r fetch s) :
    e ∈ w.graph.descendantEdges ∧ Keyed.contains w.graph.nodes e.target = true := by
  obtain ⟨rfl, hchild⟩ := mem_edgesFrom.1 he
  obtain ⟨k, hk, hreached⟩ := h.expanded _ hs
  refine ⟨(h.edges e).2 ⟨⟨k, hk, hreached⟩, hchild⟩, (h.level.seen_iff e.target).2 ?_⟩
  by_cases hbarred : barred e.target
  · exact Or.inl hbarred
  · exact Or.inr ⟨k + 1, hk, .next hreached ⟨hchild, hbarred⟩⟩

/-- **One level more**: the walk knows what is reached by one step more. -/
theorem DescendantsKnown.next {n : Nat} {frontier : List String}
    (h : DescendantsKnown r fetch barred n w frontier)
    (hlevel : descendantLevel r fetch w frontier = .ok w') :
    DescendantsKnown r fetch barred (n + 1) w' w'.next := by
  obtain ⟨hgathered, hexpanded⟩ :=
    gathered_descendantLevel (fun s hs e he => h.complete hs he) hlevel
  have hsteps : ∀ x, (∃ e ∈ frontier.flatMap (edgesFrom r fetch), e.target = x)
      ↔ ∃ y, y ∈ frontier ∧ ChildOf r fetch y x := by
    intro x
    constructor
    · rintro ⟨e, he, rfl⟩
      obtain ⟨y, hy, he⟩ := List.mem_flatMap.1 he
      obtain ⟨rfl, hchild⟩ := mem_edgesFrom.1 he
      exact ⟨e.source, hy, hchild⟩
    · rintro ⟨y, hy, hchild⟩
      exact ⟨⟨y, x⟩, List.mem_flatMap.2 ⟨y, hy, mem_edgesFrom.2 ⟨rfl, hchild⟩⟩, rfl⟩
  refine ⟨h.level.next ?_ ?_, ?_, ?_⟩
  · intro x
    rw [hgathered.nodes, hsteps]
  · intro x
    rw [hgathered.next, hsteps]
  · intro e
    have hnew : e ∈ frontier.flatMap (edgesFrom r fetch)
        ↔ e.source ∈ frontier ∧ ChildOf r fetch e.source e.target := by
      rw [List.mem_flatMap]
      constructor
      · rintro ⟨y, hy, he⟩
        obtain ⟨rfl, hchild⟩ := mem_edgesFrom.1 he
        exact ⟨hy, hchild⟩
      · rintro ⟨hsource, hchild⟩
        exact ⟨e.source, hsource, mem_edgesFrom.2 ⟨rfl, hchild⟩⟩
    rw [hgathered.descendantEdges, h.edges, hnew, ← or_and_right]
    exact and_congr_left fun _ => (h.level.expanded_succ e.source).symm
  · intro s hs
    refine (h.level.expanded_succ s).2 ?_
    exact ((hexpanded s).1 hs).imp (h.expanded s) id

/-- **A walk away from the sources finds what fewer steps reach than it has levels**, past the barred
    names. -/
theorem mem_descendantEdges_descendantWalk {depth n : Nat} {frontier : List String}
    {g : LineageGraph} (h : DescendantsKnown r fetch barred n w frontier)
    (hrun : descendantWalk r fetch depth w frontier = .ok g) (e : LineageEdge) :
    e ∈ g.descendantEdges ↔ (∃ k < n + depth, DescendantIn r fetch barred k e.source)
      ∧ ChildOf r fetch e.source e.target := by
  induction depth generalizing n w frontier with
  | zero =>
    cases hrun
    exact h.edges e
  | succ depth ih =>
    obtain ⟨w', hlevel, hrun⟩ := Outcome.bind_eq_ok hrun
    have hnext := h.next hlevel
    have hdepth : n + 1 + depth = n + (depth + 1) := by omega
    by_cases hempty : w'.next.isEmpty = true
    · rw [if_pos hempty] at hrun
      cases hrun
      have hnames : ∀ x, ¬ x ∈ w'.next := by
        rw [List.isEmpty_iff.1 hempty]
        exact fun _ => List.not_mem_nil
      rw [hnext.edges, ← hdepth]
      exact and_congr_left fun _ => (hnext.level.expanded_add hnames depth e.source).symm
    · rw [if_neg hempty] at hrun
      have hfound := ih hnext hrun
      rwa [hdepth] at hfound

/-! ## §4. The whole walk. -/

/-- Another node that the walk towards the sources has found. -/
def IsAncestor (r : LineageRequest) (node : String → Option Fields) (g : LineageGraph)
    (fqn : String) : Prop :=
  fqn ≠ r.fqn ∧ (∃ target, ⟨fqn, target⟩ ∈ g.ancestorEdges) ∧ (node fqn).isSome = true

/-- The walk away from the sources starts with the nodes of the other one. -/
theorem descendantsKnown_start {node : String → Option Fields} {depth : Nat} {g : LineageGraph}
    (h : AncestorsFound r node depth g) :
    DescendantsKnown r fetch (IsAncestor r node g) 0 { graph := g } [r.fqn] := by
  refine ⟨.initial ?_ (fun x => List.mem_singleton), ?_, ?_⟩
  · intro x
    unfold IsAncestor
    rw [h.nodes, LineageEdge.exists_source_iff]
    by_cases hself : x = r.fqn
    · simp [hself]
    · simp [hself]
  · intro e
    simp [h.descendantEdges]
  · intro s hs
    cases hs

/-- **The walk away from the sources collects exactly the edges from what it reaches past the ancestors.**
    It finds the edges to all children, as far as its levels go, if every name with children that is
    reached at all is also reached past the ancestors; and only then.  Without a walk towards the
    sources there is no ancestor, and it always does. -/
theorem descendants_traverse {root : Fields} {rest : List Fields} {g : LineageGraph}
    (hroot : fetch (rootQuery r) = .ok (root :: rest)) (h : traverse r fetch = .ok g) :
    (∀ u v, ⟨u, v⟩ ∈ g.descendantEdges
        ↔ (∃ n < r.descendantDepth, ReachedIn (Avoiding (IsAncestor r (nodeAt r fetch root) g)
            (ChildOf r fetch)) r.fqn n u) ∧ ChildOf r fetch u v)
      ∧ ((∀ u v, ⟨u, v⟩ ∈ g.descendantEdges
          ↔ (∃ n < r.descendantDepth, ReachedIn (ChildOf r fetch) r.fqn n u) ∧ ChildOf r fetch u v)
        ↔ ∀ u v, (∃ n < r.descendantDepth, ReachedIn (ChildOf r fetch) r.fqn n u) →
          ChildOf r fetch u v → ∃ n < r.descendantDepth,
            ReachedIn (Avoiding (IsAncestor r (nodeAt r fetch root) g) (ChildOf r fetch)) r.fqn n u)
      ∧ (r.ancestorDepth = 0 → ∀ u v, ⟨u, v⟩ ∈ g.descendantEdges
        ↔ (∃ n < r.descendantDepth, ReachedIn (ChildOf r fetch) r.fqn n u) ∧ ChildOf r fetch u v) := by
  obtain ⟨g₁, hfound, hrest⟩ := traverse_eq_ok hroot h
  have hsame := ancestorEdges_descendantWalk hrest
  have hbarred : IsAncestor r (nodeAt r fetch root) g = IsAncestor r (nodeAt r fetch root) g₁ := by
    unfold IsAncestor
    rw [hsame]
  have hedges : ∀ u v, ⟨u, v⟩ ∈ g.descendantEdges
      ↔ (∃ n < r.descendantDepth, ReachedIn (Avoiding (IsAncestor r (nodeAt r fetch root) g)
          (ChildOf r fetch)) r.fqn n u) ∧ ChildOf r fetch u v := by
    intro u v
    have hmem := mem_descendantEdges_descendantWalk (descendantsKnown_start hfound) hrest ⟨u, v⟩
    rw [Nat.zero_add] at hmem
    rw [hbarred]
    exact hmem
  -- a step past the ancestors is a step
  have hfree : ∀ u, (∃ n < r.descendantDepth, ReachedIn (Avoiding (IsAncestor r (nodeAt r fetch root) g)
      (ChildOf r fetch)) r.fqn n u) → ∃ n < r.descendantDepth, ReachedIn (ChildOf r fetch) r.fqn n u := by
    rintro u ⟨n, hn, hu⟩
    exact ⟨n, hn, hu.mono fun _ _ hstep => hstep.1⟩
  refine ⟨hedges, ?_, ?_⟩
  · constructor
    · intro hall u v hu hchild
      exact ((hedges u v).1 ((hall u v).2 ⟨hu, hchild⟩)).1
    · intro hpast u v
      rw [hedges]
      constructor
      · rintro ⟨hu, hchild⟩
        exact ⟨hfree u hu, hchild⟩
      · rintro ⟨hu, hchild⟩
        exact ⟨hpast u v hu hchild, hchild⟩
  · intro hdepth u v
    have hnone : ∀ x, ¬ IsAncestor r (nodeAt r fetch root) g x := by
      rintro x ⟨-, ⟨target, he⟩, -⟩
      rw [hsame, hfound.edges, hdepth] at he
      obtain ⟨-, -, ⟨k, hk, -⟩, -⟩ := he
      exact Nat.not_lt_zero k hk
    rw [hedges]
    constructor
    · rintro ⟨hu, hchild⟩
      exact ⟨hfree u hu, hchild⟩
    · rintro ⟨⟨n, hn, hu⟩, hchild⟩
      exact ⟨⟨n, hn, hu.mono fun _ b hstep => ⟨hstep, hnone b⟩⟩, hchild⟩

/-- One level from `staging` towards the sources, and two in the other direction. -/
def aroundStaging : LineageRequest := { fqn := "staging", ancestorDepth := 1, descendantDepth := 2 }

/-- Around `staging` the edge from `mart` back to `raw` is collected: `mart` is reached past the only
    ancestor, `raw`. -/
theorem descendants_traverse_cycle :
    ∃ g, traverse aroundStaging (searching tableCycle) = .ok g
      ∧ ⟨"mart", "raw"⟩ ∈ g.descendantEdges := by
  have hroot : searching tableCycle (rootQuery aroundStaging)
      = .ok [listing (.str "staging") ["raw"]] := by rfl
  have hrun : (traverse aroundStaging (searching tableCycle)).toOption.map (·.ancestorEdges)
      = some [⟨"raw", "staging"⟩] := by decide +kernel
  obtain ⟨g, hg, hancestors⟩ := Outcome.eq_ok_of_toOption_map hrun
  have hchild : "mart" ∈ children aroundStaging (searching tableCycle) "staging" := by decide +kernel
  have hback : "raw" ∈ children aroundStaging (searching tableCycle) "mart" := by decide +kernel
  have hpast : ¬ IsAncestor aroundStaging
      (nodeAt aroundStaging (searching tableCycle) (listing (.str "staging") ["raw"])) g "mart" := by
    rintro ⟨-, ⟨target, he⟩, -⟩
    rw [hancestors] at he
    have hraw : "mart" = "raw" := congrArg LineageEdge.source (List.mem_singleton.1 he)
    exact absurd hraw (by decide)
  refine ⟨g, hg, ?_⟩
  exact ((descendants_traverse hroot hg).1 "mart" "raw").2
    ⟨⟨1, by decide, .next .start ⟨hchild, hpast⟩⟩, hback⟩

/-- Two tables that are made of each other, and a third one that is made of the second. -/
def tablePair : List Fields :=
  [listing (.str "a") ["b"], listing (.str "b") ["a"], listing (.str "c") ["b"]]

/-- One level from `a` towards the sources, and two in the other direction. -/
def aroundA : LineageRequest := { fqn := "a", ancestorDepth := 1, descendantDepth := 2 }

/-- **The walk towards the sources changes what is found in the other direction.**  It finds `b`, which
    is then not gone on from as a child of `a`; without it, the edges from `b` are found as well. -/
theorem ancestor_not_expanded :
    (∀ q docs, searching tablePair q = .ok docs →
        ∀ doc ∈ docs, q.selects (fun _ _ => true) (.obj doc) = true)
      ∧ searching tablePair (rootQuery aroundA) = .ok [listing (.str "a") ["b"]]
      ∧ (∃ g, traverse { aroundA with ancestorDepth := 0 } (searching tablePair) = .ok g
        ∧ g.descendantEdges = [⟨"a", "b"⟩, ⟨"b", "a"⟩, ⟨"b", "c"⟩])
      ∧ ∃ g, traverse aroundA (searching tablePair) = .ok g ∧ g.descendantEdges = [⟨"a", "b"⟩]
        ∧ ¬ ∀ u v, ⟨u, v⟩ ∈ g.descendantEdges
          ↔ (∃ n < aroundA.descendantDepth,
              ReachedIn (ChildOf aroundA (searching tablePair)) aroundA.fqn n u)
            ∧ ChildOf aroundA (searching tablePair) u v := by
  have halone : (traverse { aroundA with ancestorDepth := 0 } (searching tablePair)).toOption.map
      (·.descendantEdges) = some [⟨"a", "b"⟩, ⟨"b", "a"⟩, ⟨"b", "c"⟩] := by decide +kernel
  have hrun : (traverse aroundA (searching tablePair)).toOption.map (·.descendantEdges)
      = some [⟨"a", "b"⟩] := by decide +kernel
  have hchild : "b" ∈ children aroundA (searching tablePair) "a" := by decide +kernel
  have hbehind : "c" ∈ children aroundA (searching tablePair) "b" := by decide +kernel
  obtain ⟨g, hg, hedges⟩ := Outcome.eq_ok_of_toOption_map hrun
  refine ⟨fun q docs h doc hdoc => selects_of_searching h hdoc, rfl,
    Outcome.eq_ok_of_toOption_map halone, g, hg, hedges, ?_⟩
  intro hall
  have hcollected : (⟨"b", "c"⟩ : LineageEdge) ∈ g.descendantEdges :=
    (hall "b" "c").2 ⟨⟨1, by decide, .next .start hchild⟩, hbehind⟩
  rw [hedges] at hcollected
  exact absurd hcollected (by decide)

end CatalogIndex.Lineage
