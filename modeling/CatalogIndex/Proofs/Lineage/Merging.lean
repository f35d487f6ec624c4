/-
  CatalogIndex.Proofs.Lineage.Merging — graphs put into one.

  A merge adds the nodes and edges of a graph to another one.  Both are kept in order, each once, so the
  names of the nodes and the edges of a graph that was put together are known from their members, whatever
  the order of the merges.

  A merge that finds everything in its place changes nothing.  An edge is looked for in front of the first
  edge that is not before it, so an edge has to stand there (`Settled`); it does once it was added, and no
  other edge that is added moves it away.

  ## Main definitions

    * `Ascending`, `Ordered` — edges in order, and graphs;
    * `Settled` — an edge that would not be added again;
    * `Holds` — a graph in which a merge finds everything of another one.

  ## Main results

    * `Ordered.merge`, `mem_union`, `contains_merge` — what a merged graph has;
    * `Holds.merge` — the step: what a graph holds, it holds after one more merge;
    * `merge_again` — merging a graph a second time changes nothing.
-/
import CatalogIndex.Lineage.Graph
import CatalogIndex.Proofs.Keyed
import Mathlib.Data.List.Sort
import Mathlib.Data.String.Basic

namespace CatalogIndex

/-! ## §1. The order of edges. -/

namespace LineageEdge

variable {a b c e f : LineageEdge} {edges rest : List LineageEdge}

theorem before_iff : a.before b = true
    ↔ a.source < b.source ∨ a.source = b.source ∧ a.target < b.target := by
  simp [before]

theorem before_irrefl (a : LineageEdge) : ¬ a.before a = true := by
  rw [before_iff]
  rintro (hlt | ⟨-, hlt⟩)
  · exact String.lt_irrefl _ hlt
  · exact String.lt_irrefl _ hlt

theorem before_trans (hab : a.before b = true) (hbc : b.before c = true) : a.before c = true := by
  rw [before_iff] at hab hbc ⊢
  rcases hab with hab | ⟨hsource, hab⟩
  · rcases hbc with hbc | ⟨hsource', -⟩
    · exact Or.inl (String.lt_trans hab hbc)
    · exact Or.inl (hsource' ▸ hab)
  · rcases hbc with hbc | ⟨hsource', hbc⟩
    · exact Or.inl (hsource ▸ hbc)
    · exact Or.inr ⟨hsource.trans hsource', String.lt_trans hab hbc⟩

theorem before_asymm (h : a.before b = true) : ¬ b.before a = true :=
  fun h' => before_irrefl a (before_trans h h')

/-- Of two edges one is before the other, unless they are the same. -/
theorem before_trichotomy (a b : LineageEdge) : a = b ∨ a.before b = true ∨ b.before a = true := by
  obtain ⟨u, v⟩ := a
  obtain ⟨u', v'⟩ := b
  simp only [before_iff, LineageEdge.mk.injEq]
  rcases lt_trichotomy u u' with hlt | rfl | hlt
  · exact Or.inr (Or.inl (Or.inl hlt))
  · rcases lt_trichotomy v v' with hlt | rfl | hlt
    · exact Or.inr (Or.inl (Or.inr ⟨rfl, hlt⟩))
    · exact Or.inl ⟨rfl, rfl⟩
    · exact Or.inr (Or.inr (Or.inr ⟨rfl, hlt⟩))
  · exact Or.inr (Or.inr (Or.inl hlt))

/-- Edges in order, each once. -/
def Ascending (edges : List LineageEdge) : Prop := edges.Pairwise fun a b => a.before b = true

/-- **Edges in order are known from their members.** -/
theorem Ascending.eq_of_mem_iff {edges' : List LineageEdge} (h : Ascending edges)
    (h' : Ascending edges') (hmem : ∀ e, e ∈ edges ↔ e ∈ edges') : edges = edges' := by
  -- no edge is before itself, and no two are before each other
  have hirrefl : Std.Irrefl fun a b : LineageEdge => a.before b = true := ⟨before_irrefl⟩
  have hantisymm : Std.Antisymm fun a b : LineageEdge => a.before b = true :=
    ⟨fun _ _ hab hba => absurd hba (before_asymm hab)⟩
  exact List.Pairwise.eq_of_mem_iff h h' hmem

/-! ## §2. Edges added one after the other. -/

theorem mem_add (edges : List LineageEdge) (e f : LineageEdge) :
    f ∈ add edges e ↔ f = e ∨ f ∈ edges := by
  induction edges with
  | nil => simp [add]
  | cons head rest ih =>
    unfold add
    by_cases heq : e = head
    · subst heq
      simp
    · rw [if_neg heq]
      split
      · simp
      · simp [ih, or_left_comm]

theorem exists_source_iff {source : String} :
    (∃ e ∈ edges, e.source = source) ↔ ∃ target, ⟨source, target⟩ ∈ edges := by
  constructor
  · rintro ⟨⟨u, v⟩, he, rfl⟩
    exact ⟨v, he⟩
  · rintro ⟨target, he⟩
    exact ⟨_, he, rfl⟩

theorem add_cons_self (e : LineageEdge) (rest : List LineageEdge) : add (e :: rest) e = e :: rest :=
  if_pos rfl

theorem add_cons_of_before (h : e.before f = true) : add (f :: rest) e = e :: f :: rest := by
  have hne : e ≠ f := fun heq => before_irrefl e (heq ▸ h)
  unfold add
  rw [if_neg hne, if_pos h]

theorem add_cons_of_after (h : f.before e = true) : add (f :: rest) e = f :: add rest e := by
  have hne : e ≠ f := fun heq => before_irrefl e (heq ▸ h)
  rw [add, if_neg hne, if_neg (before_asymm h)]

theorem ascending_add (h : Ascending edges) (e : LineageEdge) : Ascending (add edges e) := by
  induction edges with
  | nil => exact List.pairwise_singleton _ _
  | cons f rest ih =>
    obtain ⟨hhead, hrest⟩ := List.pairwise_cons.1 h
    rcases before_trichotomy e f with rfl | hbefore | hafter
    · rwa [add_cons_self]
    · rw [add_cons_of_before hbefore]
      refine List.pairwise_cons.2 ⟨?_, h⟩
      intro x hx
      rcases List.mem_cons.1 hx with rfl | hx
      · exact hbefore
      · exact before_trans hbefore (hhead x hx)
    · rw [add_cons_of_after hafter]
      refine List.pairwise_cons.2 ⟨?_, ih hrest⟩
      intro x hx
      rcases (mem_add _ _ _).1 hx with rfl | hx
      · exact hafter
      · exact hhead x hx

theorem ascending_union (h : Ascending edges) (more : List LineageEdge) :
    Ascending (union edges more) :=
  List.foldlRecOn more add h fun _ hedges e _ => ascending_add hedges e

theorem mem_union (edges more : List LineageEdge) (e : LineageEdge) :
    e ∈ union edges more ↔ e ∈ edges ∨ e ∈ more := by
  -- each edge is added to what the earlier ones have left
  induction more generalizing edges with
  | nil => simp [union]
  | cons f rest ih =>
    show e ∈ union (add edges f) rest ↔ _
    rw [ih, mem_add, List.mem_cons, or_comm (a := e = f)]
    exact or_assoc

/-- The edge stands where it would be added. -/
def Settled (edges : List LineageEdge) (e : LineageEdge) : Prop := add edges e = edges

theorem settled_cons_iff : Settled (f :: rest) e ↔ e = f ∨ f.before e = true ∧ Settled rest e := by
  unfold Settled
  rcases before_trichotomy e f with rfl | hbefore | hafter
  · simp [add_cons_self]
  · -- it would be added in front, so it does not stand there
    rw [add_cons_of_before hbefore]
    constructor
    · intro h
      exact absurd (congrArg List.length h) (by simp)
    · rintro (rfl | ⟨hafter, -⟩)
      · exact absurd hbefore (before_irrefl _)
      · exact absurd hafter (before_asymm hbefore)
  · rw [add_cons_of_after hafter, List.cons.injEq]
    have hne : e ≠ f := fun heq => before_irrefl e (heq ▸ hafter)
    simp [hafter, hne]

theorem settled_add (edges : List LineageEdge) (e : LineageEdge) : Settled (add edges e) e := by
  induction edges with
  | nil => exact add_cons_self e []
  | cons f rest ih =>
    rcases before_trichotomy e f with rfl | hbefore | hafter
    · rw [add_cons_self]
      exact settled_cons_iff.2 (Or.inl rfl)
    · rw [add_cons_of_before hbefore]
      exact settled_cons_iff.2 (Or.inl rfl)
    · rw [add_cons_of_after hafter]
      exact settled_cons_iff.2 (Or.inr ⟨hafter, ih⟩)

/-- **No other edge moves it away.** -/
theorem Settled.add (h : Settled edges e) (f : LineageEdge) : Settled (add edges f) e := by
  induction edges with
  | nil => cases h
  | cons g rest ih =>
    rcases before_trichotomy f g with rfl | hbefore | hafter
    · rwa [add_cons_self]
    · -- the new edge is in front of the first one, and so in front of this one
      rw [add_cons_of_before hbefore]
      refine settled_cons_iff.2 (Or.inr ⟨?_, h⟩)
      rcases settled_cons_iff.1 h with rfl | ⟨hg, -⟩
      · exact hbefore
      · exact before_trans hbefore hg
    · rw [add_cons_of_after hafter]
      exact settled_cons_iff.2 ((settled_cons_iff.1 h).imp_right fun hrest => ⟨hrest.1, ih hrest.2⟩)

theorem Settled.union (h : Settled edges e) (more : List LineageEdge) : Settled (union edges more) e :=
  List.foldlRecOn (motive := fun edges => Settled edges e) more LineageEdge.add h
    fun _ hedges f _ => Settled.add hedges f

theorem settled_union {more : List LineageEdge} (he : e ∈ more) (edges : List LineageEdge) :
    Settled (union edges more) e := by
  -- it is added at its turn, and stays where it is from then on
  induction more generalizing edges with
  | nil => cases he
  | cons f rest ih =>
    rcases List.mem_cons.1 he with rfl | he
    · exact (settled_add edges e).union rest
    · exact ih he (LineageEdge.add edges f)

/-- Edges that stand where they would be added are not added again. -/
theorem union_eq_self {more : List LineageEdge} (h : ∀ e ∈ more, Settled edges e) :
    union edges more = edges := by
  induction more with
  | nil => rfl
  | cons f rest ih =>
    obtain ⟨hf, hrest⟩ := List.forall_mem_cons.1 h
    show union (LineageEdge.add edges f) rest = edges
    rw [hf, ih hrest]

end LineageEdge

/-! ## §3. Nodes. -/

/-- Collections in order have the same keys if the same keys have a value. -/
theorem Keyed.keys_eq_of_contains_iff {α : Type} {a b : Keyed α} (ha : Keyed.Ascending a)
    (hb : Keyed.Ascending b)
    (h : ∀ key, Keyed.contains a key = true ↔ Keyed.contains b key = true) :
    Keyed.keys a = Keyed.keys b := by
  refine List.Pairwise.eq_of_mem_iff (Keyed.ascending_iff_keys.1 ha) (Keyed.ascending_iff_keys.1 hb) ?_
  intro key
  rw [← Keyed.contains_iff_mem_keys, ← Keyed.contains_iff_mem_keys, h]

namespace LineageGraph

/-- The nodes with one more, unless there is one of that name. -/
def addNode (nodes : Keyed Fields) (node : String × Fields) : Keyed Fields :=
  if Keyed.contains nodes node.1 then nodes else Keyed.insert nodes node.1 node.2

variable {nodes more : Keyed Fields}

theorem contains_addNode (nodes : Keyed Fields) (node : String × Fields) (x : String) :
    Keyed.contains (addNode nodes node) x = true ↔ x = node.1 ∨ Keyed.contains nodes x = true := by
  unfold addNode
  by_cases hthere : Keyed.contains nodes node.1 = true
  · rw [if_pos hthere]
    exact ⟨Or.inr, fun h => h.elim (fun hx => hx ▸ hthere) id⟩
  · rw [if_neg hthere, Keyed.contains_insert]

theorem ascending_addNode (h : Keyed.Ascending nodes) (node : String × Fields) :
    Keyed.Ascending (addNode nodes node) := by
  unfold addNode
  split
  · exact h
  · exact Keyed.ascending_insert h _ _

theorem contains_foldl_addNode (nodes more : Keyed Fields) (x : String) :
    Keyed.contains (more.foldl addNode nodes) x = true
      ↔ Keyed.contains nodes x = true ∨ Keyed.contains more x = true := by
  rw [Keyed.contains_iff_mem_keys more]
  induction more generalizing nodes with
  | nil => simp [Keyed.keys]
  | cons node rest ih =>
    have hkeys : x ∈ Keyed.keys (node :: rest) ↔ x = node.1 ∨ x ∈ Keyed.keys rest := List.mem_cons
    rw [List.foldl_cons, ih, contains_addNode, hkeys, or_comm (a := x = node.1)]
    exact or_assoc

theorem foldl_addNode_eq_self
    (h : ∀ x, Keyed.contains more x = true → Keyed.contains nodes x = true) :
    more.foldl addNode nodes = nodes := by
  simp only [Keyed.contains_iff_mem_keys more] at h
  induction more with
  | nil => rfl
  | cons node rest ih =>
    have hnode : addNode nodes node = nodes := if_pos (h node.1 List.mem_cons_self)
    rw [List.foldl_cons, hnode]
    exact ih fun x hx => h x (List.mem_cons_of_mem _ hx)

/-! ## §4. Merged graphs. -/

/-- Nodes and edges in order. -/
structure Ordered (g : LineageGraph) : Prop where
  nodes : Keyed.Ascending g.nodes
  ancestorEdges : LineageEdge.Ascending g.ancestorEdges
  descendantEdges : LineageEdge.Ascending g.descendantEdges

variable {g other : LineageGraph}

theorem ordered_empty : Ordered {} := ⟨.nil, .nil, .nil⟩

/-- A merge keeps the order, whatever is merged. -/
theorem Ordered.merge (h : Ordered g) (other : LineageGraph) : Ordered (g.merge other) where
  nodes := List.foldlRecOn (motive := Keyed.Ascending) other.nodes addNode h.nodes
    fun _ hnodes node _ => ascending_addNode hnodes node
  ancestorEdges := LineageEdge.ascending_union h.ancestorEdges other.ancestorEdges
  descendantEdges := LineageEdge.ascending_union h.descendantEdges other.descendantEdges

/-- The nodes of a merged graph are those of both. -/
theorem contains_merge (g other : LineageGraph) (x : String) :
    Keyed.contains (g.merge other).nodes x = true
      ↔ Keyed.contains g.nodes x = true ∨ Keyed.contains other.nodes x = true :=
  contains_foldl_addNode g.nodes other.nodes x

/-- Everything of the other graph is where a merge looks for it. -/
structure Holds (g other : LineageGraph) : Prop where
  nodes : ∀ x, Keyed.contains other.nodes x = true → Keyed.contains g.nodes x = true
  ancestorEdges : ∀ e ∈ other.ancestorEdges, LineageEdge.Settled g.ancestorEdges e
  descendantEdges : ∀ e ∈ other.descendantEdges, LineageEdge.Settled g.descendantEdges e

theorem holds_merge (g other : LineageGraph) : Holds (g.merge other) other where
  nodes x hx := (contains_merge g other x).2 (Or.inr hx)
  ancestorEdges _ he := LineageEdge.settled_union he g.ancestorEdges
  descendantEdges _ he := LineageEdge.settled_union he g.descendantEdges

/-- **One merge more**: what a graph holds, it goes on holding. -/
theorem Holds.merge (h : Holds g other) (more : LineageGraph) : Holds (g.merge more) other where
  nodes x hx := (contains_merge g more x).2 (Or.inl (h.nodes x hx))
  ancestorEdges e he := (h.ancestorEdges e he).union more.ancestorEdges
  descendantEdges e he := (h.descendantEdges e he).union more.descendantEdges

theorem Holds.merge_eq (h : Holds g other) : g.merge other = g := by
  have hnodes : other.nodes.foldl addNode g.nodes = g.nodes := foldl_addNode_eq_self h.nodes
  have hancestors := LineageEdge.union_eq_self h.ancestorEdges
  have hdescendants := LineageEdge.union_eq_self h.descendantEdges
  show { g with nodes := other.nodes.foldl addNode g.nodes, ancestorEdges := _, descendantEdges := _ } = g
  rw [hnodes, hancestors, hdescendants]

/-- **Merging a graph a second time changes nothing**, whatever was merged in between. -/
theorem merge_again (g other : LineageGraph) (between : List LineageGraph) :
    (between.foldl merge (g.merge other)).merge other = between.foldl merge (g.merge other) := by
  have hholds : Holds (between.foldl merge (g.merge other)) other :=
    List.foldlRecOn (motive := fun g' => Holds g' other) between merge (holds_merge g other)
      fun _ hg' more _ => hg'.merge more
  exact hholds.merge_eq

end LineageGraph

end CatalogIndex
