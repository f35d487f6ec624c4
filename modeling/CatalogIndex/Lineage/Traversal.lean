/-
  CatalogIndex.Lineage.Traversal — walking through the graph.

  A document lists the edges that lead to it.  Towards the sources the walk reads these lists; away
  from them it searches for the documents whose lists name the current node.  Both directions go
  level by level, and end when a level brings nothing new or the wanted depth is reached.

  The searches of a walk are run by a given function in any monad: it may fail, and it may keep a
  state.

  ## Main definitions

    * `limited` — the query of a search, with the conditions that hold for all of them;
    * `ancestorLevel`, `descendantLevel` — one level of the walk;
    * `traverse` — the graph around an entity;
    * `traverseSchema` — the graphs around all tables of a schema, in one.
-/
import CatalogIndex.Lineage.Graph
import CatalogIndex.Query.Request

namespace CatalogIndex.Lineage

/-! ## §1. Documents and queries. -/

/-- The fully qualified name of a document. -/
def fqnOf? (doc : Fields) : Option String := (Keyed.get? doc "fullyQualifiedName").bind Json.asStr?

/-- The fully qualified name of the source of an edge. -/
def edgeSource? (edge : Json) : Option String :=
  ((edge.field? "fromEntity").bind fun source =>
    (source.field? "fullyQualifiedName").or (source.field? "fqn")).bind Json.asStr?

/-- The sources of the edges that a document lists. -/
def edgeSources (edgeField : String) (doc : Fields) : List String :=
  (((Keyed.get? doc edgeField).bind Json.asArr?).getD []).filterMap edgeSource?

/-- A query under the conditions of the walk: no deleted documents unless they are asked for, and
    the filter of the request, and `more`. -/
def limitedWith (r : LineageRequest) (q : Query) (more : List Query) : Query :=
  .bool [q] [] (if r.includeDeleted then [] else [.term "deleted" (.bool true)])
    ((r.queryFilter.map .raw).toList ++ more)

/-- A query under the conditions of the walk. -/
def limited (r : LineageRequest) (q : Query) : Query := limitedWith r q []

/-- The search for the entity that the walk starts from. -/
def rootQuery (r : LineageRequest) : Query :=
  limitedWith r (Query.textTerm "fullyQualifiedName" r.fqn)
    (r.entityType.map (Query.textTerm "entityType")).toList

/-- The search for a node by its name. -/
def nodeQuery (r : LineageRequest) (fqn : String) : Query :=
  limited r (Query.textTerm "fullyQualifiedName" fqn)

/-- The search for the documents that list an edge from a node. -/
def childQuery (r : LineageRequest) (fqn : String) : Query :=
  limited r (Query.textTerm (r.kind.edgeField ++ ".fromEntity.fullyQualifiedName") fqn)

variable {m : Type → Type} [Monad m]

/-! ## §2. Towards the sources. -/

/-- Follows one edge from `source` to `target`: the edge joins the graph, and so does the source, if
    it is new and can be found.  Newly found documents are collected in `next`. -/
def ancestorEdge (r : LineageRequest) (fetch : Query → m (List Fields)) (target : String)
    (walk : LineageGraph × List Fields) (source : String) : m (LineageGraph × List Fields) := do
  let (g, next) := walk
  let g := { g with ancestorEdges := LineageEdge.add g.ancestorEdges ⟨source, target⟩ }
  if Keyed.contains g.nodes source then return (g, next)
  match ← fetch (nodeQuery r source) with
  | [] => return (g, next)
  | doc :: _ => return ({ g with nodes := Keyed.insert g.nodes source doc }, next ++ [doc])

/-- Follows the edges that a document lists. -/
def ancestorNode (r : LineageRequest) (fetch : Query → m (List Fields))
    (walk : LineageGraph × List Fields) (doc : Fields) : m (LineageGraph × List Fields) :=
  match fqnOf? doc with
  | none => return walk
  | some target =>
    (edgeSources r.kind.edgeField doc).foldlM (ancestorEdge r fetch target) walk

/-- One level towards the sources: the graph, and the documents that the level brought. -/
def ancestorLevel (r : LineageRequest) (fetch : Query → m (List Fields)) (g : LineageGraph)
    (frontier : List Fields) : m (LineageGraph × List Fields) :=
  frontier.foldlM (ancestorNode r fetch) (g, [])

/-- Up to `depth` levels towards the sources. -/
def ancestorWalk (r : LineageRequest) (fetch : Query → m (List Fields)) :
    Nat → LineageGraph → List Fields → m LineageGraph
  | 0, g, _ => return g
  | depth + 1, g, frontier => do
    let (g, next) ← ancestorLevel r fetch g frontier
    if next.isEmpty then return g else ancestorWalk r fetch depth g next

/-! ## §3. Away from the sources. -/

/-- The state of the walk away from the sources. -/
structure DescendantWalk where
  graph : LineageGraph
  /-- The nodes whose children were searched for. -/
  expanded : List String := []
  /-- The nodes that the level brought. -/
  next : List String := []

/-- A document that lists an edge from `source` joins the graph with this edge. -/
def descendantChild (source : String) (w : DescendantWalk) (doc : Fields) : DescendantWalk :=
  match fqnOf? doc with
  | none => w
  | some target =>
    let g := { w.graph with descendantEdges := LineageEdge.add w.graph.descendantEdges ⟨source, target⟩ }
    if Keyed.contains g.nodes target then { w with graph := g }
    else
      { w with
        graph := { g with nodes := Keyed.insert g.nodes target doc }, next := w.next ++ [target] }

/-- Searches for the children of a node, unless that was done before. -/
def descendantNode (r : LineageRequest) (fetch : Query → m (List Fields)) (w : DescendantWalk)
    (source : String) : m DescendantWalk := do
  if source ∈ w.expanded then return w
  let docs ← fetch (childQuery r source)
  return docs.foldl (descendantChild source) { w with expanded := source :: w.expanded }

/-- One level away from the sources. -/
def descendantLevel (r : LineageRequest) (fetch : Query → m (List Fields)) (w : DescendantWalk)
    (frontier : List String) : m DescendantWalk :=
  frontier.foldlM (descendantNode r fetch) { w with next := [] }

/-- Up to `depth` levels away from the sources. -/
def descendantWalk (r : LineageRequest) (fetch : Query → m (List Fields)) :
    Nat → DescendantWalk → List String → m LineageGraph
  | 0, w, _ => return w.graph
  | depth + 1, w, frontier => do
    let w ← descendantLevel r fetch w frontier
    if w.next.isEmpty then return w.graph else descendantWalk r fetch depth w w.next

/-! ## §4. Whole walks. -/

/-- The graph around an entity; without the entity the graph is empty. -/
def traverse (r : LineageRequest) (fetch : Query → m (List Fields)) : m LineageGraph := do
  match ← fetch (rootQuery r) with
  | [] => return {}
  | root :: _ =>
    let g : LineageGraph := { entity := some root, nodes := [(r.fqn, root)] }
    let g ← ancestorWalk r fetch r.ancestorDepth g [root]
    descendantWalk r fetch r.descendantDepth { graph := g } [r.fqn]

/-- The walk around one table of a schema. -/
def tableRequest (r : LineageRequest) (fqn : String) : LineageRequest :=
  { r with fqn, entityType := none }

/-- The graphs around all tables of the schema `r.fqn`, in one. -/
def traverseSchema (r : LineageRequest) (fetch : Query → m (List Fields)) : m LineageGraph := do
  let tables ← fetch (limited r (Query.textTerm "databaseSchema.fullyQualifiedName" r.fqn))
  (tables.filterMap fqnOf?).foldlM
    (fun g fqn => return g.merge (← traverse (tableRequest r fqn) fetch)) {}

end CatalogIndex.Lineage
