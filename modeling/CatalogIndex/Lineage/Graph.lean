/-
  CatalogIndex.Lineage.Graph — the graph around an entity.

  Nodes are documents under their fully qualified names.  Edges lead from a source to what is made of
  it, and are kept apart by the direction in which the walk found them.
-/
import CatalogIndex.Json.Source

namespace CatalogIndex

/-! ## §1. Edges. -/

/-- An edge from a source to what is made of it. -/
structure LineageEdge where
  source : String
  target : String
  deriving DecidableEq

namespace LineageEdge

/-- The order of edges: by source, and by target for equal sources. -/
def before (a b : LineageEdge) : Bool :=
  a.source < b.source || (a.source == b.source && decide (a.target < b.target))

/-- Adds an edge to edges in ascending order, unless it is there. -/
def add (edges : List LineageEdge) (e : LineageEdge) : List LineageEdge :=
  match edges with
  | [] => [e]
  | f :: rest =>
    if e = f then f :: rest
    else if e.before f then e :: f :: rest
    else f :: add rest e

/-- All of some edges and of others. -/
def union (edges more : List LineageEdge) : List LineageEdge := more.foldl add edges

/-- The stored form. -/
def toJson (e : LineageEdge) : Json :=
  .object [("from_fqn", .str e.source), ("to_fqn", .str e.target)]

/-- An edge from a source. -/
def decode? {ν : Type} [Source ν] (x : ν) : Option LineageEdge := do
  let p ← Source.parts? ["from_fqn", "to_fqn"] x
  let source ← p.required "from_fqn" Source.text?
  let target ← p.required "to_fqn" Source.text?
  some { source, target }

end LineageEdge

/-! ## §2. Graphs. -/

/-- The graph around an entity. -/
structure LineageGraph where
  /-- The document of the entity itself. -/
  entity : Option Fields := none
  nodes : Keyed Fields := []
  /-- Edges found on the way towards the sources, in ascending order. -/
  ancestorEdges : List LineageEdge := []
  /-- Edges found on the way away from the sources, in ascending order. -/
  descendantEdges : List LineageEdge := []

namespace LineageGraph

/-- The graph with the nodes and edges of another one.  A node that is in both stays as it is. -/
def merge (g other : LineageGraph) : LineageGraph :=
  { g with
    nodes := other.nodes.foldl
      (fun nodes (fqn, node) => if Keyed.contains nodes fqn then nodes else Keyed.insert nodes fqn node)
      g.nodes
    ancestorEdges := LineageEdge.union g.ancestorEdges other.ancestorEdges
    descendantEdges := LineageEdge.union g.descendantEdges other.descendantEdges }

/-- The flat form for exports. -/
def toExport (g : LineageGraph) : Fields :=
  let edges (es : List LineageEdge) : Json :=
    .arr (es.map fun e => .object [("fromEntity", .str e.source), ("toEntity", .str e.target)])
  Keyed.ofList
    [("entity", Json.orNull (g.entity.map .obj)), ("nodes", .arr (g.nodes.map fun node => .obj node.2)),
      ("upstreamEdges", edges g.ancestorEdges), ("downstreamEdges", edges g.descendantEdges)]

/-- The stored form. -/
def toJson (g : LineageGraph) : Json :=
  .object
    [("entity", Json.orNull (g.entity.map .obj)),
      ("nodes", .obj (g.nodes.map fun (fqn, node) => (fqn, .obj node))),
      ("upstream_edges", .arr (g.ancestorEdges.map LineageEdge.toJson)),
      ("downstream_edges", .arr (g.descendantEdges.map LineageEdge.toJson))]

/-- The fields in the order of their declaration. -/
def fieldNames : List String := ["entity", "nodes", "upstream_edges", "downstream_edges"]

/-- The value of a stored graph. -/
def decode? (v : Json) : Option LineageGraph := do
  let p ← Source.parts? fieldNames v
  let entity ← p.nullable "entity" Json.asObj?
  let nodes ← p.required "nodes" fun v =>
    v.asObj?.bind fun fields => fields.mapM fun (fqn, node) => node.asObj?.map (fqn, ·)
  let ancestorEdges ← p.required "upstream_edges" (Source.listOf? LineageEdge.decode?)
  let descendantEdges ← p.required "downstream_edges" (Source.listOf? LineageEdge.decode?)
  some
    { entity, nodes, ancestorEdges := LineageEdge.union [] ancestorEdges
      descendantEdges := LineageEdge.union [] descendantEdges }

end LineageGraph

end CatalogIndex
