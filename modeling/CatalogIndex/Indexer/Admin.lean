/-
  CatalogIndex.Indexer.Admin — the indexes of a deployment as a whole.

  Every mapping of the registry wants an index in the cluster, with its aliases.  What goes wrong
  here is not counted: the next run makes up for it, or the writes to a missing index will fail.
-/
import CatalogIndex.Cluster.Admin
import CatalogIndex.Indexer.Basic

namespace CatalogIndex.Indexing

open Attempt

variable {σ : Type}

/-! ## §1. One index. -/

/-- Makes an attempt, whatever comes of it. -/
def attempt (x : Attempt σ Unit) : Indexing σ Unit := do
  let _ ← ExceptT.run x

/-- The name of the index of a mapping. -/
def indexName (m : IndexMapping) : Indexing σ String :=
  return m.index (← read).registry.clusterAlias

/-- Whether there is an index for the mapping; if that cannot be found out, there is none. -/
def indexExists (m : IndexMapping) : Indexing σ Bool := do
  let index ← indexName m
  match ← ExceptT.run (exchange fun _ => Cluster.indexExists index) with
  | .ok found => return found
  | .error _ => return false

/-- The text of the schema of a mapping. -/
def schemaOf (m : IndexMapping) : Attempt σ String :=
  ask fun indexer => indexer.registry.readSchema indexer.fileText m

/-- Lets the index of a mapping belong to all its aliases. -/
def joinAliases (m : IndexMapping) (index : String) : Attempt σ Unit := do
  let aliases := m.allAliases (← read).registry.clusterAlias
  exchange fun _ => Cluster.createAliases index aliases

/-- Makes the index of a mapping, with its aliases, unless there is one. -/
def createIndex (m : IndexMapping) : Indexing σ Unit := do
  let index ← indexName m
  attempt do
    if ← ExceptT.lift (indexExists m) then return
    let schema ← schemaOf m
    exchange fun _ => Cluster.createIndex index schema
    joinAliases m index

/-- Brings the index of a mapping up to date with its schema, or makes it; then the aliases. -/
def updateIndex (m : IndexMapping) : Indexing σ Unit := do
  let index ← indexName m
  attempt do
    let schema ← schemaOf m
    if ← ExceptT.lift (indexExists m) then exchange fun _ => Cluster.updateIndex index schema
    else exchange fun _ => Cluster.createIndex index schema
    joinAliases m index

/-- Removes the index of a mapping, if there is one. -/
def deleteIndex (m : IndexMapping) : Indexing σ Unit := do
  let index ← indexName m
  attempt do
    if ← ExceptT.lift (indexExists m) then exchange fun _ => Cluster.deleteIndex index

/-! ## §2. All indexes. -/

/-- Makes the index of every mapping that has none. -/
def createIndexes : Indexing σ Unit := do
  (Keyed.values (← read).registry.mappings).forM createIndex

/-- Brings the index of every mapping up to date. -/
def updateIndexes : Indexing σ Unit := do
  (Keyed.values (← read).registry.mappings).forM updateIndex

end CatalogIndex.Indexing
