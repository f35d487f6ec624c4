/-
  CatalogIndex.Indexer.Writes — entities come, change and go.

  Each of these programs first writes the document of the entity itself.  If that succeeds, the
  documents that hold copies of the entity follow: cascade after cascade, and a cascade that fails
  does not stop the others.

  ## Main definitions

    * `createEntity`, `createEntities` — new entities;
    * `updateEntity` — a changed entity, and what follows from its change;
    * `deleteEntity`, `softDeleteOrRestore` — removal, for good or by a flag.
-/
import CatalogIndex.Cluster.Documents
import CatalogIndex.Document.Write
import CatalogIndex.Indexer.Basic

namespace CatalogIndex.Indexing

open Attempt

variable {σ : Type}

/-! ## §1. New documents. -/

/-- The document of an entity or record. -/
def buildDocument (x : Indexable) : Attempt σ Document := ask (·.builders.build x)

/-- A new entity. -/
def createEntity (e : Entity) : Indexing σ Unit :=
  absorb "create_entity" e.entityType e.id.toText do
    let index ← indexOf e.entityType
    let d ← buildDocument e.indexable
    exchange fun _ => Cluster.createDocument index d
    Attempt.record (Stats.addCreated 1)

/-- A new record of a time series. -/
def createTimeSeriesRecord (r : TimeSeriesRecord) : Indexing σ Unit :=
  absorb "create_time_series_entity" r.entityType r.id.toText do
    let index ← indexOf r.entityType
    let d ← buildDocument r.indexable
    exchange fun _ => Cluster.createRecord index d
    Attempt.record (Stats.addCreated 1)

/-! ## §2. Many new documents. -/

/-- Takes the document of an entity into the buffer.  A document that cannot be built is a failed
    write of its own, and the others go on. -/
def bufferEntity (entityType : String) (buffer : BulkBuffer) (e : Entity) :
    Attempt σ BulkBuffer := do
  match ← ask fun indexer => .ok (indexer.builders.build e.indexable) with
  | .ok d =>
    let (outcome, buffer) ← exchange fun _ => buffer.add d
    ask fun _ => outcome
    return buffer
  | .error reason =>
    ExceptT.lift (writeFailed "build_document" entityType e.id.toText reason)
    return buffer

/-- New entities, all of the type of the first one, sent together. -/
def createEntities (es : List Entity) : Indexing σ Unit :=
  match es with
  | [] => return
  | first :: _ =>
    absorb "create_entities" first.entityType "bulk" do
      let index ← indexOf first.entityType
      let buffer := BulkBuffer.new index (← read).config.batchSize
      let buffer ← es.foldlM (bufferEntity first.entityType) buffer
      let sent ← exchange fun _ => buffer.finish
      Attempt.record (Stats.addCreated sent)

/-! ## §3. Changed documents. -/

/-- A changed record: its fields are laid over those of the document. -/
def updateTimeSeriesRecord (r : TimeSeriesRecord) : Indexing σ Unit :=
  absorb "update_time_series_entity" r.entityType r.id.toText do
    let index ← indexOf r.entityType
    let d ← buildDocument r.indexable
    exchange fun engine =>
      Cluster.patchDocument engine index d.id { ops := [.mergeFields], params := d.fields }

/-- Brings the document of an entity up to date, by a script or anew. -/
def writeUpdated (e : Entity) : Attempt σ Unit := do
  let index ← indexOf e.entityType
  match planWrite e with
  | .patch script =>
    exchange fun engine => Cluster.patchDocument engine index e.id.toText script
    Attempt.record Stats.addPatch
  | .rebuild =>
    let d ← buildDocument e.indexable
    exchange fun _ => Cluster.replaceDocument index d
    Attempt.record Stats.addRebuild

/-- What follows from the change of an entity, planner by planner. -/
def runUpdateCascades (e : Entity) (m : IndexMapping) : Indexing σ Unit := do
  let mutation : Mutation :=
    { registry := (← read).registry, mapping := m, entity := e, change := e.selectedChange? }
  UpdateCascade.all.forM fun c => runCascades c.word e (c.plan mutation)

/-- A changed entity: its own document first, and then what follows. -/
def updateEntity (e : Entity) : Indexing σ Unit := do
  match ← ExceptT.run (writeUpdated e) with
  | .error reason => writeFailed "update_entity" e.entityType e.id.toText reason
  | .ok () =>
    match (← read).registry.mapping? e.entityType with
    | none => return
    | some m => runUpdateCascades e m

/-- Looks an entity up. -/
def lookUp (r : EntityReference) : Attempt σ Entity :=
  ExceptT.mk fun indexer s =>
    match indexer.lookup with
    | none => (.error .noLookup, s)
    | some find =>
      let (outcome, state) := find r s.link.state
      (outcome, { s with link := { s.link with state } })

/-- A changed entity that is known by a pointer. -/
def updateEntityByReference (r : EntityReference) : Indexing σ Unit := do
  match ← ExceptT.run (lookUp r) with
  | .ok e => updateEntity e
  | .error reason =>
    writeFailed "update_entity_by_reference" r.entityType r.id.toText reason

/-! ## §4. Removal. -/

/-- Does something to the document of an entity; returns the mapping of its type. -/
def onDocument (e : Entity) (action : Engine → String → Exchange σ Unit) :
    Attempt σ IndexMapping := do
  let m ← ask (·.registry.require e.entityType)
  let index := m.index (← read).registry.clusterAlias
  exchange fun engine => action engine index
  return m

/-- Removes the document of an entity; returns the mapping of its type. -/
def removeDocument (e : Entity) : Attempt σ IndexMapping := do
  let m ← onDocument e fun _ index => Cluster.deleteDocument index e.id.toText
  Attempt.record Stats.addDeleted
  return m

/-- Flags the document of an entity as deleted or not; returns the mapping of its type. -/
def flagDocument (e : Entity) (deleted : Bool) : Attempt σ IndexMapping :=
  onDocument e fun engine index =>
    Cluster.patchDocument engine index e.id.toText (Script.of (.setDeleted deleted))

/-- The first write of a removal, and then the cascades that the rule for the type plans. -/
def removal (operation cascade : String) (e : Entity) (write : Attempt σ IndexMapping)
    (plan : DeleteRules → Mutation → List CascadeOp) : Indexing σ Unit := do
  match ← ExceptT.run write with
  | .error reason => writeFailed operation e.entityType e.id.toText reason
  | .ok m =>
    let indexer ← read
    let mutation : Mutation :=
      { registry := indexer.registry, mapping := m, entity := e, change := none }
    runCascades cascade e (.ok (plan indexer.deleteRules mutation))

/-- A deleted entity: its document goes, and then what belongs to it. -/
def deleteEntity (e : Entity) : Indexing σ Unit :=
  removal "delete_entity" "delete" e (removeDocument e) DeleteRules.planDelete

/-- An entity that is flagged as deleted, or restored, and what belongs to it. -/
def softDeleteOrRestore (e : Entity) (deleted : Bool) : Indexing σ Unit :=
  removal "soft_delete_or_restore_entity" "soft_delete" e (flagDocument e deleted)
    fun rules m => rules.planFlag m deleted

/-- Deletes the documents of a type whose names begin with the name of an entity. -/
def deleteByFqnStart (e : Entity) : Indexing σ Unit :=
  absorb "delete_entity_by_fqn_prefix" e.entityType e.fullyQualifiedName do
    let index ← indexOf e.entityType
    exchange fun engine => Cluster.deleteByFqnStart engine index e.fullyQualifiedName

/-- A deleted record of a time series. -/
def deleteTimeSeriesRecord (r : TimeSeriesRecord) : Indexing σ Unit :=
  absorb "delete_time_series_entity" r.entityType r.id.toText do
    let index ← indexOf r.entityType
    exchange fun _ => Cluster.deleteDocument index r.id.toText
    Attempt.record Stats.addDeleted

end CatalogIndex.Indexing
