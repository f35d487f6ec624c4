/-
  CatalogIndex.Proofs.Indexer.Scripts — an indexer sends no code but its own.

  The cluster runs whatever code it gets, so nothing that a mutation brings may become part of it.  An
  indexer may be asked to do many things, with any entities, changes and mappings, and only some of them
  send scripts: a changed record or entity, a removal, a flag, and the cascades that follow.  All of these
  scripts are closed: their operations are among those for the type of the entity, and the parameters that
  their code reads come with them.  Since the code that is sent is that of the operations, it is the same
  for any parameters.

  ## Main definitions

    * `RunsClosed` — a program of an indexer that sends no scripts but closed ones;
    * `Operation.scriptType?` — the type of the entity that the scripts of an operation are for.

  ## Main results

    * `runsClosed_updateTimeSeriesRecord`, `runsClosed_updateEntity`, `runsClosed_deleteEntity`,
      `runsClosed_softDeleteOrRestore` — writes with scripts;
    * `scripts_closed` — every script of every operation is closed.
-/
import CatalogIndex.Proofs.Cluster.Scripts
import CatalogIndex.Proofs.Indexer.Tenancy

namespace CatalogIndex

open Request Sender Attempt

variable {σ : Type} {i : Indexer σ}

/-- What a program of an indexer sends is without scripts, or with closed ones for the type. -/
abbrev RunsClosed {m : Type → Type} [Monad m] [Sender m (Indexer σ)] {α : Type} (i : Indexer σ)
    (entityType : Option String) (x : m α) : Prop :=
  SendsClosed i i.config.searchType entityType x

variable {entityType : Option String}

namespace Indexing

/-! ## §1. Writes without scripts. -/

/-- Indexes are made, changed and removed without scripts. -/
theorem runsClosed_allowsIndex (m : IndexMapping) :
    AllowsIndex i (ScriptClosed i.config.searchType entityType) m where
  found := Cluster.sends_indexExists (scriptClosed_of_method (by decide) _ _)
  created schema := Cluster.sends_createIndex schema fun _ => scriptClosed_of_method (by decide) _ _
  updated schema := Cluster.sends_updateIndex schema fun _ => scriptClosed_of_method (by decide) _ _
  deleted := Cluster.sends_deleteIndex (scriptClosed_of_method (by decide) _ _)
  joined := Cluster.sends_createAliases fun _ => scriptClosed_of_notMem (by simp) _ _

theorem runsClosed_indexOf (name : String) : RunsClosed i entityType (indexOf name) :=
  keeps_ask fun _ _ => trivial

theorem runsClosed_createEntity (e : Entity) : RunsClosed i entityType (createEntity e) :=
  keeps_absorb (keeps_withDocument e.entityType e.indexable fun index d _ =>
    keeps_putDocument _ (Cluster.sendsClosed_putDocument _ index d)) _ _ _

theorem runsClosed_createTimeSeriesRecord (r : TimeSeriesRecord) :
    RunsClosed i entityType (createTimeSeriesRecord r) :=
  keeps_absorb (keeps_withDocument r.entityType r.indexable fun index d _ =>
    keeps_putDocument _ (Cluster.sendsClosed_putDocument _ index d)) _ _ _

theorem runsClosed_deleteTimeSeriesRecord (r : TimeSeriesRecord) :
    RunsClosed i entityType (deleteTimeSeriesRecord r) := by
  refine keeps_absorb (Q := fun _ => True) ?_ _ _ _
  refine keeps_bind (runsClosed_indexOf _) fun index _ => ?_
  exact keeps_bind (keeps_exchange (Cluster.sendsClosed_deleteDocument index _)) fun _ _ =>
    Attempt.keeps_record _

theorem runsClosed_deleteByFqnStart (e : Entity) : RunsClosed i entityType (deleteByFqnStart e) := by
  refine keeps_absorb (Q := fun _ => True) ?_ _ _ _
  refine keeps_bind (runsClosed_indexOf _) fun index _ => keeps_exchange ?_
  exact Cluster.sends_deleteByQuery fun _ => Cluster.scriptClosed_deleteByQuery _ _ _

/-! ## §2. Writes with scripts. -/

/-- The fields of a record are all parameters, and the script has one operation for all of them. -/
theorem runsClosed_updateTimeSeriesRecord (r : TimeSeriesRecord) :
    RunsClosed i (some r.entityType) (updateTimeSeriesRecord r) := by
  refine keeps_absorb (keeps_withDocument r.entityType r.indexable fun index d _ => ?_) _ _ _
  -- the operation goes through the parameters whatever they are called
  have hmerge : Script.Closed r.entityType { ops := [.mergeFields], params := d.fields } :=
    (Script.closed_start _ d.fields).push_of_reads_nothing (by simp [scriptOps]) rfl
  exact keeps_exchange (Cluster.sendsClosed_patchDocument hmerge index d.id)

/-- **An update sends closed scripts**, for its own document and for those that follow. -/
theorem runsClosed_updateEntity (e : Entity) : RunsClosed i (some e.entityType) (updateEntity e) := by
  -- the document itself is patched or put anew, and a document that is put is no script
  have hwrite : RunsClosed i (some e.entityType) (writeUpdated e) := by
    refine keeps_writeUpdated fun index _ => ⟨fun script hscript => ?_, fun d => ?_⟩
    · exact Cluster.sendsClosed_patchDocument (closed_of_planWrite hscript) index _
    · exact Cluster.sendsClosed_putDocument _ index d
  exact keeps_updateEntity hwrite fun _ _ _ _ hops op hop =>
    Cluster.sendsClosed_applyCascade _ (UpdateCascade.closed_plan hops op hop)

theorem runsClosed_deleteEntity (e : Entity) : RunsClosed i (some e.entityType) (deleteEntity e) := by
  refine keeps_removal _ _ (keeps_removeDocument fun _ _ => ?_) fun _ _ op hop => ?_
  · exact Cluster.sendsClosed_deleteDocument _ _
  · exact Cluster.sendsClosed_applyCascade _ (DeleteRules.closed_planDelete _ _ op hop)

theorem runsClosed_softDeleteOrRestore (e : Entity) (deleted : Bool) :
    RunsClosed i (some e.entityType) (softDeleteOrRestore e deleted) := by
  refine keeps_removal _ _ (keeps_onDocument fun _ _ => ?_) fun _ _ op hop => ?_
  · exact Cluster.sendsClosed_patchDocument (Mutation.closed_setDeleted deleted) _ _
  · exact Cluster.sendsClosed_applyCascade _ (DeleteRules.closed_planFlag _ _ deleted op hop)

end Indexing

/-! ## §3. Reads. -/

namespace Attempt

theorem runsClosed_resolved (names : String) : RunsClosed i entityType (resolved names) :=
  keeps_bind Attempt.keeps_read fun _ _ => keeps_pure trivial

theorem runsClosed_everywhere : RunsClosed i entityType everywhere :=
  keeps_bind Attempt.keeps_read fun _ _ => keeps_pure trivial

/-- A read finds out where to search, and then searches. -/
theorem runsClosed_read {α : Type} {place : Attempt σ String} (hplace : RunsClosed i entityType place)
    {x : Engine → String → Exchange σ α}
    (hx : ∀ index, SendsClosed i.backend i.config.searchType entityType (x i.config.searchType index)) :
    RunsClosed i entityType (place >>= fun index => exchange fun engine => x engine index) :=
  keeps_bind hplace fun index _ => keeps_exchange (hx index)

theorem runsClosed_search (r : SearchRequest) : RunsClosed i entityType (search r) :=
  runsClosed_read (runsClosed_resolved _) fun _ => Cluster.sendsClosed_search _ _

/-- A walk sends searches only. -/
theorem runsClosed_walk {α : Type} {walk : Engine → String → Exchange σ α}
    (hwalk : ∀ engine index,
      (∀ q, SendsClosed i.backend i.config.searchType entityType (Cluster.fetchSources engine index q)) →
      SendsClosed i.backend i.config.searchType entityType (walk engine index)) :
    RunsClosed i entityType (everywhere >>= fun index => exchange fun engine => walk engine index) :=
  runsClosed_read runsClosed_everywhere fun index =>
    hwalk _ _ fun q => Cluster.sendsClosed_fetchSources index _ q

end Attempt

theorem Indexing.runsClosed_entitiesBelow (fqn : String) (size : Nat) (index : String) :
    RunsClosed i entityType (entitiesBelow fqn size index) := by
  refine keeps_bind (keeps_made (Attempt.runsClosed_search _)) fun outcome _ => ?_
  cases outcome with
  | ok response => exact keeps_pure trivial
  | error reason => exact keeps_pure trivial

/-! ## §4. Whatever an indexer is asked to do. -/

namespace Operation

/-- The type of the entity that the scripts of an operation are for; most operations have none.  An entity
    that is known by a pointer is looked up first. -/
def scriptType? (i : Indexer σ) (s : Session σ) : Operation → Option String
  | .updateTimeSeriesRecord r => some r.entityType
  | .updateEntity e | .deleteEntity e | .softDeleteOrRestore e _ => some e.entityType
  | .updateEntityByReference r =>
    ((Indexing.lookUp r).run i s).1.toOption.map Entity.entityType
  | _ => none

/-- The entity that is found is updated like any other. -/
theorem extends_updateEntityByReference (r : EntityReference) (s : Session σ) :
    Extends (ScriptClosed i.config.searchType ((Operation.updateEntityByReference r).scriptType? i s))
      s.link.sent ((Indexing.updateEntityByReference r).run i s).2.link.sent := by
  obtain ⟨hsent, -⟩ := Indexing.run_lookUp r i s
  rcases hfound : (Indexing.lookUp r).run i s with ⟨found, s'⟩
  have htype : (Operation.updateEntityByReference r).scriptType? i s
      = found.toOption.map Entity.entityType := by
    show ((Indexing.lookUp r).run i s).1.toOption.map _ = _
    rw [hfound]
  rw [hfound] at hsent
  rw [htype, ← hsent]
  unfold Indexing.updateEntityByReference
  rw [Indexing.run_bind, Indexing.run_made, hfound]
  cases found with
  | error reason => exact Extends.refl _
  | ok e => exact (Indexing.runsClosed_updateEntity e s').1

/-- **One operation sends no scripts but closed ones.** -/
theorem extends_scriptClosed (op : Operation) (s : Session σ) :
    Extends (ScriptClosed i.config.searchType (op.scriptType? i s)) s.link.sent
      (op.after i s).link.sent := by
  cases op with
  | createIndexes =>
    exact (Indexing.keeps_everyIndex (fun entry _ =>
      Indexing.keeps_createIndex (Indexing.runsClosed_allowsIndex entry.2)) s).1
  | updateIndexes =>
    exact (Indexing.keeps_everyIndex (fun entry _ =>
      Indexing.keeps_updateIndex (Indexing.runsClosed_allowsIndex entry.2)) s).1
  | indexExists m => exact (Indexing.keeps_indexExists (Indexing.runsClosed_allowsIndex m) s).1
  | createIndex m => exact (Indexing.keeps_createIndex (Indexing.runsClosed_allowsIndex m) s).1
  | updateIndex m => exact (Indexing.keeps_updateIndex (Indexing.runsClosed_allowsIndex m) s).1
  | deleteIndex m => exact (Indexing.keeps_deleteIndex (Indexing.runsClosed_allowsIndex m) s).1
  | createEntity e => exact (Indexing.runsClosed_createEntity e s).1
  | createEntities es =>
    exact (Indexing.keeps_createEntities
      (fun _ _ index _ => Cluster.sendsClosed_createDocuments index) s).1
  | createTimeSeriesRecord r => exact (Indexing.runsClosed_createTimeSeriesRecord r s).1
  | updateTimeSeriesRecord r => exact (Indexing.runsClosed_updateTimeSeriesRecord r s).1
  | updateEntity e => exact (Indexing.runsClosed_updateEntity e s).1
  | updateEntityByReference r => exact extends_updateEntityByReference r s
  | deleteEntity e => exact (Indexing.runsClosed_deleteEntity e s).1
  | deleteByFqnStart e => exact (Indexing.runsClosed_deleteByFqnStart e s).1
  | deleteTimeSeriesRecord r => exact (Indexing.runsClosed_deleteTimeSeriesRecord r s).1
  | softDeleteOrRestore e deleted => exact (Indexing.runsClosed_softDeleteOrRestore e deleted s).1
  | getDocument name id =>
    exact (Attempt.runsClosed_read (Indexing.runsClosed_indexOf name) (fun index =>
      Cluster.sends_documentById (scriptClosed_of_method (by decide) _ _)) s).1
  | listWithOffset filter limit offset name sort query =>
    exact (Attempt.runsClosed_read (Indexing.runsClosed_indexOf name) (fun index =>
      keeps_bind (Cluster.sendsClosed_runSearch index (by simp)) fun _ _ => keeps_pure trivial) s).1
  | listAfter name query filter fields sort size after =>
    exact (Attempt.runsClosed_read (Indexing.runsClosed_indexOf name) (fun index =>
      Cluster.sendsClosed_listAfter index _ query filter fields sort size after) s).1
  | search r => exact (Attempt.runsClosed_search r s).1
  | suggest r =>
    exact (Attempt.runsClosed_read (Attempt.runsClosed_resolved r.index) (fun index =>
      Cluster.sendsClosed_suggest { r with index }) s).1
  | searchByField field pattern names =>
    exact (Attempt.runsClosed_read (Attempt.runsClosed_resolved names) (fun index =>
      Cluster.sendsClosed_runSearch index (by simp)) s).1
  | searchBySourceUrl url =>
    exact (Attempt.runsClosed_read Attempt.runsClosed_everywhere (fun index =>
      Cluster.sendsClosed_runSearch index (by simp)) s).1
  | aggregate names field value query =>
    exact (Attempt.runsClosed_read (Attempt.runsClosed_resolved names) (fun index =>
      keeps_bind (Cluster.sendsClosed_runSearch index (by simp)) fun _ _ => keeps_pure trivial) s).1
  | searchLineage r =>
    exact (Attempt.runsClosed_walk (fun _ _ hfetch => Lineage.keeps_traverse hfetch) s).1
  | searchRelationships r =>
    exact (Attempt.runsClosed_walk (fun _ _ hfetch => Lineage.keeps_traverse hfetch) s).1
  | searchDataQualityLineage fqn ancestorDepth queryFilter includeDeleted =>
    exact (Attempt.runsClosed_walk (fun _ _ hfetch => Lineage.keeps_traverse hfetch) s).1
  | searchSchemaRelationships r =>
    exact (Attempt.runsClosed_walk (fun _ _ hfetch => Lineage.keeps_traverseSchema hfetch) s).1
  | exportLineage r =>
    exact (Attempt.runsClosed_walk (fun _ _ hfetch =>
      keeps_bind (Lineage.keeps_traverse hfetch) fun _ _ => keeps_pure trivial) s).1
  | entitiesBelow fqn size index =>
    exact (Indexing.runsClosed_entitiesBelow fqn size index s).1

end Operation

/-- **Every script is closed.**  Whatever an indexer is asked to do, in whatever state, and whatever the
    cluster answers: if a request brings a script, that is the form of a script whose operations are those
    for the type of the entity, and every parameter that their code reads is among its parameters.  The
    source that is sent is the code of these operations, one after the other, and any other script with
    the same operations has the same source, whatever its parameters are. -/
theorem scripts_closed (i : Indexer σ) (s : Session σ) (op : Operation) :
    ∃ requests, (op.after i s).link.sent = s.link.sent ++ requests
      ∧ ∀ r ∈ requests, ∀ v, r.script? = some v → ∃ entityType script,
        op.scriptType? i s = some entityType
        ∧ v = i.config.searchType.encodeScript script
        ∧ (∀ code ∈ script.ops, code ∈ scriptOps entityType)
        ∧ v.field? "source"
          = some (.str (Engine.Stmt.textAll i.config.searchType
            (script.ops.flatMap i.config.searchType.body)))
        ∧ (∀ other : Script, other.ops = script.ops →
          (i.config.searchType.encodeScript other).field? "source" = v.field? "source")
        ∧ ∀ code ∈ script.ops, ∀ name ∈ Engine.Stmt.readsAll (i.config.searchType.body code),
          Keyed.contains script.params name = true := by
  obtain ⟨requests, hsent, hclosed⟩ := op.extends_scriptClosed (i := i) s
  refine ⟨requests, hsent, fun r hr v hv => ?_⟩
  obtain ⟨entityType, script, htype, rfl, hscript⟩ := hclosed r hr v hv
  have hsource := i.config.searchType.source_encodeScript
  refine ⟨entityType, script, htype, rfl, hscript.ops, hsource script, ?_, hscript.params _⟩
  intro other hops
  rw [hsource, hsource, hops]

/-- The votes of a domain become a text that looks like code.  The document of the domain is patched, by a
    script in which the text is a parameter and nothing else: its source is the one that its operations
    have without any parameters. -/
theorem scripts_closed_hostileVotes :
    let domain : Entity :=
      { id := .nil, entityType := "domain", name := "sales", fullyQualifiedName := "sales"
        version := .zero, updatedAt := 1, attributes := [("votes", .str "'] = 0; ctx._source.clear(); //")]
        change := some { fieldsUpdated := [{ name := "votes" }] } }
    let requests :=
      ((Operation.updateEntity domain).after acmeIndexer { link := { state := () } }).link.sent
    (requests.map fun r => r.script?.isSome) = [true]
      ∧ ∀ r ∈ requests, ∀ v, r.script? = some v → ∃ script : Script,
        v = acmeIndexer.config.searchType.encodeScript script
        ∧ v.field? "source"
          = (acmeIndexer.config.searchType.encodeScript { ops := script.ops }).field? "source"
        ∧ ∀ code ∈ script.ops, code ∈ scriptOps "domain" := by
  intro domain requests
  obtain ⟨sent, hsent, hclosed⟩ :=
    scripts_closed acmeIndexer { link := { state := () } } (.updateEntity domain)
  refine ⟨by decide +kernel, ?_⟩
  rw [show requests = sent from hsent]
  intro r hr v hv
  obtain ⟨entityType, script, htype, hform, hops, -, hsource, -⟩ := hclosed r hr v hv
  cases htype
  exact ⟨script, hform, (hsource { ops := script.ops } rfl).symm, hops⟩

end CatalogIndex
