/-
  CatalogIndex.Proofs.Indexer.Tenancy — an indexer stays with its own deployment.

  An indexer gets the names of indexes and aliases in four ways: from the mapping of a type, from the
  aliases of a mapping, as the alias of all documents, and from callers that list them.  Each of the
  ways puts the alias of the deployment in front.  So whatever an indexer is asked to do, and whatever
  the cluster answers, all of its requests belong to its deployment.

  The statement is proved program by program, along their parts: what a program sends is what its parts
  send, and the names that it passes on to an exchange are those that an earlier part returned.

  ## Main definitions

    * `Indexer.Shared` — an indexer whose deployment shares a cluster with others;
    * `Stays` — a program of such an indexer that sends only requests of its deployment;
    * `Operation` — everything that an indexer can be asked to do.

  ## Main results

    * `stays_planned`, `stays_updateEntity`, `stays_removal` — writes, with what follows from them;
    * `stays_resolved` — names that callers list;
    * `requests_tenanted` — every request of every operation is one of the deployment.
-/
import CatalogIndex.Indexer.Admin
import CatalogIndex.Indexer.Reads
import CatalogIndex.Proofs.Cascade.Destination
import CatalogIndex.Proofs.Cluster.Tenancy
import CatalogIndex.Proofs.Indexer.Sends

namespace CatalogIndex

variable {σ α : Type}

/-! ## §1. Programs that stay. -/

open Request Sender Attempt

/-- An indexer whose deployment shares a cluster with others: its alias is no part of a list or a path,
    and the names of its mappings hold no commas. -/
structure Indexer.Shared (i : Indexer σ) : Prop where
  deployment : SharedAlias i.registry.clusterAlias
  mappings : ∀ entry ∈ i.registry.mappings, entry.2.CommaFree

/-- The program sends only requests of the deployment, and its result has `Q`. -/
abbrev Stays {m : Type → Type} [Monad m] [Sender m (Indexer σ)] (i : Indexer σ) (x : m α)
    (Q : α → Prop) : Prop :=
  Keeps i (Tenanted i.registry.clusterAlias) x Q

variable {i : Indexer σ}

theorem Attempt.stays_indexOf (hi : i.Shared) (entityType : String) :
    Stays i (indexOf entityType) (OwnName i.registry.clusterAlias) :=
  keeps_ask fun _ hname => Registry.ownName_index hi.mappings hname

namespace Indexing

/-! ## §2. Indexes. -/

/-- The index of a mapping, and its aliases, have names of the deployment. -/
theorem stays_allowsIndex (hi : i.Shared) {m : IndexMapping} (hm : m.CommaFree) :
    AllowsIndex i (Tenanted i.registry.clusterAlias) m where
  found := Cluster.keeps_indexExists hi.deployment (hm.ownName_index _)
  created := Cluster.keeps_createIndex hi.deployment (hm.ownName_index _)
  updated := Cluster.keeps_updateIndex hi.deployment (hm.ownName_index _)
  deleted := Cluster.keeps_deleteIndex hi.deployment (hm.ownName_index _)
  joined := Cluster.keeps_createAliases hi.deployment (hm.ownName_index _) (hm.ownName_allAliases _)

/-! ## §3. Writes. -/

theorem ownName_of_index (hi : i.Shared) {entityType index : String}
    (h : i.registry.index entityType = .ok index) : OwnName i.registry.clusterAlias index :=
  Registry.ownName_index hi.mappings h

theorem stays_createEntity (hi : i.Shared) (e : Entity) :
    Stays i (createEntity e) fun _ => True := by
  refine keeps_absorb (keeps_withDocument e.entityType e.indexable fun index d hindex => ?_) _ _ _
  exact keeps_putDocument _ (Cluster.keeps_putDocument hi.deployment (ownName_of_index hi hindex) _ d)

theorem stays_createTimeSeriesRecord (hi : i.Shared) (r : TimeSeriesRecord) :
    Stays i (createTimeSeriesRecord r) fun _ => True := by
  refine keeps_absorb (keeps_withDocument r.entityType r.indexable fun index d hindex => ?_) _ _ _
  exact keeps_putDocument _ (Cluster.keeps_putDocument hi.deployment (ownName_of_index hi hindex) _ d)

theorem stays_createEntities (hi : i.Shared) (es : List Entity) :
    Stays i (createEntities es) fun _ => True :=
  keeps_createEntities fun _ _ _ hindex =>
    Cluster.keeps_createDocuments hi.deployment (ownName_of_index hi hindex)

theorem stays_updateTimeSeriesRecord (hi : i.Shared) (r : TimeSeriesRecord) :
    Stays i (updateTimeSeriesRecord r) fun _ => True := by
  refine keeps_absorb (keeps_withDocument r.entityType r.indexable fun index d hindex => ?_) _ _ _
  exact keeps_exchange
    (Cluster.keeps_patchDocument hi.deployment (ownName_of_index hi hindex) _ _ _)

theorem stays_deleteTimeSeriesRecord (hi : i.Shared) (r : TimeSeriesRecord) :
    Stays i (deleteTimeSeriesRecord r) fun _ => True := by
  refine keeps_absorb (Q := fun _ => True) ?_ _ _ _
  refine keeps_bind (stays_indexOf hi _) fun index hindex => ?_
  exact keeps_bind (keeps_exchange (Cluster.keeps_deleteDocument hi.deployment hindex _)) fun _ _ =>
    Attempt.keeps_record _

theorem stays_deleteByFqnStart (hi : i.Shared) (e : Entity) :
    Stays i (deleteByFqnStart e) fun _ => True := by
  refine keeps_absorb (Q := fun _ => True) ?_ _ _ _
  refine keeps_bind (stays_indexOf hi _) fun index hindex => ?_
  refine keeps_exchange (Cluster.keeps_deleteByQuery hi.deployment _ (fun name hname => ?_) _)
  rwa [List.mem_singleton.1 hname]

/-! ## §4. Writes with cascades. -/

/-- **Planned writes stay with the deployment**, since a planner has no other names. -/
theorem stays_planned (hi : i.Shared) {m : Mutation} (hregistry : m.registry = i.registry)
    (hm : m.mapping.CommaFree) {op : CascadeOp} (hop : m.Destination (op.targets m.registry)) :
    Allows i (Tenanted i.registry.clusterAlias) op := by
  -- the registry that was planned with is that of the indexer
  have hmappings : ∀ entry ∈ m.registry.mappings, entry.2.CommaFree := hregistry ▸ hi.mappings
  have howned := hop.ownName hm hmappings
  rw [hregistry] at howned
  exact Cluster.keeps_applyCascade hi.deployment _ howned

theorem stays_writeUpdated (hi : i.Shared) (e : Entity) :
    Stays i (writeUpdated e) fun _ => True := by
  refine keeps_writeUpdated fun index hindex => ⟨fun script _ => ?_, fun d => ?_⟩
  · exact Cluster.keeps_patchDocument hi.deployment (ownName_of_index hi hindex) _ _ _
  · exact Cluster.keeps_putDocument hi.deployment (ownName_of_index hi hindex) _ d

theorem stays_updateEntity (hi : i.Shared) (e : Entity) :
    Stays i (updateEntity e) fun _ => True := by
  refine keeps_updateEntity (stays_writeUpdated hi e) fun m hm cascade ops hops op hop => ?_
  have hmapping : m.CommaFree := hi.mappings _ (Keyed.mem_of_get?_eq_some hm)
  exact stays_planned hi
    (m := { registry := i.registry, mapping := m, entity := e, change := e.selectedChange? })
    rfl hmapping (Mutation.destination_plan hops op hop)

theorem stays_updateEntityByReference (hi : i.Shared) (r : EntityReference) :
    Stays i (updateEntityByReference r) fun _ => True := by
  refine keeps_bind (keeps_made (keeps_lookUp r)) fun outcome _ => ?_
  cases outcome with
  | ok e => exact stays_updateEntity hi e
  | error reason => exact Indexing.keeps_record _

/-- **A removal stays with the deployment**: its first write does, and so do the writes that follow. -/
theorem stays_removal (hi : i.Shared) (operation cascade : String) (e : Entity)
    {write : Attempt σ IndexMapping}
    (hwrite : Stays i write fun m => i.registry.require e.entityType = .ok m)
    {plan : DeleteRules → Mutation → List CascadeOp}
    (hplan : ∀ rs m, ∀ op ∈ plan rs m, m.Destination (op.targets m.registry)) :
    Stays i (removal operation cascade e write plan) fun _ => True := by
  refine keeps_removal operation cascade hwrite fun m hm op hop => ?_
  exact stays_planned hi (m := { registry := i.registry, mapping := m, entity := e, change := none })
    rfl (Registry.commaFree_of_require hi.mappings hm) (hplan _ _ op hop)

theorem stays_deleteEntity (hi : i.Shared) (e : Entity) :
    Stays i (deleteEntity e) fun _ => True := by
  refine stays_removal hi _ _ e (keeps_removeDocument fun m hm => ?_) fun rs _ =>
    Mutation.destination_planDelete rs
  have hfree := Registry.commaFree_of_require hi.mappings hm
  exact Cluster.keeps_deleteDocument hi.deployment (hfree.ownName_index _) _

theorem stays_softDeleteOrRestore (hi : i.Shared) (e : Entity) (deleted : Bool) :
    Stays i (softDeleteOrRestore e deleted) fun _ => True := by
  refine stays_removal hi _ _ e (keeps_onDocument fun m hm => ?_) fun rs _ =>
    Mutation.destination_planFlag rs deleted
  have hfree := Registry.commaFree_of_require hi.mappings hm
  exact Cluster.keeps_patchDocument hi.deployment (hfree.ownName_index _) _ _ _

end Indexing

/-! ## §5. Reads. -/

namespace Attempt

theorem stays_getDocument (hi : i.Shared) (entityType : String) (id : Uuid) :
    Stays i (getDocument entityType id) fun _ => True :=
  keeps_bind (stays_indexOf hi _) fun _ hindex =>
    keeps_exchange (Cluster.keeps_documentById hi.deployment hindex _)

theorem stays_listWithOffset (hi : i.Shared) (filter : ListFilter) (limit offset : Nat)
    (entityType : String) (sort : SortBy) (query : Option String) :
    Stays i (listWithOffset filter limit offset entityType sort query) fun _ => True := by
  refine keeps_bind (stays_indexOf hi _) fun index hindex => keeps_exchange ?_
  exact keeps_bind (Cluster.keeps_runSearch hi.deployment hindex.addressed _) fun _ _ =>
    keeps_pure trivial

theorem stays_listAfter (hi : i.Shared) (entityType : String) (query : Option String)
    (filter : Option Query) (fields : List String) (sort : SortBy) (size : Nat)
    (after : Option (List Json)) :
    Stays i (listAfter entityType query filter fields sort size after) fun _ => True := by
  refine keeps_bind (stays_indexOf hi _) fun index hindex => keeps_exchange ?_
  exact keeps_bind (Cluster.keeps_runSearch hi.deployment hindex.addressed _) fun _ _ =>
    keeps_pure trivial

/-- Callers name what they like, and get the names of the deployment. -/
theorem stays_resolved (hi : i.Shared) (names : String) :
    Stays i (resolved names) (Addressed i.registry.clusterAlias) := by
  refine keeps_bind Attempt.keeps_read fun j hj => ?_
  subst hj
  exact keeps_pure (Registry.addressed_resolve hi.deployment.ne_empty names)

theorem stays_everywhere : Stays i everywhere (Addressed i.registry.clusterAlias) := by
  refine keeps_bind Attempt.keeps_read fun j hj => ?_
  subst hj
  exact keeps_pure j.registry.ownName_globalAlias.addressed

theorem stays_search (hi : i.Shared) (r : SearchRequest) : Stays i (search r) fun _ => True :=
  keeps_bind (stays_resolved hi _) fun _ hindex =>
    keeps_exchange (Cluster.keeps_runSearch hi.deployment hindex _)

theorem stays_suggest (hi : i.Shared) (r : SuggestRequest) : Stays i (suggest r) fun _ => True :=
  keeps_bind (stays_resolved hi _) fun _ hindex =>
    keeps_exchange (Cluster.keeps_suggest hi.deployment hindex)

theorem stays_searchByField (hi : i.Shared) (field pattern names : String) :
    Stays i (searchByField field pattern names) fun _ => True :=
  keeps_bind (stays_resolved hi _) fun _ hindex =>
    keeps_exchange (Cluster.keeps_runSearch hi.deployment hindex _)

theorem stays_searchBySourceUrl (hi : i.Shared) (url : String) :
    Stays i (searchBySourceUrl url) fun _ => True :=
  keeps_bind stays_everywhere fun _ hindex =>
    keeps_exchange (Cluster.keeps_runSearch hi.deployment hindex _)

theorem stays_aggregate (hi : i.Shared) (names field value : String) (query : Option String) :
    Stays i (aggregate names field value query) fun _ => True := by
  refine keeps_bind (stays_resolved hi _) fun index hindex => keeps_exchange ?_
  exact keeps_bind (Cluster.keeps_runSearch hi.deployment hindex _) fun _ _ => keeps_pure trivial

/-- A walk searches all documents of the deployment, and no others. -/
theorem stays_walk (hi : i.Shared) {α : Type} {walk : Engine → String → Exchange σ α}
    (hwalk : ∀ engine index,
      (∀ q, Keeps i.backend (Tenanted i.registry.clusterAlias) (Cluster.fetchSources engine index q)
        fun _ => True) →
      Keeps i.backend (Tenanted i.registry.clusterAlias) (walk engine index) fun _ => True) :
    Stays i (everywhere >>= fun index => exchange fun engine => walk engine index) fun _ => True :=
  keeps_bind stays_everywhere fun _ hindex =>
    keeps_exchange (hwalk _ _ fun q => Cluster.keeps_fetchSources hi.deployment hindex _ q)

theorem stays_searchLineage (hi : i.Shared) (r : LineageRequest) :
    Stays i (searchLineage r) fun _ => True :=
  stays_walk hi fun _ _ hfetch => Lineage.keeps_traverse hfetch

theorem stays_searchDataQualityLineage (hi : i.Shared) (fqn : String) (ancestorDepth : Nat)
    (queryFilter : Option Json) (includeDeleted : Bool) :
    Stays i (searchDataQualityLineage fqn ancestorDepth queryFilter includeDeleted) fun _ => True :=
  stays_walk hi fun _ _ hfetch => Lineage.keeps_traverse hfetch

theorem stays_searchSchemaRelationships (hi : i.Shared) (r : LineageRequest) :
    Stays i (searchSchemaRelationships r) fun _ => True :=
  stays_walk hi fun _ _ hfetch => Lineage.keeps_traverseSchema hfetch

theorem stays_exportLineage (hi : i.Shared) (r : LineageRequest) :
    Stays i (exportLineage r) fun _ => True :=
  stays_walk hi fun _ _ hfetch => keeps_bind (Lineage.keeps_traverse hfetch) fun _ _ =>
    keeps_pure trivial

end Attempt

theorem Indexing.stays_entitiesBelow (hi : i.Shared) (fqn : String) (size : Nat) (index : String) :
    Stays i (entitiesBelow fqn size index) fun _ => True := by
  refine keeps_bind (keeps_made (stays_search hi _)) fun outcome _ => ?_
  cases outcome with
  | ok response => exact keeps_pure trivial
  | error reason => exact keeps_pure trivial

/-! ## §6. Whatever an indexer is asked to do. -/

/-- Everything that an indexer can be asked to do. -/
inductive Operation where
  | createIndexes
  | updateIndexes
  | indexExists (m : IndexMapping)
  | createIndex (m : IndexMapping)
  | updateIndex (m : IndexMapping)
  | deleteIndex (m : IndexMapping)
  | createEntity (e : Entity)
  | createEntities (es : List Entity)
  | createTimeSeriesRecord (r : TimeSeriesRecord)
  | updateTimeSeriesRecord (r : TimeSeriesRecord)
  | updateEntity (e : Entity)
  | updateEntityByReference (r : EntityReference)
  | deleteEntity (e : Entity)
  | deleteByFqnStart (e : Entity)
  | deleteTimeSeriesRecord (r : TimeSeriesRecord)
  | softDeleteOrRestore (e : Entity) (deleted : Bool)
  | getDocument (entityType : String) (id : Uuid)
  | listWithOffset (filter : ListFilter) (limit offset : Nat) (entityType : String) (sort : SortBy)
    (query : Option String)
  | listAfter (entityType : String) (query : Option String) (filter : Option Query)
    (fields : List String) (sort : SortBy) (size : Nat) (after : Option (List Json))
  | search (r : SearchRequest)
  | suggest (r : SuggestRequest)
  | searchByField (field pattern names : String)
  | searchBySourceUrl (url : String)
  | aggregate (names field value : String) (query : Option String)
  | searchLineage (r : LineageRequest)
  | searchRelationships (r : LineageRequest)
  | searchDataQualityLineage (fqn : String) (ancestorDepth : Nat) (queryFilter : Option Json)
    (includeDeleted : Bool)
  | searchSchemaRelationships (r : LineageRequest)
  | exportLineage (r : LineageRequest)
  | entitiesBelow (fqn : String) (size : Nat) (index : String)

namespace Operation

/-- The mapping that is handed over with an operation. -/
def mapping? : Operation → Option IndexMapping
  | .indexExists m | .createIndex m | .updateIndex m | .deleteIndex m => some m
  | _ => none

/-- The session after an operation. -/
def after (i : Indexer σ) (s : Session σ) : Operation → Session σ
  | .createIndexes => (Indexing.createIndexes.run i s).2
  | .updateIndexes => (Indexing.updateIndexes.run i s).2
  | .indexExists m => ((Indexing.indexExists m).run i s).2
  | .createIndex m => ((Indexing.createIndex m).run i s).2
  | .updateIndex m => ((Indexing.updateIndex m).run i s).2
  | .deleteIndex m => ((Indexing.deleteIndex m).run i s).2
  | .createEntity e => ((Indexing.createEntity e).run i s).2
  | .createEntities es => ((Indexing.createEntities es).run i s).2
  | .createTimeSeriesRecord r => ((Indexing.createTimeSeriesRecord r).run i s).2
  | .updateTimeSeriesRecord r => ((Indexing.updateTimeSeriesRecord r).run i s).2
  | .updateEntity e => ((Indexing.updateEntity e).run i s).2
  | .updateEntityByReference r => ((Indexing.updateEntityByReference r).run i s).2
  | .deleteEntity e => ((Indexing.deleteEntity e).run i s).2
  | .deleteByFqnStart e => ((Indexing.deleteByFqnStart e).run i s).2
  | .deleteTimeSeriesRecord r => ((Indexing.deleteTimeSeriesRecord r).run i s).2
  | .softDeleteOrRestore e deleted => ((Indexing.softDeleteOrRestore e deleted).run i s).2
  | .getDocument entityType id => ((Attempt.getDocument entityType id).run i s).2
  | .listWithOffset filter limit offset entityType sort query =>
    ((Attempt.listWithOffset filter limit offset entityType sort query).run i s).2
  | .listAfter entityType query filter fields sort size after =>
    ((Attempt.listAfter entityType query filter fields sort size after).run i s).2
  | .search r => ((Attempt.search r).run i s).2
  | .suggest r => ((Attempt.suggest r).run i s).2
  | .searchByField field pattern names => ((Attempt.searchByField field pattern names).run i s).2
  | .searchBySourceUrl url => ((Attempt.searchBySourceUrl url).run i s).2
  | .aggregate names field value query => ((Attempt.aggregate names field value query).run i s).2
  | .searchLineage r => ((Attempt.searchLineage r).run i s).2
  | .searchRelationships r => ((Attempt.searchRelationships r).run i s).2
  | .searchDataQualityLineage fqn ancestorDepth queryFilter includeDeleted =>
    ((Attempt.searchDataQualityLineage fqn ancestorDepth queryFilter includeDeleted).run i s).2
  | .searchSchemaRelationships r => ((Attempt.searchSchemaRelationships r).run i s).2
  | .exportLineage r => ((Attempt.exportLineage r).run i s).2
  | .entitiesBelow fqn size index => ((Indexing.entitiesBelow fqn size index).run i s).2

/-- **One operation sends only requests of the deployment.** -/
theorem extends_after (hi : i.Shared) {op : Operation} (hop : ∀ m, op.mapping? = some m → m.CommaFree)
    (s : Session σ) :
    Extends (Tenanted i.registry.clusterAlias) s.link.sent (op.after i s).link.sent := by
  cases op with
  | createIndexes =>
    exact (Indexing.keeps_everyIndex (fun entry hentry =>
      Indexing.keeps_createIndex (Indexing.stays_allowsIndex hi (hi.mappings entry hentry))) s).1
  | updateIndexes =>
    exact (Indexing.keeps_everyIndex (fun entry hentry =>
      Indexing.keeps_updateIndex (Indexing.stays_allowsIndex hi (hi.mappings entry hentry))) s).1
  | indexExists m => exact (Indexing.keeps_indexExists (Indexing.stays_allowsIndex hi (hop m rfl)) s).1
  | createIndex m => exact (Indexing.keeps_createIndex (Indexing.stays_allowsIndex hi (hop m rfl)) s).1
  | updateIndex m => exact (Indexing.keeps_updateIndex (Indexing.stays_allowsIndex hi (hop m rfl)) s).1
  | deleteIndex m => exact (Indexing.keeps_deleteIndex (Indexing.stays_allowsIndex hi (hop m rfl)) s).1
  | createEntity e => exact (Indexing.stays_createEntity hi e s).1
  | createEntities es => exact (Indexing.stays_createEntities hi es s).1
  | createTimeSeriesRecord r => exact (Indexing.stays_createTimeSeriesRecord hi r s).1
  | updateTimeSeriesRecord r => exact (Indexing.stays_updateTimeSeriesRecord hi r s).1
  | updateEntity e => exact (Indexing.stays_updateEntity hi e s).1
  | updateEntityByReference r => exact (Indexing.stays_updateEntityByReference hi r s).1
  | deleteEntity e => exact (Indexing.stays_deleteEntity hi e s).1
  | deleteByFqnStart e => exact (Indexing.stays_deleteByFqnStart hi e s).1
  | deleteTimeSeriesRecord r => exact (Indexing.stays_deleteTimeSeriesRecord hi r s).1
  | softDeleteOrRestore e deleted => exact (Indexing.stays_softDeleteOrRestore hi e deleted s).1
  | getDocument entityType id => exact (Attempt.stays_getDocument hi entityType id s).1
  | listWithOffset filter limit offset entityType sort query =>
    exact (Attempt.stays_listWithOffset hi filter limit offset entityType sort query s).1
  | listAfter entityType query filter fields sort size after =>
    exact (Attempt.stays_listAfter hi entityType query filter fields sort size after s).1
  | search r => exact (Attempt.stays_search hi r s).1
  | suggest r => exact (Attempt.stays_suggest hi r s).1
  | searchByField field pattern names =>
    exact (Attempt.stays_searchByField hi field pattern names s).1
  | searchBySourceUrl url => exact (Attempt.stays_searchBySourceUrl hi url s).1
  | aggregate names field value query => exact (Attempt.stays_aggregate hi names field value query s).1
  | searchLineage r => exact (Attempt.stays_searchLineage hi r s).1
  | searchRelationships r =>
    exact (Attempt.stays_searchLineage hi { r with kind := .entityRelationship } s).1
  | searchDataQualityLineage fqn ancestorDepth queryFilter includeDeleted =>
    exact (Attempt.stays_searchDataQualityLineage hi fqn ancestorDepth queryFilter includeDeleted s).1
  | searchSchemaRelationships r => exact (Attempt.stays_searchSchemaRelationships hi r s).1
  | exportLineage r => exact (Attempt.stays_exportLineage hi r s).1
  | entitiesBelow fqn size index => exact (Indexing.stays_entitiesBelow hi fqn size index s).1

end Operation

/-- **Every request of an indexer belongs to its deployment**, whatever it is asked to do, in whatever
    order, and whatever the cluster answers: the request names indexes or aliases, and each of them
    begins with the alias of the deployment and an underscore. -/
theorem requests_tenanted (hi : i.Shared) {ops : List Operation}
    (hops : ∀ op ∈ ops, ∀ m, op.mapping? = some m → m.CommaFree) (s : Session σ) :
    ∃ requests, (ops.foldl (fun s op => op.after i s) s).link.sent = s.link.sent ++ requests
      ∧ ∀ r ∈ requests, r.Tenanted i.registry.clusterAlias := by
  induction ops generalizing s with
  | nil => exact Extends.refl s.link.sent
  | cons op rest ih =>
    have hop := op.extends_after hi (hops op List.mem_cons_self) s
    exact Extends.trans hop (ih (fun op' hop' => hops op' (List.mem_cons_of_mem _ hop')) (op.after i s))

/-- An indexer of one of several deployments in a cluster. -/
def acmeIndexer : Indexer Unit where
  config := {}
  registry :=
    { mappings := [("domain",
        { indexName := "domain_search_index", aliasName := "domain", parentAliases := ["all"]
          childAliases := ["dataProduct"], indexMappingFile := "domain.json" })]
      clusterAlias := "acme", language := "en", schemaRoot := "" }
  fileText _ := none
  backend _ state := (.ok { status := 200, body := .null }, state)

theorem acmeIndexer_shared : acmeIndexer.Shared where
  deployment := ⟨by decide, by decide, by decide⟩
  mappings := by
    intro entry hentry
    rw [List.mem_singleton.1 hentry]
    unfold IndexMapping.CommaFree
    decide

/-- A domain is deleted, its data products with it, and then several indexes are searched at once: five
    requests, all of them to names of the deployment. -/
theorem requests_tenanted_acme :
    let domain : Entity :=
      { id := .nil, entityType := "domain", name := "sales", fullyQualifiedName := "sales"
        version := .zero, updatedAt := 1 }
    let s := [Operation.createIndexes, .deleteEntity domain,
        .search { query := "*", index := "table, page" }].foldl
      (fun s op => op.after acmeIndexer s) { link := { state := () } }
    s.link.sent.length = 5 ∧ ∀ r ∈ s.link.sent, r.Tenanted "acme" := by
  intro domain s
  have hmappings : ∀ op ∈ [Operation.createIndexes, .deleteEntity domain,
      .search { query := "*", index := "table, page" }], ∀ m, op.mapping? = some m → m.CommaFree := by
    simp [Operation.mapping?]
  obtain ⟨requests, hsent, htenanted⟩ :=
    requests_tenanted acmeIndexer_shared hmappings { link := { state := () } }
  refine ⟨rfl, ?_⟩
  rw [show s.link.sent = requests from hsent]
  exact htenanted

end CatalogIndex
