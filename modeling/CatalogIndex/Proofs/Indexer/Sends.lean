/-
  CatalogIndex.Proofs.Indexer.Sends — what the programs of an indexer send.

  An indexing or an attempt sends requests through its exchanges and in no other way: it talks to the
  cluster, and what it does besides is to read, to count and to look entities up.  So what all requests
  of a program have in common is shown of its exchanges.

  Writes that are followed by cascades are long programs, but all they send is the first write and the
  planned cascades.

  ## Main definitions

    * `Indexing.Keeps`, `Attempt.Keeps` — what the programs of an indexer send and return.

  ## Main results

    * `keeps_absorb`, `keeps_attempt` — attempts that are made as a part of an indexing;
    * `keeps_everyIndex` — what is done for every mapping;
    * `keeps_updateEntity`, `keeps_removal` — a write, and the cascades that follow it.
-/
import CatalogIndex.Indexer.Admin
import CatalogIndex.Proofs.Cluster.Sends
import CatalogIndex.Proofs.Indexer.Isolation

namespace CatalogIndex

variable {σ α β : Type}

/-! ## §1. The programs of an indexer. -/

namespace Indexing

variable {i : Indexer σ} {P : Request → Prop}

/-- An indexing that sends only requests with `P`, and whose result has `Q`. -/
protected def Keeps (i : Indexer σ) (P : Request → Prop) (x : Indexing σ α) (Q : α → Prop) : Prop :=
  ∀ s : Session σ, Extends P s.link.sent (x.run i s).2.link.sent ∧ Q (x.run i s).1

protected theorem keeps_bind {x : Indexing σ α} {f : α → Indexing σ β} {Q : α → Prop} {R : β → Prop}
    (hx : Indexing.Keeps i P x Q) (hf : ∀ a, Q a → Indexing.Keeps i P (f a) R) :
    Indexing.Keeps i P (x >>= f) R := by
  intro s
  obtain ⟨hsent, hresult⟩ := hx s
  obtain ⟨hsent', hresult'⟩ := hf _ hresult (x.run i s).2
  rw [run_bind]
  exact ⟨hsent.trans hsent', hresult'⟩

instance : Sender (Indexing σ) (Indexer σ) where
  Keeps := Indexing.Keeps
  keeps_pure h := fun s => ⟨Extends.refl s.link.sent, h⟩
  keeps_bind := Indexing.keeps_bind

theorem keeps_record (f : Stats → Stats) : Sender.Keeps i P (record f) fun _ => True :=
  fun s => ⟨Extends.refl s.link.sent, trivial⟩

theorem keeps_read : Sender.Keeps i P (read : Indexing σ (Indexer σ)) (· = i) :=
  fun s => ⟨Extends.refl s.link.sent, rfl⟩

end Indexing

namespace Attempt

variable {i : Indexer σ} {P : Request → Prop}

/-- An attempt that sends only requests with `P`, and whose result, if there is one, has `Q`. -/
protected def Keeps (i : Indexer σ) (P : Request → Prop) (x : Attempt σ α) (Q : α → Prop) : Prop :=
  ∀ s : Session σ, Extends P s.link.sent (x.run i s).2.link.sent ∧ ∀ a, (x.run i s).1 = .ok a → Q a

protected theorem keeps_bind {x : Attempt σ α} {f : α → Attempt σ β} {Q : α → Prop} {R : β → Prop}
    (hx : Attempt.Keeps i P x Q) (hf : ∀ a, Q a → Attempt.Keeps i P (f a) R) :
    Attempt.Keeps i P (x >>= f) R := by
  intro s
  obtain ⟨hsent, hresult⟩ := hx s
  rw [run_bind]
  rcases hrun : x.run i s with ⟨outcome, t⟩
  rw [hrun] at hsent hresult
  cases outcome with
  | error e => exact ⟨hsent, fun _ h => by cases h⟩
  | ok a =>
    obtain ⟨hsent', hresult'⟩ := hf a (hresult a rfl) t
    exact ⟨hsent.trans hsent', hresult'⟩

instance : Sender (Attempt σ) (Indexer σ) where
  Keeps := Attempt.Keeps
  keeps_pure h := fun s => ⟨Extends.refl s.link.sent, fun _ heq => by cases heq; exact h⟩
  keeps_bind := Attempt.keeps_bind

theorem keeps_record (f : Stats → Stats) : Sender.Keeps i P (record f) fun _ => True :=
  fun s => ⟨Extends.refl s.link.sent, fun _ _ => trivial⟩

theorem keeps_read : Sender.Keeps i P (read : Attempt σ (Indexer σ)) (· = i) :=
  fun s => ⟨Extends.refl s.link.sent, fun _ heq => by cases heq; rfl⟩

theorem keeps_ask {x : Indexer σ → Outcome α} {Q : α → Prop} (h : ∀ a, x i = .ok a → Q a) :
    Sender.Keeps i P (ask x) Q :=
  fun s => ⟨Extends.refl s.link.sent, h⟩

/-- Talking to the cluster sends what the exchange sends. -/
theorem keeps_exchange {x : Engine → Exchange σ α} {Q : α → Prop}
    (h : Sender.Keeps i.backend P (x i.config.searchType) Q) : Sender.Keeps i P (exchange x) Q :=
  fun s => h s.link

theorem keeps_lift {x : Indexing σ α} {Q : α → Prop} (h : Sender.Keeps i P x Q) :
    Sender.Keeps i P (ExceptT.lift x : Attempt σ α) Q :=
  fun s => ⟨(h s).1, fun _ heq => by cases heq; exact (h s).2⟩

/-- An attempt that is made as a part of an indexing. -/
theorem keeps_made {x : Attempt σ α} {Q : α → Prop} (h : Sender.Keeps i P x Q) :
    Sender.Keeps i P (ExceptT.run x : Indexing σ (Outcome α)) fun outcome => ∀ a, outcome = .ok a → Q a :=
  fun s => h s

end Attempt

open Sender Attempt

namespace Indexing

variable {i : Indexer σ} {P : Request → Prop}

/-! ## §2. Attempts as parts of an indexing. -/

theorem keeps_attempt {x : Attempt σ Unit} {Q : Unit → Prop} (h : Keeps i P x Q) :
    Keeps i P (attempt x) fun _ => True :=
  keeps_bind (keeps_made h) fun _ _ => keeps_pure trivial

/-- A failure is counted, and nothing is sent for it. -/
theorem keeps_absorb {x : Attempt σ Unit} {Q : Unit → Prop} (h : Keeps i P x Q)
    (operation entityType entityId : String) :
    Keeps i P (absorb operation entityType entityId x) fun _ => True := by
  refine keeps_bind (keeps_made h) fun outcome _ => ?_
  cases outcome with
  | ok _ => exact keeps_pure trivial
  | error reason => exact Indexing.keeps_record _

/-- What is done for every mapping sends what it sends for each. -/
theorem keeps_everyIndex {x : IndexMapping → Indexing σ Unit}
    (hx : ∀ entry ∈ i.registry.mappings, Keeps i P (x entry.2) fun _ => True) :
    Keeps i P ((read : Indexing σ (Indexer σ)) >>= fun j => (Keyed.values j.registry.mappings).forM x)
      fun _ => True := by
  refine keeps_bind keeps_read fun j hj => ?_
  subst hj
  refine keeps_forM fun m hm => ?_
  obtain ⟨entry, hentry, rfl⟩ := List.mem_map.1 hm
  exact hx entry hentry

/-! ## §3. Indexes. -/

/-- What is done with the index of a mapping sends only requests with `P`. -/
structure AllowsIndex (i : Indexer σ) (P : Request → Prop) (m : IndexMapping) : Prop where
  found : Keeps i.backend P (Cluster.indexExists (m.index i.registry.clusterAlias)) fun _ => True
  created : ∀ schema,
    Keeps i.backend P (Cluster.createIndex (m.index i.registry.clusterAlias) schema) fun _ => True
  updated : ∀ schema,
    Keeps i.backend P (Cluster.updateIndex (m.index i.registry.clusterAlias) schema) fun _ => True
  deleted : Keeps i.backend P (Cluster.deleteIndex (m.index i.registry.clusterAlias)) fun _ => True
  joined : Keeps i.backend P (Cluster.createAliases (m.index i.registry.clusterAlias)
    (m.allAliases i.registry.clusterAlias)) fun _ => True

section Index

variable {m : IndexMapping}

theorem keeps_indexName : Keeps i P (indexName m) (· = m.index i.registry.clusterAlias) := by
  refine keeps_bind keeps_read fun j hj => ?_
  subst hj
  exact keeps_pure rfl

variable (hm : AllowsIndex i P m)

include hm

theorem keeps_indexExists : Keeps i P (indexExists m) fun _ => True := by
  refine keeps_bind keeps_indexName fun index hindex => ?_
  subst hindex
  refine keeps_bind (keeps_made (keeps_exchange hm.found)) fun found _ => ?_
  split
  · exact keeps_pure trivial
  · exact keeps_pure trivial

theorem keeps_joinAliases :
    Keeps i P (joinAliases m (m.index i.registry.clusterAlias)) fun _ => True := by
  refine keeps_bind Attempt.keeps_read fun j hj => ?_
  subst hj
  exact keeps_exchange hm.joined

theorem keeps_createIndex : Keeps i P (createIndex m) fun _ => True := by
  refine keeps_bind keeps_indexName fun index hindex => keeps_attempt (Q := fun _ => True) ?_
  subst hindex
  refine keeps_bind (keeps_lift (keeps_indexExists hm)) fun found _ => ?_
  split
  · exact keeps_pure trivial
  · refine keeps_bind (keeps_ask (Q := fun _ => True) fun _ _ => trivial) fun schema _ => ?_
    exact keeps_bind (keeps_exchange (hm.created schema)) fun _ _ => keeps_joinAliases hm

theorem keeps_updateIndex : Keeps i P (updateIndex m) fun _ => True := by
  refine keeps_bind keeps_indexName fun index hindex => keeps_attempt (Q := fun _ => True) ?_
  subst hindex
  refine keeps_bind (keeps_ask (Q := fun _ => True) fun _ _ => trivial) fun schema _ => ?_
  refine keeps_bind (keeps_lift (keeps_indexExists hm)) fun found _ => ?_
  split
  · -- an index that is there joins its aliases once more
    exact keeps_bind (keeps_exchange (hm.updated schema)) fun _ _ => keeps_joinAliases hm
  · exact keeps_bind (keeps_exchange (hm.created schema)) fun _ _ => keeps_joinAliases hm

theorem keeps_deleteIndex : Keeps i P (deleteIndex m) fun _ => True := by
  refine keeps_bind keeps_indexName fun index hindex => keeps_attempt (Q := fun _ => True) ?_
  subst hindex
  refine keeps_bind (keeps_lift (keeps_indexExists hm)) fun found _ => ?_
  split
  · exact keeps_exchange hm.deleted
  · exact keeps_pure trivial

end Index

/-! ## §4. Documents. -/

/-- Building a document sends nothing. -/
theorem keeps_buildDocument (x : Indexable) : Keeps i P (buildDocument x) fun _ => True :=
  keeps_ask fun _ _ => trivial

/-- What is done with a document is done in the index of its type. -/
theorem keeps_withDocument (entityType : String) (x : Indexable)
    {action : String → Document → Attempt σ Unit}
    (haction : ∀ index d, i.registry.index entityType = .ok index →
      Keeps i P (action index d) fun _ => True) :
    Keeps i P (indexOf entityType >>= fun index => buildDocument x >>= action index) fun _ => True :=
  keeps_bind (keeps_ask fun _ hindex => hindex) fun index hindex =>
    keeps_bind (keeps_buildDocument x) fun d _ => haction index d hindex

/-- A document is sent as a whole, and counted. -/
theorem keeps_putDocument {action index : String} {d : Document} (count : Stats → Stats)
    (hput : Keeps i.backend P (Cluster.putDocument action index d) fun _ => True) :
    Keeps i P (exchange (fun _ => Cluster.putDocument action index d) >>= fun _ => Attempt.record count)
      fun _ => True :=
  keeps_bind (keeps_exchange hput) fun _ _ => Attempt.keeps_record count

/-- The buffer keeps its index from entity to entity. -/
theorem keeps_bufferEntity (entityType : String) {buffer : BulkBuffer} {index : String}
    (hbuffer : buffer.index = index)
    (hsend : ∀ ds, Keeps i.backend P (Cluster.createDocuments index ds) fun _ => True) (e : Entity) :
    Keeps i P (bufferEntity entityType buffer e) fun after => after.index = index := by
  subst hbuffer
  refine keeps_bind (keeps_ask (Q := fun _ => True) fun _ _ => trivial) fun built _ => ?_
  cases built with
  | ok d =>
    -- the documents that wait may be sent now, and their failure ends the attempt
    refine keeps_bind (keeps_exchange (BulkBuffer.keeps_add hsend d)) fun result hresult => ?_
    exact keeps_bind (keeps_ask (Q := fun _ => True) fun _ _ => trivial) fun _ _ => keeps_pure hresult
  | error reason =>
    exact keeps_bind (keeps_lift (Indexing.keeps_record _)) fun _ _ => keeps_pure rfl

/-- Documents that are sent together go to the index of the first one. -/
theorem keeps_createEntities {es : List Entity}
    (hsend : ∀ first ∈ es.head?, ∀ index, i.registry.index first.entityType = .ok index →
      ∀ ds, Keeps i.backend P (Cluster.createDocuments index ds) fun _ => True) :
    Keeps i P (createEntities es) fun _ => True := by
  cases es with
  | nil => exact keeps_pure trivial
  | cons first rest =>
    refine keeps_absorb (Q := fun _ => True) ?_ _ _ _
    refine keeps_bind (keeps_ask fun _ hindex => hindex) fun index hindex => ?_
    have hsend := hsend first rfl index hindex
    refine keeps_bind Attempt.keeps_read fun j _ => ?_
    refine keeps_bind (keeps_foldlM (Q := fun buffer => buffer.index = index)
      (fun buffer e hbuffer => keeps_bufferEntity _ hbuffer hsend e) _ rfl) fun buffer hbuffer => ?_
    subst hbuffer
    exact keeps_bind (keeps_exchange (BulkBuffer.keeps_finish hsend)) fun _ _ => Attempt.keeps_record _

/-- A patch is counted, and so is a document that is put anew. -/
theorem keeps_writeUpdated {e : Entity}
    (hwrite : ∀ index, i.registry.index e.entityType = .ok index →
      (∀ script, planWrite e = .patch script → Keeps i.backend P
        (Cluster.patchDocument i.config.searchType index e.id.toText script) fun _ => True)
      ∧ ∀ d, Keeps i.backend P (Cluster.replaceDocument index d) fun _ => True) :
    Keeps i P (writeUpdated e) fun _ => True := by
  refine keeps_bind (keeps_ask fun _ hindex => hindex) fun index hindex => ?_
  obtain ⟨hpatch, hput⟩ := hwrite index hindex
  cases hplan : planWrite e with
  | patch script =>
    exact keeps_bind (keeps_exchange (hpatch script hplan)) fun _ _ => Attempt.keeps_record _
  | rebuild =>
    exact keeps_bind (keeps_buildDocument _) fun d _ => keeps_putDocument _ (hput d)

/-- What is done to a document is done in the index of its mapping. -/
theorem keeps_onDocument {e : Entity} {action : Engine → String → Exchange σ Unit}
    (haction : ∀ m, i.registry.require e.entityType = .ok m → Keeps i.backend P
      (action i.config.searchType (m.index i.registry.clusterAlias)) fun _ => True) :
    Keeps i P (onDocument e action) fun m => i.registry.require e.entityType = .ok m := by
  refine keeps_bind (keeps_ask fun _ hm => hm) fun m hm => ?_
  refine keeps_bind Attempt.keeps_read fun j hj => ?_
  subst hj
  exact keeps_bind (keeps_exchange (haction m hm)) fun _ _ => keeps_pure hm

theorem keeps_removeDocument {e : Entity}
    (hdelete : ∀ m, i.registry.require e.entityType = .ok m → Keeps i.backend P
      (Cluster.deleteDocument (m.index i.registry.clusterAlias) e.id.toText) fun _ => True) :
    Keeps i P (removeDocument e) fun m => i.registry.require e.entityType = .ok m :=
  keeps_bind (keeps_onDocument hdelete)
    fun _ hm => keeps_bind (Attempt.keeps_record _) fun _ _ => keeps_pure hm

/-- Looking an entity up sends nothing to the cluster. -/
theorem keeps_lookUp (r : EntityReference) : Keeps i P (lookUp r) fun _ => True := by
  intro s
  obtain ⟨hsent, -⟩ := run_lookUp r i s
  have hextends : Extends P s.link.sent ((lookUp r).run i s).2.link.sent := by
    rw [hsent]
    exact Extends.refl _
  exact ⟨hextends, fun _ _ => trivial⟩

/-! ## §5. Writes with cascades. -/

/-- The cascade sends only requests with `P`. -/
def Allows (i : Indexer σ) (P : Request → Prop) (op : CascadeOp) : Prop :=
  Keeps i.backend P (Cluster.applyCascade i.config.searchType i.registry op) fun _ => True

theorem keeps_runCascade (cascade : String) (e : Entity) {op : CascadeOp} (hop : Allows i P op) :
    Keeps i P (runCascade cascade e op) fun _ => True := by
  refine keeps_bind keeps_read fun j hj => ?_
  subst hj
  refine keeps_bind (keeps_made (keeps_exchange hop)) fun outcome _ => ?_
  cases outcome with
  | ok _ => exact Indexing.keeps_record _
  | error reason => exact Indexing.keeps_record _

theorem keeps_runCascades (cascade : String) (e : Entity) {planned : Outcome (List CascadeOp)}
    (hplanned : ∀ ops, planned = .ok ops → ∀ op ∈ ops, Allows i P op) :
    Keeps i P (runCascades cascade e planned) fun _ => True := by
  cases planned with
  | error reason => exact Indexing.keeps_record _
  | ok ops => exact keeps_forM fun op hop => keeps_runCascade cascade e (hplanned ops rfl op hop)

/-- **An update sends its first write and what the planners plan.** -/
theorem keeps_updateEntity {e : Entity} {Q : Unit → Prop} (hwrite : Keeps i P (writeUpdated e) Q)
    (hplan : ∀ m, i.registry.mapping? e.entityType = some m → ∀ (cascade : UpdateCascade) ops,
      cascade.plan { registry := i.registry, mapping := m, entity := e, change := e.selectedChange? }
        = .ok ops → ∀ op ∈ ops, Allows i P op) :
    Keeps i P (updateEntity e) fun _ => True := by
  refine keeps_bind (keeps_made hwrite) fun outcome _ => ?_
  cases outcome with
  | error reason => exact Indexing.keeps_record _
  | ok _ =>
    refine keeps_bind keeps_read fun j hj => ?_
    subst hj
    split
    · exact keeps_pure trivial
    · rename_i m hm
      refine keeps_bind keeps_read fun j hj => ?_
      subst hj
      exact keeps_forM fun cascade _ => keeps_runCascades _ e (hplan m hm cascade)

/-- **A removal sends its first write and what the rule plans.** -/
theorem keeps_removal (operation cascade : String) {e : Entity} {write : Attempt σ IndexMapping}
    {Q : IndexMapping → Prop} (hwrite : Keeps i P write Q)
    {plan : DeleteRules → Mutation → List CascadeOp}
    (hplan : ∀ m, Q m → ∀ op ∈ plan i.deleteRules
      { registry := i.registry, mapping := m, entity := e, change := none }, Allows i P op) :
    Keeps i P (removal operation cascade e write plan) fun _ => True := by
  refine keeps_bind (keeps_made hwrite) fun outcome houtcome => ?_
  cases outcome with
  | error reason => exact Indexing.keeps_record _
  | ok m =>
    refine keeps_bind keeps_read fun j hj => ?_
    subst hj
    refine keeps_runCascades cascade e fun ops hops => ?_
    cases hops
    exact hplan m (houtcome m rfl)

end Indexing

end CatalogIndex
