/-
  CatalogIndex.Proofs.Indexer.Isolation — cascades do not depend on each other's replies.

  Updating, deleting and flagging an entity follow one pattern: first a write of the entity's own
  document, then the cascades of a list of planners.  Which requests are sent is settled before the
  cluster says anything: the replies only decide whether the cascades start at all, and what the
  counters say in the end.  So two runs against different backends send the same requests as soon
  as both backends accept the first one.

  The three programs are taken apart by `run_program`; the cascades are followed op by op
  (`sends_runCascade`), op after op of one planner (`sends_forM_runCascade`) and planner after
  planner (`sends_plans`).

  ## Main definitions

    * `EntityWrite` — the three programs, with their first request and their planners;
    * `Counts` — how far the counters have moved.

  ## Main results

    * `cascades_isolated` — the requests and the counters of a run.
-/
import CatalogIndex.Indexer.Writes
import CatalogIndex.Proofs.Cascade.Planned
import CatalogIndex.Proofs.Document.Coverage

namespace CatalogIndex

variable {σ : Type}

/-! ## §1. Running programs. -/

/-- One program after another. -/
theorem Indexing.run_bind {α β : Type} (x : Indexing σ α) (f : α → Indexing σ β) (i : Indexer σ)
    (s : Session σ) : (x >>= f).run i s = (f (x.run i s).1).run i (x.run i s).2 := rfl

/-- An attempt that is made as a part of a program runs as it does by itself. -/
theorem Indexing.run_made {α : Type} (x : Attempt σ α) (i : Indexer σ) (s : Session σ) :
    Indexing.run (ExceptT.run x) i s = x.run i s := rfl

namespace Attempt

variable {α β : Type}

/-- One attempt after another: the second is made where the first succeeded. -/
theorem run_bind (x : Attempt σ α) (f : α → Attempt σ β) (i : Indexer σ) (s : Session σ) :
    (x >>= f).run i s = match x.run i s with
      | (.ok a, s) => (f a).run i s
      | (.error e, s) => (.error e, s) := by
  show (match x.run i s with
    | (outcome, s) => (ExceptT.bindCont f outcome : Indexing σ _) i s) = _
  rcases x.run i s with ⟨outcome, s'⟩
  cases outcome <;> rfl

/-- Something to ask for first, which decides whether there is anything more. -/
theorem run_ask_bind (x : Indexer σ → Outcome α) (f : α → Attempt σ β) (i : Indexer σ)
    (s : Session σ) :
    (ask x >>= f).run i s = match x i with
      | .ok a => (f a).run i s
      | .error e => (.error e, s) := by
  rw [run_bind]
  show (match (x i, s) with
    | (.ok a, s) => (f a).run i s
    | (.error e, s) => (.error e, s)) = _
  cases x i <;> rfl

/-- An exchange that asks once succeeds exactly if the response is accepted. -/
theorem run_exchange {x : Engine → Exchange σ α} {i : Indexer σ} {r : Request}
    {accepts : Response → Bool} (h : AsksOnce (x i.config.searchType) r accepts) (s : Session σ) :
    (isAccepted accepts (i.backend r s.link.state).1 = true
        ∧ ∃ a, (exchange x).run i s = (.ok a, { s with link := s.link.after i.backend r }))
      ∨ (isAccepted accepts (i.backend r s.link.state).1 = false
        ∧ ∃ e, (exchange x).run i s = (.error e, { s with link := s.link.after i.backend r })) := by
  obtain ⟨hlink, hok⟩ := h i.backend s.link
  have hrun : (exchange x).run i s
      = (((x i.config.searchType).run i.backend s.link).1,
          { s with link := ((x i.config.searchType).run i.backend s.link).2 }) := rfl
  rw [hrun, ← hok, hlink]
  cases ((x i.config.searchType).run i.backend s.link).1 with
  | error e => exact Or.inr ⟨rfl, e, rfl⟩
  | ok a => exact Or.inl ⟨rfl, a, rfl⟩

end Attempt

/-- Looking an entity up is no matter for the cluster, and none for the counters. -/
theorem Indexing.run_lookUp (r : EntityReference) (i : Indexer σ) (s : Session σ) :
    ((Indexing.lookUp r).run i s).2.link.sent = s.link.sent
      ∧ ((Indexing.lookUp r).run i s).2.stats = s.stats := by
  obtain ⟨config, registry, builders, deleteRules, fileText, backend, lookup⟩ := i
  cases lookup with
  | none => exact ⟨rfl, rfl⟩
  | some find => exact ⟨rfl, rfl⟩

/-- An attempt that is absorbed talks to the cluster as it does by itself. -/
theorem Indexing.link_absorb (operation entityType entityId : String) (x : Attempt σ Unit)
    (i : Indexer σ) (s : Session σ) :
    ((Indexing.absorb operation entityType entityId x).run i s).2.link = (x.run i s).2.link := by
  unfold Indexing.absorb
  rw [Indexing.run_bind, Indexing.run_made]
  -- a failure is recorded among the counters only
  cases (x.run i s).1 <;> rfl

/-! ## §2. The three writes. -/

/-- A write to an entity that sets off cascades. -/
inductive EntityWrite where
  | update
  | delete
  | flag (deleted : Bool)
  deriving DecidableEq

namespace EntityWrite

/-- The program of a write. -/
def program (e : Entity) : EntityWrite → Indexing σ Unit
  | .update => Indexing.updateEntity e
  | .delete => Indexing.deleteEntity e
  | .flag deleted => Indexing.softDeleteOrRestore e deleted

/-- The request for the document of the entity itself. -/
def primary (e : Entity) (i : Indexer σ) : EntityWrite → Outcome Request
  | .update => do
    let index ← i.registry.index e.entityType
    match planWrite e with
    | .patch script => return Cluster.patchRequest i.config.searchType index e.id.toText script
    | .rebuild => return Cluster.putRequest index (← i.builders.build e.indexable)
  | .delete => do
    let m ← i.registry.require e.entityType
    return Cluster.deleteRequest (m.index i.registry.clusterAlias) e.id.toText
  | .flag deleted => do
    let m ← i.registry.require e.entityType
    return Cluster.patchRequest i.config.searchType (m.index i.registry.clusterAlias) e.id.toText
      (Script.of (.setDeleted deleted))

/-- Whether the response to the first request is a success; a document that is not there counts as
    deleted. -/
def accepts : EntityWrite → Response → Bool
  | .delete, response => response.isNotFound || response.isSuccess
  | _, response => response.isSuccess

/-- What the planners plan, under their words. -/
def plans (e : Entity) (i : Indexer σ) (m : IndexMapping) :
    EntityWrite → List (String × Outcome (List CascadeOp))
  | .update => UpdateCascade.all.map fun cascade => (cascade.word, cascade.plan
      { registry := i.registry, mapping := m, entity := e, change := e.selectedChange? })
  | .delete => [("delete", .ok (i.deleteRules.planDelete
      { registry := i.registry, mapping := m, entity := e, change := none }))]
  | .flag deleted => [("soft_delete", .ok (i.deleteRules.planFlag
      { registry := i.registry, mapping := m, entity := e, change := none } deleted))]

/-- What the counters say of the document of the entity itself. -/
def counted (e : Entity) : EntityWrite → Stats → Stats
  | .update =>
    match planWrite e with
    | .patch _ => Stats.addPatch
    | .rebuild => Stats.addRebuild
  | .delete => Stats.addDeleted
  | .flag _ => id

end EntityWrite

/-! ## §3. The first request. -/

/-- The planned request is there, and the backend accepts it. -/
def Passes (b : Backend σ) (s : Session σ) (planned : Outcome Request)
    (accepts : Response → Bool) : Prop :=
  ∃ r, planned = .ok r ∧ isAccepted accepts (b r s.link.state).1 = true

/-- What has passed after the planned request, if there is one. -/
def Link.afterPlanned (b : Backend σ) (link : Link σ) (planned : Outcome Request) : Link σ :=
  link.afterAll b planned.toOption.toList

/-- The attempt sends the planned request and nothing else.  If that passes, the attempt counts it,
    and its result is as said; otherwise the attempt fails. -/
def Performs {α : Type} (x : Attempt σ α) (i : Indexer σ) (planned : Outcome Request)
    (accepts : Response → Bool) (count : Stats → Stats) (result : α → Prop) : Prop :=
  ∀ s : Session σ,
    (Passes i.backend s planned accepts ∧ ∃ a, result a ∧ x.run i s
        = (.ok a, { link := s.link.afterPlanned i.backend planned, stats := count s.stats }))
    ∨ (¬ Passes i.backend s planned accepts ∧ ∃ reason, x.run i s
        = (.error reason, { s with link := s.link.afterPlanned i.backend planned }))

namespace Performs

variable {α β : Type} {i : Indexer σ} {planned : Outcome Request} {accepts : Response → Bool}
  {count : Stats → Stats} {result : α → Prop}

theorem exchange {x : Engine → Exchange σ α} {r : Request}
    (h : AsksOnce (x i.config.searchType) r accepts) :
    Performs (Attempt.exchange x) i (.ok r) accepts id fun _ => True := by
  intro s
  rcases Attempt.run_exchange h s with ⟨haccepted, a, hrun⟩ | ⟨hrefused, reason, hrun⟩
  · exact Or.inl ⟨⟨r, rfl, haccepted⟩, a, trivial, hrun⟩
  · refine Or.inr ⟨?_, reason, hrun⟩
    rintro ⟨r', hr, haccepted⟩
    cases hr
    rw [hrefused] at haccepted
    cases haccepted

/-- What comes after the request and cannot fail. -/
theorem bind {x : Attempt σ α} (h : Performs x i planned accepts count result)
    (f : α → Attempt σ β) (g : α → β) (count' : Stats → Stats) (result' : β → Prop)
    (hf : ∀ a s, (f a).run i s = (.ok (g a), { s with stats := count' s.stats }))
    (hg : ∀ a, result a → result' (g a)) :
    Performs (x >>= f) i planned accepts (count' ∘ count) result' := by
  intro s
  rw [Attempt.run_bind]
  rcases h s with ⟨hpasses, a, ha, hrun⟩ | ⟨hfails, reason, hrun⟩
  · rw [hrun]
    exact Or.inl ⟨hpasses, g a, hg a ha, hf a _⟩
  · rw [hrun]
    exact Or.inr ⟨hfails, reason, rfl⟩

/-- What comes before the request: if it fails, there is no request. -/
theorem ask {x : Indexer σ → Outcome α} {f : α → Attempt σ β} {plan : α → Outcome Request}
    {result : β → Prop}
    (h : ∀ a, x i = .ok a → Performs (f a) i (plan a) accepts count result) :
    Performs (Attempt.ask x >>= f) i (x i >>= plan) accepts count result := by
  intro s
  rw [Attempt.run_ask_bind]
  cases hx : x i with
  | error e =>
    refine Or.inr ⟨?_, e, rfl⟩
    rintro ⟨r, hr, -⟩
    cases hr
  | ok a => exact h a hx s

end Performs

namespace EntityWrite

variable {i : Indexer σ} {e : Entity}

theorem mapping?_of_index {entityType index : String}
    (h : i.registry.index entityType = .ok index) :
    ∃ m, i.registry.mapping? entityType = some m := by
  obtain ⟨m, hm, -⟩ := Outcome.map_eq_ok h
  unfold Registry.require at hm
  split at hm
  · rename_i m' hm'
    exact ⟨m', hm'⟩
  · cases hm

theorem mapping?_of_require {entityType : String} {m : IndexMapping}
    (h : i.registry.require entityType = .ok m) : i.registry.mapping? entityType = some m := by
  unfold Registry.require at h
  split at h
  · rename_i m' hm'
    cases h
    exact hm'
  · cases h

/-- The mapping of the type of the entity is known. -/
def Mapped (e : Entity) (i : Indexer σ) : Prop := ∃ m, i.registry.mapping? e.entityType = some m

/-- The write of a changed document. -/
theorem performs_writeUpdated :
    Performs (Indexing.writeUpdated e) i (EntityWrite.update.primary e i) EntityWrite.update.accepts
      (EntityWrite.update.counted e) fun _ => Mapped e i := by
  refine Performs.ask fun index hindex => ?_
  have hmapped : Mapped e i := mapping?_of_index hindex
  unfold counted
  cases hplan : planWrite e with
  | patch script =>
    -- an empty script would send nothing; this one always sets the time of the update
    have hscript : script.isEmpty = false := by
      obtain ⟨c, -, hcovers⟩ := covers_of_planWrite hplan
      exact List.isEmpty_eq_false_iff.2 (List.ne_nil_of_mem hcovers.moment.1)
    have hsend := Performs.exchange (i := i)
      (x := fun engine => Cluster.patchDocument engine index e.id.toText script)
      (Cluster.asksOnce_patchDocument i.config.searchType index e.id.toText hscript)
    exact hsend.bind (fun _ => Attempt.record Stats.addPatch) (fun _ => ()) Stats.addPatch
      (fun _ => Mapped e i) (fun _ _ => rfl) (fun _ _ => hmapped)
  | rebuild =>
    refine Performs.ask fun d hd => ?_
    have hsend := Performs.exchange (i := i) (x := fun _ => Cluster.replaceDocument index d)
      (Cluster.asksOnce_replaceDocument index d)
    exact hsend.bind (fun _ => Attempt.record Stats.addRebuild) (fun _ => ()) Stats.addRebuild
      (fun _ => Mapped e i) (fun _ _ => rfl) (fun _ _ => hmapped)

/-- A write to the document of an entity whose mapping is returned. -/
theorem performs_onDocument (action : Engine → String → Exchange σ Unit)
    {request : String → Request} {accepts : Response → Bool}
    (h : ∀ index, AsksOnce (action i.config.searchType index) (request index) accepts) :
    Performs (Indexing.onDocument e action) i
      (i.registry.require e.entityType >>= fun m => .ok (request (m.index i.registry.clusterAlias)))
      accepts id fun m => i.registry.mapping? e.entityType = some m := by
  refine Performs.ask fun m hm => ?_
  have hsend := Performs.exchange (i := i)
    (x := fun engine => action engine (m.index i.registry.clusterAlias))
    (h (m.index i.registry.clusterAlias))
  exact hsend.bind (fun _ => pure m) (fun _ => m) id
    (fun m => i.registry.mapping? e.entityType = some m) (fun _ _ => rfl)
    (fun _ _ => mapping?_of_require hm)

theorem performs_removeDocument :
    Performs (Indexing.removeDocument e) i (EntityWrite.delete.primary e i)
      EntityWrite.delete.accepts (EntityWrite.delete.counted e)
      fun m => i.registry.mapping? e.entityType = some m := by
  have hwrite := performs_onDocument (i := i) (e := e)
    (fun _ index => Cluster.deleteDocument index e.id.toText)
    fun index => Cluster.asksOnce_deleteDocument index e.id.toText
  exact hwrite.bind (fun m => Attempt.record Stats.addDeleted >>= fun _ => pure m) id
    Stats.addDeleted _ (fun _ _ => rfl) (fun _ hm => hm)

theorem performs_flagDocument (deleted : Bool) :
    Performs (Indexing.flagDocument e deleted) i ((EntityWrite.flag deleted).primary e i)
      (EntityWrite.flag deleted).accepts ((EntityWrite.flag deleted).counted e)
      fun m => i.registry.mapping? e.entityType = some m :=
  performs_onDocument
    (fun engine index =>
      Cluster.patchDocument engine index e.id.toText (Script.of (.setDeleted deleted)))
    fun index => Cluster.asksOnce_patchDocument i.config.searchType index e.id.toText rfl

/-! ## §4. The first request, and what is left to do. -/

section Programs

variable {s t : Session σ}

/-- A removal goes on with the rule for the type where its first write succeeds. -/
theorem run_removal_of_ok {write : Attempt σ IndexMapping} {m : IndexMapping}
    (h : write.run i s = (.ok m, t)) (operation cascade : String)
    (plan : DeleteRules → Mutation → List CascadeOp) :
    (Indexing.removal operation cascade e write plan).run i s
      = (Indexing.runCascades cascade e (.ok (plan i.deleteRules
          { registry := i.registry, mapping := m, entity := e, change := none }))).run i t := by
  unfold Indexing.removal
  rw [Indexing.run_bind, Indexing.run_made, h]
  rfl

/-- A removal records a failure where its first write fails. -/
theorem run_removal_of_error {write : Attempt σ IndexMapping} {reason : Error}
    (h : write.run i s = (.error reason, t)) (operation cascade : String)
    (plan : DeleteRules → Mutation → List CascadeOp) :
    ∃ failure, ((Indexing.removal operation cascade e write plan).run i s).2
      = { t with stats := t.stats.addWriteFailure failure } := by
  unfold Indexing.removal
  rw [Indexing.run_bind, Indexing.run_made, h]
  exact ⟨_, rfl⟩

/-- An update goes on with its planners where its first write succeeds. -/
theorem run_updateEntity_of_ok {m : IndexMapping}
    (h : (Indexing.writeUpdated e).run i s = (.ok (), t))
    (hm : i.registry.mapping? e.entityType = some m) :
    (Indexing.updateEntity e).run i s = (Indexing.runUpdateCascades e m).run i t := by
  have hread : Indexing.run (read : Indexing σ (Indexer σ)) i t = (i, t) := rfl
  unfold Indexing.updateEntity
  rw [Indexing.run_bind, Indexing.run_made, h]
  dsimp only
  rw [Indexing.run_bind, hread]
  dsimp only
  rw [hm]

/-- An update records a failure where its first write fails. -/
theorem run_updateEntity_of_error {reason : Error}
    (h : (Indexing.writeUpdated e).run i s = (.error reason, t)) :
    ∃ failure, ((Indexing.updateEntity e).run i s).2
      = { t with stats := t.stats.addWriteFailure failure } := by
  unfold Indexing.updateEntity
  rw [Indexing.run_bind, Indexing.run_made, h]
  exact ⟨_, rfl⟩

/-- What is left to do, and what it is done on, once the first request has been performed. -/
theorem run_of_performs {α : Type} {w : EntityWrite} {x : Attempt σ α} {result : α → Prop}
    (h : Performs x i (w.primary e i) w.accepts (w.counted e) result)
    (hok : ∀ a t, result a → x.run i s = (.ok a, t) →
      ∃ m, i.registry.mapping? e.entityType = some m ∧ (w.program e).run i s
        = Indexing.run ((w.plans e i m).forM fun plan => Indexing.runCascades plan.1 e plan.2) i t)
    (hfail : ∀ reason t, x.run i s = (.error reason, t) → ∃ failure,
      ((w.program e).run i s).2 = { t with stats := t.stats.addWriteFailure failure }) :
    (Passes i.backend s (w.primary e i) w.accepts ∧ ∃ m, i.registry.mapping? e.entityType = some m
        ∧ (w.program e).run i s
          = Indexing.run ((w.plans e i m).forM fun plan => Indexing.runCascades plan.1 e plan.2) i
              { link := s.link.afterPlanned i.backend (w.primary e i), stats := w.counted e s.stats })
    ∨ (¬ Passes i.backend s (w.primary e i) w.accepts ∧ ∃ failure, ((w.program e).run i s).2
        = { link := s.link.afterPlanned i.backend (w.primary e i)
            stats := s.stats.addWriteFailure failure }) := by
  rcases h s with ⟨hpasses, a, ha, hx⟩ | ⟨hfails, reason, hx⟩
  · exact Or.inl ⟨hpasses, hok a _ ha hx⟩
  · exact Or.inr ⟨hfails, hfail reason _ hx⟩

end Programs

/-- **Each of the three writes sends its first request, goes on with its planners if that passes, and
    records a failure otherwise.** -/
theorem run_program (w : EntityWrite) (e : Entity) (i : Indexer σ) (s : Session σ) :
    (Passes i.backend s (w.primary e i) w.accepts ∧ ∃ m, i.registry.mapping? e.entityType = some m
        ∧ (w.program e).run i s
          = Indexing.run ((w.plans e i m).forM fun plan => Indexing.runCascades plan.1 e plan.2) i
              { link := s.link.afterPlanned i.backend (w.primary e i), stats := w.counted e s.stats })
    ∨ (¬ Passes i.backend s (w.primary e i) w.accepts ∧ ∃ failure, ((w.program e).run i s).2
        = { link := s.link.afterPlanned i.backend (w.primary e i)
            stats := s.stats.addWriteFailure failure }) := by
  cases w with
  | update =>
    refine run_of_performs performs_writeUpdated (fun _ t hmapped hx => ?_) fun _ t hx => ?_
    · obtain ⟨m, hm⟩ := hmapped
      refine ⟨m, hm, ?_⟩
      show (Indexing.updateEntity e).run i s = _
      rw [run_updateEntity_of_ok hx hm]
      rfl
    · exact run_updateEntity_of_error hx
  | delete =>
    refine run_of_performs performs_removeDocument (fun m t hm hx => ⟨m, hm, ?_⟩) fun _ t hx => ?_
    · exact run_removal_of_ok hx "delete_entity" "delete" DeleteRules.planDelete
    · exact run_removal_of_error hx "delete_entity" "delete" DeleteRules.planDelete
  | flag deleted =>
    refine run_of_performs (performs_flagDocument deleted) (fun m t hm hx => ⟨m, hm, ?_⟩)
      fun _ t hx => ?_
    · exact run_removal_of_ok hx "soft_delete_or_restore_entity" "soft_delete"
        fun rules m => rules.planFlag m deleted
    · exact run_removal_of_error hx "soft_delete_or_restore_entity" "soft_delete"
        fun rules m => rules.planFlag m deleted

end EntityWrite

/-! ## §5. The cascades. -/

/-- The counters after some cascades: so many were carried out, so many failed, and nothing else
    moved. -/
structure Counts (before after : Stats) (done failed : Nat) : Prop where
  cascades : after.cascades = before.cascades + done
  cascadeFailures : after.cascadeFailures = before.cascadeFailures + failed
  writeFailures : after.writeFailures = before.writeFailures
  created : after.created = before.created
  rebuilds : after.rebuilds = before.rebuilds
  patches : after.patches = before.patches
  deleted : after.deleted = before.deleted

namespace Counts

theorem refl (s : Stats) : Counts s s 0 0 := ⟨rfl, rfl, rfl, rfl, rfl, rfl, rfl⟩

theorem addCascade (s : Stats) : Counts s s.addCascade 1 0 := ⟨rfl, rfl, rfl, rfl, rfl, rfl, rfl⟩

theorem addCascadeFailure (f : Failure) (s : Stats) : Counts s (s.addCascadeFailure f) 0 1 :=
  ⟨rfl, rfl, rfl, rfl, rfl, rfl, rfl⟩

theorem trans {s t u : Stats} {done failed done' failed' : Nat} (h : Counts s t done failed)
    (h' : Counts t u done' failed') : Counts s u (done + done') (failed + failed') where
  cascades := by rw [h'.cascades, h.cascades]; omega
  cascadeFailures := by rw [h'.cascadeFailures, h.cascadeFailures]; omega
  writeFailures := h'.writeFailures.trans h.writeFailures
  created := h'.created.trans h.created
  rebuilds := h'.rebuilds.trans h.rebuilds
  patches := h'.patches.trans h.patches
  deleted := h'.deleted.trans h.deleted

end Counts

/-- Whether the reply to a cascade is a success. -/
def isDone : Outcome Response → Bool := isAccepted Response.isSuccess

/-- The writes of those planners that could plan. -/
def plannedOps (plans : List (String × Outcome (List CascadeOp))) : List CascadeOp :=
  plans.flatMap fun plan => plan.2.toOption.getD []

/-- How many planners could not plan. -/
def failedPlans (plans : List (String × Outcome (List CascadeOp))) : Nat :=
  plans.countP fun plan => !plan.2.isOk

namespace Indexing

variable {i : Indexer σ} {e : Entity}

/-- What a program does that sends requests whatever the replies, where `failed` cascades fail for
    other reasons. -/
def Sends (x : Indexing σ Unit) (i : Indexer σ) (requests : List Request) (failed : Nat) : Prop :=
  ∀ s : Session σ, (x.run i s).2.link = s.link.afterAll i.backend requests
    ∧ Counts s.stats (x.run i s).2.stats
        ((replies i.backend s.link.state requests).countP isDone)
        (failed + (replies i.backend s.link.state requests).countP (!isDone ·))

theorem sends_nil : Sends (pure () : Indexing σ Unit) i [] 0 :=
  fun s => ⟨rfl, Counts.refl s.stats⟩

/-- One program after another sends the requests of both. -/
theorem Sends.seq {x y : Indexing σ Unit} {requests requests' : List Request} {failed failed' : Nat}
    (hx : Sends x i requests failed) (hy : Sends y i requests' failed') :
    Sends (x >>= fun _ => y) i (requests ++ requests') (failed + failed') := by
  intro s
  rw [run_bind]
  obtain ⟨hlink, hcounts⟩ := hx s
  -- the second program starts where the requests of the first one have led
  obtain ⟨hlink', hcounts'⟩ := hy (x.run i s).2
  rw [hlink] at hlink' hcounts'
  refine ⟨?_, ?_⟩
  · rw [hlink', Link.afterAll_append]
  · rw [replies_append, List.countP_append, List.countP_append]
    have hboth := hcounts.trans hcounts'
    rwa [Nat.add_add_add_comm] at hboth

/-- A cascade is an exchange with the cluster, and a success is counted. -/
theorem run_runCascade_of_ok {op : CascadeOp} {s t : Session σ}
    (h : (Attempt.exchange fun engine => Cluster.applyCascade engine i.registry op).run i s
      = (.ok (), t)) (cascade : String) :
    ((runCascade cascade e op).run i s).2 = { t with stats := t.stats.addCascade } := by
  have hread : Indexing.run (read : Indexing σ (Indexer σ)) i s = (i, s) := rfl
  unfold runCascade
  rw [run_bind, hread]
  dsimp only
  rw [run_bind, run_made, h]
  rfl

/-- So is a failure, of whatever kind. -/
theorem run_runCascade_of_error {op : CascadeOp} {s t : Session σ} {reason : Error}
    (h : (Attempt.exchange fun engine => Cluster.applyCascade engine i.registry op).run i s
      = (.error reason, t)) (cascade : String) :
    ∃ failure, ((runCascade cascade e op).run i s).2
      = { t with stats := t.stats.addCascadeFailure failure } := by
  have hread : Indexing.run (read : Indexing σ (Indexer σ)) i s = (i, s) := rfl
  unfold runCascade
  rw [run_bind, hread]
  dsimp only
  rw [run_bind, run_made, h]
  exact ⟨_, rfl⟩

/-- **A cascade sends its request, and the reply only moves the counters.** -/
theorem sends_runCascade (cascade : String) {op : CascadeOp} (h : op.Sendable i.registry) :
    Sends (runCascade cascade e op) i [op.request i.config.searchType i.registry] 0 := by
  intro s
  have hasks := Attempt.run_exchange (i := i)
    (x := fun engine => Cluster.applyCascade engine i.registry op)
    (Cluster.asksOnce_applyCascade i.config.searchType h) s
  have hcount : ∀ p : Outcome Response → Bool,
      (replies i.backend s.link.state [op.request i.config.searchType i.registry]).countP p
        = if p (i.backend (op.request i.config.searchType i.registry) s.link.state).1 then 1 else 0 :=
    fun p => by simp [replies, List.countP_cons]
  rw [hcount, hcount]
  -- the reply decides which counter moves, and nothing else
  rcases hasks with ⟨haccepted, _, hx⟩ | ⟨hrefused, reason, hx⟩
  · have hdone : isDone (i.backend (op.request i.config.searchType i.registry) s.link.state).1 = true :=
      haccepted
    rw [run_runCascade_of_ok hx, hdone]
    exact ⟨rfl, Counts.addCascade s.stats⟩
  · have hdone : isDone (i.backend (op.request i.config.searchType i.registry) s.link.state).1
        = false := hrefused
    obtain ⟨failure, hrun⟩ := run_runCascade_of_error (e := e) hx cascade
    rw [hrun, hdone]
    exact ⟨rfl, Counts.addCascadeFailure failure s.stats⟩

/-- The cascades of a planner, one after the other. -/
theorem sends_forM_runCascade (cascade : String) {ops : List CascadeOp}
    (h : ∀ op ∈ ops, op.Sendable i.registry) :
    Sends (ops.forM (runCascade cascade e)) i
      (ops.map (·.request i.config.searchType i.registry)) 0 := by
  induction ops with
  | nil => exact sends_nil
  | cons op rest ih =>
    have hrest := ih fun o ho => h o (List.mem_cons_of_mem _ ho)
    exact (sends_runCascade cascade (h op List.mem_cons_self)).seq hrest

/-- The cascades of all planners, planner by planner. -/
theorem sends_plans {plans : List (String × Outcome (List CascadeOp))}
    (h : ∀ op ∈ plannedOps plans, op.Sendable i.registry) :
    Sends (plans.forM fun plan => runCascades plan.1 e plan.2) i
      ((plannedOps plans).map (·.request i.config.searchType i.registry)) (failedPlans plans) := by
  induction plans with
  | nil => exact sends_nil
  | cons plan rest ih =>
    obtain ⟨cascade, planned⟩ := plan
    have hrest := ih fun op hop => h op (List.mem_append_right _ hop)
    cases planned with
    | error reason =>
      -- the failure of a planner is counted, and nothing is sent
      have hhead : Sends (runCascades cascade e (.error reason)) i [] 1 :=
        fun s => ⟨rfl, Counts.addCascadeFailure _ s.stats⟩
      have hboth := hhead.seq hrest
      have hfailed : failedPlans ((cascade, .error reason) :: rest) = 1 + failedPlans rest := by
        unfold failedPlans
        rw [List.countP_cons_of_pos rfl, Nat.add_comm]
      rw [hfailed]
      exact hboth
    | ok ops =>
      have hhead := sends_forM_runCascade (e := e) cascade fun op hop =>
        h op (List.mem_append_left _ hop)
      have hboth := hhead.seq hrest
      have hfailed : failedPlans ((cascade, .ok ops) :: rest) = 0 + failedPlans rest := by
        unfold failedPlans
        rw [List.countP_cons_of_neg (by simp [Except.isOk, Except.toBool]), Nat.zero_add]
      have hops : plannedOps ((cascade, .ok ops) :: rest) = ops ++ plannedOps rest := rfl
      rw [hfailed, hops, List.map_append]
      exact hboth

end Indexing

/-! ## §6. Two runs. -/

namespace EntityWrite

/-- Every planned write has something to do. -/
theorem sendable_plans (w : EntityWrite) (e : Entity) (i : Indexer σ) (m : IndexMapping) :
    ∀ op ∈ plannedOps (w.plans e i m), op.Sendable i.registry := by
  intro op hop
  unfold plannedOps at hop
  obtain ⟨plan, hplan, hmem⟩ := List.mem_flatMap.1 hop
  cases w with
  | update =>
    obtain ⟨cascade, -, rfl⟩ := List.mem_map.1 hplan
    cases hplanned : cascade.plan
        { registry := i.registry, mapping := m, entity := e, change := e.selectedChange? } with
    | error reason =>
      rw [hplanned] at hmem
      cases hmem
    | ok ops =>
      rw [hplanned] at hmem
      exact UpdateCascade.sendable_plan hplanned op hmem
  | delete =>
    rw [List.mem_singleton.1 hplan] at hmem
    exact DeleteRules.sendable_planDelete _ _ op hmem
  | flag deleted =>
    rw [List.mem_singleton.1 hplan] at hmem
    exact DeleteRules.sendable_planFlag _ _ deleted op hmem

/-- The session after a write, where `b` is the other end. -/
def after (w : EntityWrite) (e : Entity) (i : Indexer σ) (b : Backend σ) (s : Session σ) :
    Session σ :=
  ((w.program e).run { i with backend := b } s).2

/-- The requests of the cascades, in the order of the planners and of their plans. -/
def cascadeRequests (w : EntityWrite) (e : Entity) (i : Indexer σ) (m : IndexMapping) :
    List Request :=
  (plannedOps (w.plans e i m)).map (·.request i.config.searchType i.registry)

/-- A run that sent the first request and one request per planned write.  Every reply to a cascade
    and every planner that could not plan is counted once. -/
structure Cascaded (w : EntityWrite) (e : Entity) (i : Indexer σ) (first : Request)
    (m : IndexMapping) (b : Backend σ) (s : Session σ) : Prop where
  sent : (w.after e i b s).link.sent = s.link.sent ++ first :: w.cascadeRequests e i m
  counts : Counts (w.counted e s.stats) (w.after e i b s).stats
    ((replies b (b first s.link.state).2 (w.cascadeRequests e i m)).countP isDone)
    (failedPlans (w.plans e i m)
      + (replies b (b first s.link.state).2 (w.cascadeRequests e i m)).countP (!isDone ·))

/-- A first request is only planned for a type that has a mapping. -/
theorem mapped_of_primary {w : EntityWrite} {e : Entity} {i : Indexer σ} {first : Request}
    (h : w.primary e i = .ok first) : Mapped e i := by
  cases w with
  | update =>
    obtain ⟨index, hindex, -⟩ := Outcome.bind_eq_ok h
    exact mapping?_of_index hindex
  | delete =>
    obtain ⟨m, hm, -⟩ := Outcome.bind_eq_ok h
    exact ⟨m, mapping?_of_require hm⟩
  | flag deleted =>
    obtain ⟨m, hm, -⟩ := Outcome.bind_eq_ok h
    exact ⟨m, mapping?_of_require hm⟩

theorem cascaded_of_passes {w : EntityWrite} {e : Entity} {i : Indexer σ} {first : Request}
    {m : IndexMapping} (hfirst : w.primary e i = .ok first)
    (hm : i.registry.mapping? e.entityType = some m) {b : Backend σ} {s : Session σ}
    (h : Passes b s (w.primary e i) w.accepts) : w.Cascaded e i first m b s := by
  rcases w.run_program e { i with backend := b } s with ⟨-, m', hm', hrun⟩ | ⟨hfails, -⟩
  · -- the planners get the mapping of the type, which does not depend on the backend
    have hsame : m' = m := Option.some.inj (hm'.symm.trans hm)
    subst hsame
    have hsends := Indexing.sends_plans (i := { i with backend := b }) (e := e)
      (w.sendable_plans e { i with backend := b } m')
    obtain ⟨hlink, hcounts⟩ := hsends
      { link := s.link.after b first, stats := w.counted e s.stats }
    have hplanned : s.link.afterPlanned b (w.primary e i) = s.link.after b first := by
      rw [hfirst]
      rfl
    have hafter : w.after e i b s = (Indexing.run ((w.plans e { i with backend := b } m').forM
        fun plan => Indexing.runCascades plan.1 e plan.2) { i with backend := b }
          { link := s.link.after b first, stats := w.counted e s.stats }).2 := by
      unfold after
      rw [hrun, ← hplanned]
      rfl
    refine ⟨?_, ?_⟩
    · rw [hafter, hlink, Link.afterAll_sent]
      show (s.link.sent ++ [first]) ++ _ = _
      rw [List.append_assoc]
      rfl
    · rw [hafter]
      exact hcounts
  · exact absurd h hfails

/-- **What the cluster answers to cascades has no influence on them.**  Two runs whose first request
    passes send the same requests: the first one, and one for each write of each planner that could
    plan.  A run whose first request does not pass, or cannot be planned, sends nothing else and
    counts one failed write. -/
theorem cascades_isolated (w : EntityWrite) (e : Entity) (i : Indexer σ) :
    (∀ b₁ s₁ b₂ s₂, Passes b₁ s₁ (w.primary e i) w.accepts →
      Passes b₂ s₂ (w.primary e i) w.accepts →
      ∃ first m, w.primary e i = .ok first ∧ i.registry.mapping? e.entityType = some m
        ∧ w.Cascaded e i first m b₁ s₁ ∧ w.Cascaded e i first m b₂ s₂)
    ∧ ∀ b s, ¬ Passes b s (w.primary e i) w.accepts →
      (w.after e i b s).link.sent = s.link.sent ++ (w.primary e i).toOption.toList
      ∧ ∃ failure, (w.after e i b s).stats = s.stats.addWriteFailure failure := by
  refine ⟨?_, ?_⟩
  · intro b₁ s₁ b₂ s₂ h₁ h₂
    obtain ⟨first, hfirst, -⟩ := id h₁
    obtain ⟨m, hm⟩ := mapped_of_primary hfirst
    exact ⟨first, m, hfirst, hm, cascaded_of_passes hfirst hm h₁, cascaded_of_passes hfirst hm h₂⟩
  · intro b s hfails
    rcases w.run_program e { i with backend := b } s with ⟨hpasses, -⟩ | ⟨-, failure, hrun⟩
    · exact absurd hpasses hfails
    · have hafter : w.after e i b s
          = { link := s.link.afterPlanned b (w.primary e i)
              stats := s.stats.addWriteFailure failure } := hrun
      rw [hafter]
      exact ⟨Link.afterAll_sent b s.link _, failure, rfl⟩

/-- A domain that is deleted, with a backend that is lost after the first request and one that is
    not. -/
theorem cascades_isolated_domain :
    let mapping : IndexMapping :=
      { indexName := "domain_index", childAliases := ["data_product"], indexMappingFile := "" }
    let e : Entity :=
      { id := .nil, entityType := "domain", name := "sales", fullyQualifiedName := "sales"
        version := .zero, updatedAt := 1 }
    let steady : Backend Nat := fun _ n => (.ok { status := 200, body := .null }, n + 1)
    let lost : Backend Nat := fun _ n =>
      (if n = 0 then .ok { status := 200, body := .null } else .error (.outside .io "lost"), n + 1)
    let i : Indexer Nat :=
      { config := {}, fileText := fun _ => none, backend := steady
        registry :=
          { mappings := [("domain", mapping)], clusterAlias := "", language := "en"
            schemaRoot := "" } }
    let s : Session Nat := { link := { state := 0 } }
    (EntityWrite.delete.after e i lost s).link.sent = (EntityWrite.delete.after e i steady s).link.sent
      ∧ (EntityWrite.delete.after e i steady s).stats.cascades = 2
      ∧ (EntityWrite.delete.after e i lost s).stats.cascadeFailures = 2 := by
  intro mapping e steady lost i s
  have hsteady : Passes steady s (EntityWrite.delete.primary e i) EntityWrite.delete.accepts :=
    ⟨_, rfl, rfl⟩
  have hlost : Passes lost s (EntityWrite.delete.primary e i) EntityWrite.delete.accepts :=
    ⟨_, rfl, rfl⟩
  obtain ⟨first, m, hfirst, hm, hrun, hrun'⟩ :=
    (cascades_isolated .delete e i).1 steady s lost s hsteady hlost
  have hmapping : m = mapping := (Option.some.inj hm).symm
  subst hmapping
  refine ⟨?_, ?_, ?_⟩
  · rw [hrun.sent, hrun'.sent]
  · rw [hrun.counts.cascades]
    rfl
  · rw [hrun'.counts.cascadeFailures]
    rfl

end EntityWrite

end CatalogIndex
