/-
  CatalogIndex.Proofs.Indexer.Accounting — every write is counted once.

  Writes to the index absorb their failures, so the counters are the only account of them.  A call moves
  exactly one counter for the document it is about: one of the four kinds of success, or the failed
  writes.  The cascades move counters of their own, and only where the document was written.

  What one call does to the counters is said by `Call`; that it keeps them accurate (`Accurate`) is
  proved once, and a run of any length follows by induction over its calls.

  ## Main definitions

    * `CountedWrite` — the calls that are counted, and when their write succeeds;
    * `Cascading`, `Call` — what cascades, and whole calls, do to the counters;
    * `Accurate` — counters that account for a number of calls.

  ## Main results

    * `call_run` — every call moves the counters in one of the two ways;
    * `accurate_afterWrites` — counters stay accurate along a run;
    * `writes_accounted` — the account of a run that starts with fresh counters.
-/
import CatalogIndex.Proofs.Indexer.Isolation

namespace CatalogIndex

variable {σ : Type}

/-! ## §1. Counters. -/

namespace Stats

/-- The calls that the counters account for: each one is a success of some kind, or a failed write. -/
def accounted (s : Stats) : Nat := s.created + s.rebuilds + s.patches + s.deleted + s.writeFailures

/-- What the write of one document counts as, if it succeeds. -/
inductive Counted (s : Stats) : Stats → Prop where
  | created : Counted s (s.addCreated 1)
  | rebuilt : Counted s s.addRebuild
  | patched : Counted s s.addPatch
  | deleted : Counted s s.addDeleted

/-- What cascades do to the counters: they move two of them, in any order. -/
inductive Cascading (s : Stats) : Stats → Prop where
  | refl : Cascading s s
  | done {t : Stats} (h : Cascading s t) : Cascading s t.addCascade
  | failed {t : Stats} (h : Cascading s t) (f : Failure) : Cascading s (t.addCascadeFailure f)

theorem Cascading.trans {s t u : Stats} (h : Cascading s t) (h' : Cascading t u) : Cascading s u := by
  induction h' with
  | refl => exact h
  | done _ ih => exact ih.done
  | failed _ f ih => exact ih.failed f

/-- What one call does to the counters: the write of its document is counted, and cascades follow if it
    succeeds. -/
inductive Call (succeeds : Prop) (s : Stats) : Stats → Prop where
  | written {t u : Stats} (h : succeeds) (hcounted : Counted s t) (hcascades : Cascading t u) :
    Call succeeds s u
  | refused (h : ¬ succeeds) (f : Failure) : Call succeeds s (s.addWriteFailure f)

theorem Call.congr {p q : Prop} {s t : Stats} (h : Call p s t) (hiff : p ↔ q) : Call q s t := by
  cases h with
  | written h hcounted hcascades => exact .written (hiff.1 h) hcounted hcascades
  | refused h f => exact .refused (fun hq => h (hiff.2 hq)) f

/-- The counters account for so many calls, and tell of the last failure if there was one. -/
structure Accurate (calls : Nat) (s : Stats) : Prop where
  accounted : s.accounted = calls
  lastFailure : s.lastFailure.isSome = true ↔ 0 < s.writeFailures + s.cascadeFailures

namespace Accurate

variable {calls : Nat} {s t : Stats}

theorem fresh : Accurate 0 {} := ⟨rfl, by decide⟩

theorem counted (h : Accurate calls s) (hcounted : Counted s t) : Accurate (calls + 1) t := by
  have hsum : s.created + s.rebuilds + s.patches + s.deleted + s.writeFailures = calls := h.accounted
  refine ⟨?_, ?_⟩
  · -- each of the four successes is one of the summands
    cases hcounted with
    | created =>
      show s.created + 1 + s.rebuilds + s.patches + s.deleted + s.writeFailures = calls + 1
      omega
    | rebuilt =>
      show s.created + (s.rebuilds + 1) + s.patches + s.deleted + s.writeFailures = calls + 1
      omega
    | patched =>
      show s.created + s.rebuilds + (s.patches + 1) + s.deleted + s.writeFailures = calls + 1
      omega
    | deleted =>
      show s.created + s.rebuilds + s.patches + (s.deleted + 1) + s.writeFailures = calls + 1
      omega
  · cases hcounted <;> exact h.lastFailure

/-- Cascades are no calls of their own. -/
theorem cascading (h : Accurate calls s) (hcascades : Cascading s t) : Accurate calls t := by
  induction hcascades with
  | refl => exact h
  | done _ ih => exact ⟨ih.accounted, ih.lastFailure⟩
  | @failed u _ f ih =>
    refine ⟨ih.accounted, ?_⟩
    show true = true ↔ 0 < u.writeFailures + (u.cascadeFailures + 1)
    simp only [true_iff]
    omega

theorem addWriteFailure (h : Accurate calls s) (f : Failure) :
    Accurate (calls + 1) (s.addWriteFailure f) := by
  have hsum : s.created + s.rebuilds + s.patches + s.deleted + s.writeFailures = calls := h.accounted
  refine ⟨?_, ?_⟩
  · show s.created + s.rebuilds + s.patches + s.deleted + (s.writeFailures + 1) = calls + 1
    omega
  · show true = true ↔ 0 < s.writeFailures + 1 + s.cascadeFailures
    simp only [true_iff]
    omega

/-- **One more call is accounted for.** -/
theorem call {succeeds : Prop} (h : Accurate calls s) (hcall : Call succeeds s t) :
    Accurate (calls + 1) t := by
  cases hcall with
  | written _ hcounted hcascades => exact (h.counted hcounted).cascading hcascades
  | refused _ f => exact h.addWriteFailure f

end Accurate

end Stats

open Stats

/-! ## §2. Cascades. -/

namespace Indexing

variable (i : Indexer σ) (e : Entity) (cascade : String)

theorem cascading_runCascade (op : CascadeOp) (s : Session σ) :
    Cascading s.stats ((runCascade cascade e op).run i s).2.stats := by
  -- talking to the cluster leaves the counters alone
  have hstats : ((Attempt.exchange fun engine =>
      Cluster.applyCascade engine i.registry op).run i s).2.stats = s.stats := rfl
  rcases hx : (Attempt.exchange fun engine => Cluster.applyCascade engine i.registry op).run i s with
    ⟨_ | _, t⟩
  · obtain ⟨failure, hrun⟩ := run_runCascade_of_error (e := e) hx cascade
    rw [hx] at hstats
    rw [hrun, ← hstats]
    exact Cascading.refl.failed failure
  · rw [hx] at hstats
    rw [run_runCascade_of_ok hx, ← hstats]
    exact Cascading.refl.done

theorem cascading_forM {α : Type} {x : α → Indexing σ Unit}
    (h : ∀ a s, Cascading s.stats ((x a).run i s).2.stats) (as : List α) (s : Session σ) :
    Cascading s.stats ((as.forM x).run i s).2.stats := by
  induction as generalizing s with
  | nil => exact Cascading.refl
  | cons a rest ih => exact (h a s).trans (ih ((x a).run i s).2)

theorem cascading_runCascades (planned : Outcome (List CascadeOp)) (s : Session σ) :
    Cascading s.stats ((runCascades cascade e planned).run i s).2.stats := by
  cases planned with
  | ok ops => exact cascading_forM i (cascading_runCascade i e cascade) ops s
  | error reason => exact Cascading.refl.failed _

end Indexing

/-! ## §3. Calls. -/

/-- An attempt that performs one request is counted as a success, or absorbed as a failure. -/
theorem Performs.call_absorb {x : Attempt σ Unit} {i : Indexer σ} {planned : Outcome Request}
    {accepts : Response → Bool} {count : Stats → Stats} {result : Unit → Prop}
    (h : Performs x i planned accepts count result) (hcount : ∀ s : Stats, Counted s (count s))
    (operation entityType entityId : String) (s : Session σ) :
    Call (Passes i.backend s planned accepts) s.stats
      ((Indexing.absorb operation entityType entityId x).run i s).2.stats := by
  unfold Indexing.absorb
  rw [Indexing.run_bind, Indexing.run_made]
  rcases h s with ⟨hpasses, _, -, hx⟩ | ⟨hfails, reason, hx⟩
  · rw [hx]
    exact .written hpasses (hcount s.stats) .refl
  · rw [hx]
    exact .refused hfails _

/-- The calls that are counted. -/
inductive CountedWrite where
  | createEntity (e : Entity)
  | createRecord (r : TimeSeriesRecord)
  | updateEntity (e : Entity)
  | updateByReference (r : EntityReference)
  | deleteEntity (e : Entity)
  | deleteRecord (r : TimeSeriesRecord)

namespace CountedWrite

/-- The program of a call. -/
def program : CountedWrite → Indexing σ Unit
  | .createEntity e => Indexing.createEntity e
  | .createRecord r => Indexing.createTimeSeriesRecord r
  | .updateEntity e => Indexing.updateEntity e
  | .updateByReference r => Indexing.updateEntityByReference r
  | .deleteEntity e => Indexing.deleteEntity e
  | .deleteRecord r => Indexing.deleteTimeSeriesRecord r

/-- The request for a new document, if its type has an index and a builder. -/
def creation (i : Indexer σ) (entityType : String) (x : Indexable) : Outcome Request :=
  i.registry.index entityType >>= fun index =>
    i.builders.build x >>= fun d => .ok (Cluster.putRequest index d)

/-- The request that removes a record, if its type has an index. -/
def recordRemoval (i : Indexer σ) (r : TimeSeriesRecord) : Outcome Request :=
  i.registry.index r.entityType >>= fun index => .ok (Cluster.deleteRequest index r.id.toText)

/-- The entity behind a pointer, and the session after it was looked up. -/
def found? (i : Indexer σ) (s : Session σ) (r : EntityReference) : Option (Entity × Session σ) :=
  match (Indexing.lookUp r).run i s with
  | (.ok e, t) => some (e, t)
  | (.error _, _) => none

/-- The write of the document itself succeeds: its request can be planned, and the cluster accepts it.
    Where the entity is known by a pointer only, it also has to be found. -/
def Succeeds (i : Indexer σ) (s : Session σ) : CountedWrite → Prop
  | .createEntity e =>
    Passes i.backend s (creation i e.entityType e.indexable) Response.isSuccess
  | .createRecord r =>
    Passes i.backend s (creation i r.entityType r.indexable) Response.isSuccess
  | .updateEntity e =>
    Passes i.backend s (EntityWrite.update.primary e i) EntityWrite.update.accepts
  | .updateByReference r => ∃ e t, found? i s r = some (e, t)
    ∧ Passes i.backend t (EntityWrite.update.primary e i) EntityWrite.update.accepts
  | .deleteEntity e =>
    Passes i.backend s (EntityWrite.delete.primary e i) EntityWrite.delete.accepts
  | .deleteRecord r =>
    Passes i.backend s (recordRemoval i r) fun response => response.isNotFound || response.isSuccess

variable {i : Indexer σ}

/-- A new document is counted as created. -/
theorem performs_creation (entityType : String) (x : Indexable)
    (create : String → Document → Exchange σ Unit)
    (hcreate : ∀ index d, AsksOnce (create index d) (Cluster.putRequest index d) Response.isSuccess) :
    Performs (do
        let index ← Attempt.indexOf entityType
        let d ← Indexing.buildDocument x
        Attempt.exchange fun _ => create index d
        Attempt.record (Stats.addCreated 1)) i
      (creation i entityType x) Response.isSuccess (Stats.addCreated 1) fun _ => True := by
  refine Performs.ask fun index _ => Performs.ask fun d _ => ?_
  have hsend := Performs.exchange (i := i) (x := fun _ => create index d) (hcreate index d)
  exact hsend.bind (fun _ => Attempt.record (Stats.addCreated 1)) (fun _ => ()) (Stats.addCreated 1)
    (fun _ => True) (fun _ _ => rfl) (fun _ _ => trivial)

/-- A record that is removed is counted as deleted. -/
theorem performs_recordRemoval (r : TimeSeriesRecord) :
    Performs (do
        let index ← Attempt.indexOf r.entityType
        Attempt.exchange fun _ => Cluster.deleteDocument index r.id.toText
        Attempt.record Stats.addDeleted) i
      (recordRemoval i r) (fun response => response.isNotFound || response.isSuccess)
      Stats.addDeleted fun _ => True := by
  refine Performs.ask fun index _ => ?_
  have hsend := Performs.exchange (i := i) (x := fun _ => Cluster.deleteDocument index r.id.toText)
    (Cluster.asksOnce_deleteDocument index r.id.toText)
  exact hsend.bind (fun _ => Attempt.record Stats.addDeleted) (fun _ => ()) Stats.addDeleted
    (fun _ => True) (fun _ _ => rfl) (fun _ _ => trivial)

/-- A write that sets off cascades is counted before they start. -/
theorem call_entityWrite (w : EntityWrite) (e : Entity) (s : Session σ)
    (hcounted : ∀ s, Counted s (w.counted e s)) :
    Call (Passes i.backend s (w.primary e i) w.accepts) s.stats ((w.program e).run i s).2.stats := by
  rcases w.run_program e i s with ⟨hpasses, m, -, hrun⟩ | ⟨hfails, failure, hrun⟩
  · rw [hrun]
    -- the planners start from counters that hold the write already
    have hcascades := Indexing.cascading_forM i
      (fun plan => Indexing.cascading_runCascades i e plan.1 plan.2) (w.plans e i m)
      { link := s.link.afterPlanned i.backend (w.primary e i), stats := w.counted e s.stats }
    exact .written hpasses (hcounted s.stats) hcascades
  · rw [hrun]
    exact .refused hfails failure

theorem counted_update (e : Entity) (s : Stats) : Counted s (EntityWrite.update.counted e s) := by
  unfold EntityWrite.counted
  dsimp only
  cases planWrite e with
  | patch script => exact .patched
  | rebuild => exact .rebuilt

theorem call_updateByReference (r : EntityReference) (s : Session σ) :
    Call ((CountedWrite.updateByReference r).Succeeds i s) s.stats
      ((Indexing.updateEntityByReference r).run i s).2.stats := by
  obtain ⟨-, hstats⟩ := Indexing.run_lookUp r i s
  have hfound : found? i s r = match (Indexing.lookUp r).run i s with
      | (.ok e, t) => some (e, t)
      | (.error _, _) => none := rfl
  unfold Indexing.updateEntityByReference
  rw [Indexing.run_bind, Indexing.run_made]
  show Call (∃ e t, found? i s r = some (e, t)
    ∧ Passes i.backend t (EntityWrite.update.primary e i) EntityWrite.update.accepts) _ _
  rw [hfound, ← hstats]
  rcases (Indexing.lookUp r).run i s with ⟨_ | e, t⟩
  · -- the entity is not found, and there is nothing to write
    refine .refused ?_ _
    rintro ⟨e, u, hnone, -⟩
    cases hnone
  · -- the entity that was found is the one whose document is written
    refine (call_entityWrite .update e t (counted_update e)).congr ⟨fun h => ⟨e, t, rfl, h⟩, ?_⟩
    rintro ⟨e', u, hsame, hpasses⟩
    cases hsame
    exact hpasses

/-- **Every call moves the counters in one of two ways**: its write succeeds, is counted, and cascades
    follow; or it fails, and that is all there is. -/
theorem call_run (w : CountedWrite) (i : Indexer σ) (s : Session σ) :
    Call (w.Succeeds i s) s.stats (w.program.run i s).2.stats := by
  cases w with
  | createEntity e =>
    have hcreate := performs_creation (i := i) e.entityType e.indexable Cluster.createDocument
      fun index d => Cluster.asksOnce_send _ _ _ _
    exact hcreate.call_absorb (fun _ => .created) _ _ _ s
  | createRecord r =>
    have hcreate := performs_creation (i := i) r.entityType r.indexable Cluster.createRecord
      fun index d => Cluster.asksOnce_send _ _ _ _
    exact hcreate.call_absorb (fun _ => .created) _ _ _ s
  | updateEntity e => exact call_entityWrite .update e s (counted_update e)
  | updateByReference r => exact call_updateByReference r s
  | deleteEntity e => exact call_entityWrite .delete e s fun _ => .deleted
  | deleteRecord r => exact (performs_recordRemoval r).call_absorb (fun _ => .deleted) _ _ _ s

end CountedWrite

/-! ## §4. Runs. -/

/-- The session after calls, one after the other. -/
def afterWrites (i : Indexer σ) (s : Session σ) (ws : List CountedWrite) : Session σ :=
  ws.foldl (fun s w => (w.program.run i s).2) s

theorem accurate_afterWrites (i : Indexer σ) {calls : Nat} {s : Session σ} (h : Accurate calls s.stats)
    (ws : List CountedWrite) : Accurate (calls + ws.length) (afterWrites i s ws).stats := by
  induction ws generalizing calls s with
  | nil => exact h
  | cons w rest ih =>
    have hrest := ih (h.call (w.call_run i s))
    rw [Nat.add_assoc, Nat.add_comm 1] at hrest
    exact hrest

/-- **The account of a run.**  After any calls that start with fresh counters, successes and failed
    writes add up to the number of calls, and the last failure is known exactly if anything failed.  The
    next call moves the counters of cascades only if its write succeeds. -/
theorem writes_accounted (i : Indexer σ) (link : Link σ) (ws : List CountedWrite) :
    let s := afterWrites i { link } ws
    s.stats.created + s.stats.rebuilds + s.stats.patches + s.stats.deleted + s.stats.writeFailures
        = ws.length
      ∧ (s.stats.lastFailure.isSome = true ↔ 0 < s.stats.writeFailures + s.stats.cascadeFailures)
      ∧ ∀ w : CountedWrite, ¬ w.Succeeds i s →
        (w.program.run i s).2.stats.cascades = s.stats.cascades
          ∧ (w.program.run i s).2.stats.cascadeFailures = s.stats.cascadeFailures := by
  intro s
  have haccurate := accurate_afterWrites i (s := { link }) Accurate.fresh ws
  rw [Nat.zero_add] at haccurate
  refine ⟨haccurate.accounted, haccurate.lastFailure, fun w hfails => ?_⟩
  have hcall := w.call_run i s
  generalize (w.program.run i s).2.stats = after at hcall
  -- a call that fails moves no other counter than that of the failed writes
  cases hcall with
  | written h _ _ => exact absurd h hfails
  | refused _ f => exact ⟨rfl, rfl⟩

/-- A domain is deleted, with a backend that is lost after the first request; a type without an index and
    an entity that cannot be looked up follow. -/
theorem writes_accounted_domain :
    let mapping : IndexMapping :=
      { indexName := "domain_index", childAliases := ["data_product"], indexMappingFile := "" }
    let domain : Entity :=
      { id := .nil, entityType := "domain", name := "sales", fullyQualifiedName := "sales"
        version := .zero, updatedAt := 1 }
    let stray : Entity := { domain with entityType := "stray" }
    let lost : Backend Nat := fun _ n =>
      (if n = 0 then .ok { status := 200, body := .null } else .error (.outside .io "lost"), n + 1)
    let i : Indexer Nat :=
      { config := {}, fileText := fun _ => none, backend := lost
        registry :=
          { mappings := [("domain", mapping)], clusterAlias := "", language := "en"
            schemaRoot := "" } }
    let s := afterWrites i { link := { state := 0 } }
      [.deleteEntity domain, .createEntity stray, .updateByReference { id := .nil, entityType := "page" }]
    s.stats.deleted + s.stats.writeFailures = 3 ∧ s.stats.lastFailure.isSome = true
      ∧ ((CountedWrite.createEntity stray).program.run i s).2.stats.cascadeFailures = 2 := by
  intro mapping domain stray lost i s
  obtain ⟨hsum, hlast, hnext⟩ := writes_accounted i { state := 0 }
    [.deleteEntity domain, .createEntity stray, .updateByReference { id := .nil, entityType := "page" }]
  have hstray : ¬ (CountedWrite.createEntity stray).Succeeds i s := by
    rintro ⟨r, hr, -⟩
    cases hr
  have hnone : s.stats.created + s.stats.rebuilds + s.stats.patches = 0 := by decide
  refine ⟨?_, hlast.2 (by decide), (hnext _ hstray).2⟩
  rwa [hnone, Nat.zero_add] at hsum

end CatalogIndex
