/-
  CatalogIndex.Proofs.Indexer.BulkCreation — what bulk creation sends, and what it counts.

  Many new entities are sent in chunks, and the call ends with the first chunk that is refused.  The
  documents are counted behind the last chunk, all at once: if a chunk is refused, those before it are in
  the index and nobody counts them.

  ## Main definitions

    * `builtDocuments` — the documents of entities, as far as they can be built;
    * `Stopped`, `Ended`, `Settled` — a call that a refused chunk ended, what a call has come to before
      the last chunk, and after it.

  ## Main results

    * `run_bufferEntities` — the entities go through the buffer until a chunk is refused;
    * `run_createEntities` — the two ways in which a call ends;
    * `created_eq_accepted_iff` — exactly when the count is right;
    * `accepted_not_created` — a call after which it is not.
-/
import CatalogIndex.Proofs.Cluster.Buffering
import CatalogIndex.Proofs.Indexer.Isolation

namespace CatalogIndex

open BulkBuffer Cluster

variable {σ : Type}

/-! ## §1. A refused chunk. -/

/-- The documents of those entities whose document can be built. -/
def builtDocuments (i : Indexer σ) (es : List Entity) : List Document :=
  es.filterMap fun e => (i.builders.build e.indexable).toOption

/-- Chunks of the documents went out, and the last one was refused. -/
structure Stopped (b : Backend σ) (index : String) (start : Link σ) (ds : List Document)
    (chunks : List (List Document)) : Prop where
  documents : chunks.flatten <+: ds
  sent : chunks ≠ []
  someEach : ∀ chunk ∈ chunks, chunk ≠ []
  accepted : acceptedChunks b index start chunks = chunks.dropLast

/-- What a call has come to that has taken in the documents: a buffer, if all chunks were accepted. -/
def Ended (b : Backend σ) (index : String) (size : Nat) (start : Link σ) (ds : List Document)
    (chunks : List (List Document)) : Outcome BulkBuffer → Prop
  | .ok buffer =>
    Filled b index size start ds chunks buffer ∧ acceptedChunks b index start chunks = chunks
  | .error _ => Stopped b index start ds chunks

section Refused

variable {b : Backend σ} {index : String} {size : Nat} {start : Link σ} {ds : List Document}
  {chunks sent : List (List Document)}

theorem acceptedChunks_of_accepted (hall : acceptedChunks b index start chunks = chunks)
    (hsent : acceptedChunks b index (start.afterChunks b index chunks) sent = sent) :
    acceptedChunks b index start (chunks ++ sent) = chunks ++ sent := by
  rw [acceptedChunks_append, hall, hsent]

/-- If one chunk more is sent and refused, it is the last one and all others were accepted. -/
theorem stopped_of_refused (hall : acceptedChunks b index start chunks = chunks)
    (hone : sent.length ≤ 1)
    (hrefused : acceptedChunks b index (start.afterChunks b index chunks) sent ≠ sent)
    (hdocuments : (chunks ++ sent).flatten <+: ds) (hsome : ∀ chunk ∈ chunks ++ sent, chunk ≠ []) :
    Stopped b index start ds (chunks ++ sent) := by
  cases sent with
  | nil => exact absurd rfl hrefused
  | cons chunk more =>
    obtain rfl : more = [] := List.length_eq_zero_iff.1 (Nat.le_zero.1 (Nat.le_of_succ_le_succ hone))
    refine ⟨hdocuments, by simp, hsome, ?_⟩
    have hnone : acceptedChunks b index (start.afterChunks b index chunks) [chunk] = [] := by
      rw [acceptedChunks_cons] at hrefused ⊢
      split
      · rename_i haccepted
        rw [if_pos haccepted] at hrefused
        exact absurd rfl hrefused
      · rfl
    rw [acceptedChunks_append, hall, hnone, List.append_nil, List.dropLast_concat]

theorem Stopped.more (h : Stopped b index start ds chunks) (more : List Document) :
    Stopped b index start (ds ++ more) chunks :=
  ⟨h.documents.trans (List.prefix_append _ _), h.sent, h.someEach, h.accepted⟩

end Refused

/-! ## §2. Entities in the buffer. -/

/-- An attempt that talks to the cluster keeps the counters. -/
theorem Attempt.run_exchange_eq {α : Type} {x : Engine → Exchange σ α} {i : Indexer σ} {s : Session σ}
    {outcome : Outcome α} {link : Link σ}
    (h : (x i.config.searchType).run i.backend s.link = (outcome, link)) :
    (Attempt.exchange x).run i s = (outcome, { s with link }) := by
  have hrun : (Attempt.exchange x).run i s
      = (((x i.config.searchType).run i.backend s.link).1,
          { s with link := ((x i.config.searchType).run i.backend s.link).2 }) := rfl
  rw [hrun, h]

namespace Indexing

variable {i : Indexer σ} {e : Entity} {s : Session σ} {buffer buffer' : BulkBuffer}

/-- A document that can be built is added; the attempt ends if its request is refused. -/
theorem run_bufferEntity_of_ok {d : Document} (hd : i.builders.build e.indexable = .ok d)
    {outcome : Outcome Unit} {link : Link σ}
    (hadd : (buffer.add d).run i.backend s.link = (.ok (outcome, buffer'), link)) (entityType : String) :
    (bufferEntity entityType buffer e).run i s = (outcome.map fun _ => buffer', { s with link }) := by
  unfold bufferEntity
  rw [Attempt.run_ask_bind]
  dsimp only
  rw [hd]
  rw [Attempt.run_bind, Attempt.run_exchange_eq (x := fun _ => buffer.add d) hadd]
  cases outcome <;> rfl

/-- A document that cannot be built is a failed write of its own. -/
theorem run_bufferEntity_of_error {reason : Error} (he : i.builders.build e.indexable = .error reason)
    (entityType : String) (buffer : BulkBuffer) (s : Session σ) :
    ∃ failure, (bufferEntity entityType buffer e).run i s
      = (.ok buffer, { s with stats := s.stats.addWriteFailure failure }) := by
  unfold bufferEntity
  rw [Attempt.run_ask_bind]
  dsimp only
  rw [he]
  exact ⟨_, rfl⟩

/-- **The entities go through the buffer**, one after the other, until a chunk is refused. -/
theorem run_bufferEntities {index : String} {size : Nat} {start : Link σ} {ds : List Document}
    {chunks : List (List Document)} (h : Filled i.backend index size start ds chunks buffer)
    (hall : acceptedChunks i.backend index start chunks = chunks)
    (hlink : s.link = start.afterChunks i.backend index chunks) (entityType : String)
    (es : List Entity) :
    ∃ outcome t sent, (es.foldlM (bufferEntity entityType) buffer).run i s = (outcome, t)
      ∧ t.link = start.afterChunks i.backend index (chunks ++ sent)
      ∧ t.stats.created = s.stats.created
      ∧ Ended i.backend index size start (ds ++ builtDocuments i es) (chunks ++ sent) outcome := by
  induction es generalizing ds chunks buffer s with
  | nil =>
    refine ⟨.ok buffer, s, [], rfl, ?_, rfl, ?_⟩
    · rw [List.append_nil, hlink]
    · rw [List.append_nil]
      exact ⟨by rwa [show builtDocuments i [] = [] from rfl, List.append_nil], hall⟩
  | cons e rest ih =>
    rw [List.foldlM_cons, Attempt.run_bind]
    cases hd : i.builders.build e.indexable with
    | error reason =>
      -- the counters move, but not that of the created documents
      obtain ⟨failure, hstep⟩ := run_bufferEntity_of_error hd entityType buffer s
      have hbuilt : builtDocuments i (e :: rest) = builtDocuments i rest := by
        simp [builtDocuments, hd, Except.toOption]
      rw [hstep, hbuilt]
      exact ih h hall hlink
    | ok d =>
      obtain ⟨outcome, sent, next, hadd, hone, hok, hnext⟩ := h.add d
      rw [← hlink] at hadd
      have hbuilt : ds ++ builtDocuments i (e :: rest) = ds ++ [d] ++ builtDocuments i rest := by
        simp [builtDocuments, hd, Except.toOption]
      rw [run_bufferEntity_of_ok hd hadd, hbuilt]
      cases outcome with
      | ok a =>
        have hmore := acceptedChunks_of_accepted hall (hok.1 rfl)
        obtain ⟨outcome, t, sent', hrun, hend, hcreated, hended⟩ :=
          ih (s := { s with link := start.afterChunks i.backend index (chunks ++ sent) }) hnext hmore rfl
        rw [List.append_assoc chunks] at hend hended
        exact ⟨outcome, t, sent ++ sent', hrun, hend, hcreated, hended⟩
      | error reason =>
        have hrefused : acceptedChunks i.backend index (start.afterChunks i.backend index chunks) sent
            ≠ sent := fun heq => by cases hok.2 heq
        have hdocuments : (chunks ++ sent).flatten <+: ds ++ [d] := ⟨next.waiting, hnext.documents⟩
        have hstopped := stopped_of_refused hall hone hrefused hdocuments fun _ => hnext.ne_nil_of_mem
        exact ⟨.error reason, _, sent, rfl, rfl, rfl, hstopped.more _⟩

/-- What a call has come to at its end, with the counts before and after it: either all chunks were
    accepted, they hold all documents, and these are counted; or the last chunk was refused, and nothing
    is counted. -/
def Settled (b : Backend σ) (index : String) (start : Link σ) (ds : List Document)
    (chunks : List (List Document)) (before after : Nat) : Prop :=
  (acceptedChunks b index start chunks = chunks ∧ chunks.flatten = ds ∧ after = before + ds.length)
    ∨ (Stopped b index start ds chunks ∧ after = before)

/-- The last chunk goes out, and then all documents are counted. -/
theorem run_finish {index : String} {size : Nat} {start : Link σ} {ds : List Document}
    {chunks : List (List Document)} (h : Filled i.backend index size start ds chunks buffer)
    (hall : acceptedChunks i.backend index start chunks = chunks)
    (hlink : s.link = start.afterChunks i.backend index chunks) :
    ∃ outcome t sent, Attempt.run (do
          let count ← Attempt.exchange fun _ => buffer.finish
          Attempt.record (Stats.addCreated count)) i s = (outcome, t)
      ∧ t.link = start.afterChunks i.backend index (chunks ++ sent)
      ∧ Settled i.backend index start ds (chunks ++ sent) s.stats.created t.stats.created := by
  obtain ⟨outcome, hfinish, hok⟩ := h.finish
  rw [← hlink] at hfinish
  have hdocuments : (chunks ++ buffer.pending).flatten = ds := by
    rw [List.flatten_append, flatten_pending]
    exact h.documents
  rw [Attempt.run_bind, Attempt.run_exchange_eq (x := fun _ => buffer.finish) hfinish]
  cases outcome with
  | ok a =>
    have hmore := acceptedChunks_of_accepted hall (hok.1 rfl)
    refine ⟨.ok (), _, buffer.pending, rfl, rfl, Or.inl ⟨hmore, hdocuments, ?_⟩⟩
    show s.stats.created + _ = _
    rw [hmore, hdocuments]
  | error reason =>
    have hrefused : acceptedChunks i.backend index (start.afterChunks i.backend index chunks)
        buffer.pending ≠ buffer.pending := fun heq => by cases hok.2 heq
    have hsome : ∀ chunk ∈ chunks ++ buffer.pending, chunk ≠ [] := by
      intro chunk hchunk
      rcases List.mem_append.1 hchunk with hchunk | hchunk
      · exact h.ne_nil_of_mem hchunk
      · exact List.length_pos_iff.1 (h.length_of_mem_pending hchunk).1
    have hprefix : (chunks ++ buffer.pending).flatten <+: ds := hdocuments ▸ List.prefix_refl _
    have hstopped := stopped_of_refused hall (length_pending_le buffer) hrefused hprefix hsome
    exact ⟨.error reason, _, buffer.pending, rfl, rfl, Or.inr ⟨hstopped, rfl⟩⟩

/-! ## §3. Calls. -/

/-- A failure that is absorbed does not touch the counter of created documents. -/
theorem created_absorb (operation entityType entityId : String) (x : Attempt σ Unit) (s : Session σ) :
    ((absorb operation entityType entityId x).run i s).2.stats.created
      = (x.run i s).2.stats.created := by
  unfold absorb
  rw [run_bind, run_made]
  cases (x.run i s).1 <;> rfl

/-- **The two ways in which a call ends.** -/
theorem run_createEntities {first : Entity} {index : String}
    (hindex : i.registry.index first.entityType = .ok index) (rest : List Entity) (s : Session σ) :
    ∃ chunks,
      ((createEntities (first :: rest)).run i s).2.link = s.link.afterChunks i.backend index chunks
      ∧ Settled i.backend index s.link (builtDocuments i (first :: rest)) chunks
          s.stats.created ((createEntities (first :: rest)).run i s).2.stats.created := by
  have hnew := filled_new i.backend index i.config.batchSize s.link
  obtain ⟨outcome, t, chunks, hrun, hlink, hcreated, hended⟩ :=
    run_bufferEntities hnew rfl rfl first.entityType (first :: rest)
  rw [List.nil_append] at hlink hended
  let finished (buffer : BulkBuffer) : Attempt σ Unit := do
    let count ← Attempt.exchange fun _ => buffer.finish
    Attempt.record (Stats.addCreated count)
  have hcall : createEntities (first :: rest) = absorb "create_entities" first.entityType "bulk"
      (Attempt.ask (·.registry.index first.entityType) >>= fun index => read >>= fun i =>
        (first :: rest).foldlM (bufferEntity first.entityType) (BulkBuffer.new index i.config.batchSize)
          >>= finished) := rfl
  have hread : Attempt.run read i s = (.ok i, s) := rfl
  rw [hcall, link_absorb, created_absorb, Attempt.run_ask_bind, hindex]
  dsimp only
  rw [Attempt.run_bind, hread]
  dsimp only
  rw [Attempt.run_bind, hrun]
  cases outcome with
  | error reason => exact ⟨chunks, hlink, Or.inr ⟨hended, hcreated⟩⟩
  | ok buffer =>
    obtain ⟨hfilled, hall⟩ := hended
    obtain ⟨outcome, u, sent, hfinish, hend, hsettled⟩ := run_finish hfilled hall hlink
    refine ⟨chunks ++ sent, ?_, ?_⟩
    · show ((finished buffer).run i t).2.link = _
      rw [hfinish]
      exact hend
    · show Settled _ _ _ _ _ _ ((finished buffer).run i t).2.stats.created
      rw [hfinish, ← hcreated]
      exact hsettled

end Indexing

open Indexing

/-- **When the count of created documents is right.**  New entities of a type with an index are sent in
    chunks, one request for each.  The count of created documents grows by that of the documents in
    accepted requests exactly if no request of the call is refused, or none is accepted. -/
theorem created_eq_accepted_iff {i : Indexer σ} {first : Entity} {index : String}
    (hindex : i.registry.index first.entityType = .ok index) (rest : List Entity) (s : Session σ) :
    ∃ chunks,
      let t := ((createEntities (first :: rest)).run i s).2
      let accepted := acceptedChunks i.backend index s.link chunks
      t.link.sent = s.link.sent ++ chunks.map (bulkRequest index)
      ∧ chunks.flatten <+: builtDocuments i (first :: rest)
      ∧ (accepted = chunks ∧ chunks.flatten = builtDocuments i (first :: rest)
          ∨ chunks ≠ [] ∧ accepted = chunks.dropLast)
      ∧ (t.stats.created = s.stats.created + accepted.flatten.length
          ↔ accepted = chunks ∨ accepted = []) := by
  obtain ⟨chunks, hlink, hsettled⟩ := run_createEntities hindex rest s
  have hsent : (s.link.afterChunks i.backend index chunks).sent
      = s.link.sent ++ chunks.map (bulkRequest index) := Link.afterAll_sent _ _ _
  refine ⟨chunks, hlink ▸ hsent, ?_⟩
  rcases hsettled with ⟨hall, hdocuments, hcreated⟩ | ⟨hstopped, hcreated⟩
  · refine ⟨hdocuments ▸ List.prefix_refl _, Or.inl ⟨hall, hdocuments⟩, ?_⟩
    rw [hall, hcreated, hdocuments]
    exact ⟨fun _ => Or.inl rfl, fun _ => rfl⟩
  · refine ⟨hstopped.documents, Or.inr ⟨hstopped.sent, hstopped.accepted⟩, ?_⟩
    rw [hcreated]
    constructor
    · -- no chunk is empty, so a count that does not grow is right only if nothing was accepted
      intro hcount
      have hnone : (acceptedChunks i.backend index s.link chunks).flatten = [] :=
        List.length_eq_zero_iff.1 (by omega)
      refine Or.inr (List.eq_nil_iff_forall_not_mem.2 fun chunk hchunk => ?_)
      have hempty := List.flatten_eq_nil_iff.1 hnone chunk hchunk
      rw [hstopped.accepted] at hchunk
      exact hstopped.someEach chunk (List.dropLast_subset chunks hchunk) hempty
    · rintro (hall | hnone)
      · rw [hstopped.accepted] at hall
        have hlength := congrArg List.length hall
        have hpositive := List.length_pos_iff.2 hstopped.sent
        rw [List.length_dropLast] at hlength
        omega
      · rw [hnone]
        rfl

/-- An indexer that sends documents one by one, to a cluster that is down after the first request. -/
def failingIndexer : Indexer Nat where
  config := { batchSize := 1 }
  registry :=
    { mappings := [("page", { indexName := "page_search_index", aliasName := "page", indexMappingFile := "" })]
      clusterAlias := "", language := "en", schemaRoot := "" }
  fileText _ := none
  backend _ n := (.ok { status := if n = 0 then 200 else 500, body := .null }, n + 1)

/-- A page without a parent. -/
def rootPage (name : String) : Entity :=
  { id := .nil, entityType := "page", name, fullyQualifiedName := name, version := .zero, updatedAt := 1 }

/-- Two pages are created, and the second one is refused. -/
theorem created_eq_accepted_iff_failing :
    failingIndexer.registry.index (rootPage "a").entityType = .ok "page_search_index"
      ∧ ∃ chunks,
        let t := ((createEntities [rootPage "a", rootPage "b"]).run failingIndexer
          { link := { state := 0 } }).2
        let accepted := acceptedChunks failingIndexer.backend "page_search_index" { state := 0 } chunks
        t.link.sent = chunks.map (bulkRequest "page_search_index")
        ∧ (t.stats.created = accepted.flatten.length ↔ accepted = chunks ∨ accepted = []) := by
  have hindex : failingIndexer.registry.index (rootPage "a").entityType = .ok "page_search_index" := by
    decide +kernel
  obtain ⟨chunks, hsent, -, -, hiff⟩ := created_eq_accepted_iff hindex [rootPage "b"]
    { link := { state := 0 } }
  rw [Nat.zero_add] at hiff
  exact ⟨hindex, chunks, hsent, hiff⟩

/-- **A document that is accepted and not counted**: of two chunks of one page each, the first one is
    accepted and the second one is refused, and the count stays zero. -/
theorem accepted_not_created :
    let pages := [rootPage "a", rootPage "b"]
    let chunks := (builtDocuments failingIndexer pages).map ([·])
    let t := ((createEntities pages).run failingIndexer { link := { state := 0 } }).2
    t.link.sent = chunks.map (bulkRequest "page_search_index")
      ∧ (acceptedChunks failingIndexer.backend "page_search_index" { state := 0 } chunks).flatten.length = 1
      ∧ t.stats.created = 0 := by
  decide +kernel

end CatalogIndex
