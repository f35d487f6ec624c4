/-
  CatalogIndex.Proofs.Cluster.Buffering — a buffer passes every document on once, in order.

  A bulk buffer empties itself before it knows what became of the request, so the documents of a
  request that is refused are neither kept nor sent again.  What is sent does not depend on the replies
  at all: one full chunk after the other, and what is left at the end.  The replies only decide what is
  counted.

  What a buffer has come to is said by `Filled`; one add keeps it (`Filled.add`), and so does a run of
  any length, by induction over its documents (`Filled.addAll`).

  ## Main definitions

    * `Cluster.acceptsBulk` — the responses that take all documents of a bulk request;
    * `Cluster.acceptedChunks` — those of some chunks that a backend accepts;
    * `BulkBuffer.addAll` — a run of adds that goes on after failures;
    * `BulkBuffer.Filled` — what a buffer has come to.

  ## Main results

    * `Cluster.asksOnce_createDocuments` — when a bulk request succeeds;
    * `BulkBuffer.run_flush` — what sending the waiting documents does;
    * `BulkBuffer.delivers_in_order` — the account of a run, with every reply.
-/
import CatalogIndex.Proofs.Cluster.Framing

namespace CatalogIndex

variable {σ : Type}

/-! ## §1. Bulk requests and their replies. -/

namespace Cluster

/-- Whether a response takes all documents of a bulk request: a success that reports no errors. -/
def acceptsBulk (response : Response) : Bool :=
  response.isSuccess && (response.body.field? "errors").bind Json.asBool? != some true

theorem isOk_bulkOutcome (index : String) (count : Nat) (answer : Json) :
    (bulkOutcome index count answer).isOk
      = ((answer.field? "errors").bind Json.asBool? != some true) := by
  unfold bulkOutcome
  split
  · rename_i herrors
    rw [herrors]
    rfl
  · rename_i herrors
    rw [bne_iff_ne.2 herrors]
    rfl

/-- **Documents are stored by one request**, which fails if it is refused as a whole or in parts. -/
theorem asksOnce_createDocuments (index : String) {ds : List Document} (hds : ds ≠ []) :
    AsksOnce (σ := σ) (createDocuments index ds) (bulkRequest index ds) acceptsBulk := by
  have hsome : ¬ ds.isEmpty = true := by simpa using hds
  unfold createDocuments
  rw [if_neg hsome]
  unfold Exchange.send
  rw [bind_assoc]
  refine AsksOnce.perform fun response b link => ?_
  -- the errors of single documents are looked for in a success only
  have hok := isOk_bulkOutcome index ds.length response.body
  unfold Response.accepted acceptsBulk
  cases response.isSuccess with
  | false => exact ⟨rfl, rfl⟩
  | true => exact ⟨rfl, hok⟩

/-- Those of the chunks that the backend accepts, when they are sent one after the other. -/
def acceptedChunks (b : Backend σ) (index : String) :
    Link σ → List (List Document) → List (List Document)
  | _, [] => []
  | link, chunk :: rest =>
    (if isAccepted acceptsBulk (b (bulkRequest index chunk) link.state).1 then [chunk] else [])
      ++ acceptedChunks b index (link.after b (bulkRequest index chunk)) rest

end Cluster

/-- What has passed after more chunks. -/
def Link.afterChunks (b : Backend σ) (index : String) (link : Link σ) (chunks : List (List Document)) :
    Link σ :=
  link.afterAll b (chunks.map (Cluster.bulkRequest index))

namespace Cluster

variable {b : Backend σ} {index : String}

theorem acceptedChunks_cons (link : Link σ) (chunk : List Document) (rest : List (List Document)) :
    acceptedChunks b index link (chunk :: rest)
      = (if isAccepted acceptsBulk (b (bulkRequest index chunk) link.state).1 then [chunk] else [])
        ++ acceptedChunks b index (link.after b (bulkRequest index chunk)) rest := rfl

theorem acceptedChunks_append (link : Link σ) (chunks more : List (List Document)) :
    acceptedChunks b index link (chunks ++ more)
      = acceptedChunks b index link chunks
        ++ acceptedChunks b index (link.afterChunks b index chunks) more := by
  induction chunks generalizing link with
  | nil => rfl
  | cons chunk rest ih =>
    have hrest := ih (link.after b (bulkRequest index chunk))
    rw [List.cons_append, acceptedChunks_cons, acceptedChunks_cons, hrest, List.append_assoc]
    rfl

theorem afterChunks_append (link : Link σ) (chunks more : List (List Document)) :
    link.afterChunks b index (chunks ++ more)
      = (link.afterChunks b index chunks).afterChunks b index more := by
  unfold Link.afterChunks
  rw [List.map_append, Link.afterAll_append]

end Cluster

open Cluster

/-! ## §2. Sending what waits. -/

namespace BulkBuffer

/-- What is waiting, as the chunks that it takes to send it. -/
def pending (buffer : BulkBuffer) : List (List Document) :=
  if buffer.waiting.isEmpty then [] else [buffer.waiting]

theorem flatten_pending (buffer : BulkBuffer) : buffer.pending.flatten = buffer.waiting := by
  unfold pending
  split
  · rename_i hempty
    exact (List.isEmpty_iff.1 hempty).symm
  · exact List.flatten_singleton

/-- The outcome is that of the request; the buffer is empty in any case. -/
theorem run_flush_of_waiting {buffer : BulkBuffer} (h : buffer.waiting ≠ []) {b : Backend σ}
    {link link' : Link σ} {outcome : Outcome Unit}
    (hrun : (createDocuments buffer.index buffer.waiting).run b link = (outcome, link')) :
    buffer.flush.run b link
      = (.ok (outcome, { buffer with
            waiting := []
            flushed := buffer.flushed + if outcome.isOk then buffer.waiting.length else 0 }), link') := by
  have hsome : ¬ buffer.waiting.isEmpty = true := by simpa using h
  refine (if_neg hsome).trans ?_
  rw [hrun]
  cases outcome with
  | error e => rfl
  | ok a => rfl

/-- **What waits is sent by one request, and is gone afterwards.**  It is counted only if the request is
    accepted, and the flag of success says so. -/
theorem run_flush (buffer : BulkBuffer) (b : Backend σ) (link : Link σ) :
    let accepted := acceptedChunks b buffer.index link buffer.pending
    ∃ outcome : Outcome Unit,
      buffer.flush.run b link
        = (.ok (outcome, { buffer with waiting := [], flushed := buffer.flushed + accepted.flatten.length }),
            link.afterChunks b buffer.index buffer.pending)
      ∧ (outcome.isOk = true ↔ accepted = buffer.pending) := by
  intro accepted
  by_cases hempty : buffer.waiting = []
  · -- nothing is sent, and the buffer stays as it is
    obtain ⟨index, batchSize, waiting, flushed, positive⟩ := buffer
    cases hempty
    exact ⟨.ok (), rfl, fun _ => rfl, fun _ => rfl⟩
  · have hpending : buffer.pending = [buffer.waiting] := if_neg (by simpa using hempty)
    obtain ⟨hlink, hok⟩ := asksOnce_createDocuments buffer.index hempty b link
    rcases hrun : (createDocuments buffer.index buffer.waiting).run b link with ⟨outcome, link'⟩
    rw [hrun] at hlink hok
    obtain rfl : link' = link.after b (bulkRequest buffer.index buffer.waiting) := hlink
    -- the one chunk is accepted exactly if the request succeeds
    have haccepted : accepted = if outcome.isOk then [buffer.waiting] else [] := by
      show acceptedChunks _ _ _ _ = _
      rw [hpending, hok]
      exact List.append_nil _
    refine ⟨outcome, ?_, ?_⟩
    · rw [run_flush_of_waiting hempty hrun, haccepted, hpending]
      cases outcome.isOk with
      | false => rfl
      | true => simp [Link.afterChunks, Link.afterAll]
    · rw [haccepted, hpending]
      cases outcome.isOk with
      | false => simp
      | true => simp

/-! ## §3. Runs. -/

/-- What a buffer has come to that has taken in `ds` since `start`: `chunks` were sent, each of them
    full; the rest waits, and there is room for more of it; and what was accepted is counted. -/
structure Filled (b : Backend σ) (index : String) (size : Nat) (start : Link σ) (ds : List Document)
    (chunks : List (List Document)) (buffer : BulkBuffer) : Prop where
  index_eq : buffer.index = index
  batchSize_eq : buffer.batchSize = size
  /-- Nothing is lost, doubled or out of order. -/
  documents : chunks.flatten ++ buffer.waiting = ds
  full : ∀ chunk ∈ chunks, chunk.length = size
  room : buffer.waiting.length < size
  flushed : buffer.flushed = (acceptedChunks b index start chunks).flatten.length

variable {b : Backend σ} {index : String} {size : Nat} {start : Link σ} {ds : List Document}
  {chunks : List (List Document)} {buffer : BulkBuffer}

theorem filled_new (b : Backend σ) (index : String) (batchSize : Nat) (start : Link σ) :
    Filled b index (max batchSize 1) start [] [] (new index batchSize) where
  index_eq := rfl
  batchSize_eq := rfl
  documents := rfl
  full _ h := absurd h List.not_mem_nil
  room := by
    show 0 < max batchSize 1
    omega
  flushed := rfl

/-- **One more document.**  It sets off one request at most, and the add fails exactly if that is
    refused. -/
theorem Filled.add (h : Filled b index size start ds chunks buffer) (d : Document) :
    let link := start.afterChunks b index chunks
    ∃ outcome sent buffer',
      (buffer.add d).run b link = (.ok (outcome, buffer'), start.afterChunks b index (chunks ++ sent))
      ∧ sent.length ≤ 1 ∧ (outcome.isOk = true ↔ acceptedChunks b index link sent = sent)
      ∧ Filled b index size start (ds ++ [d]) (chunks ++ sent) buffer' := by
  obtain ⟨rfl, rfl, hdocuments, hfull, hroom, hflushed⟩ := h
  intro link
  let fuller : BulkBuffer := { buffer with waiting := buffer.waiting ++ [d] }
  have hlength : fuller.waiting.length = buffer.waiting.length + 1 := List.length_append
  have hmore : chunks.flatten ++ fuller.waiting = ds ++ [d] := by
    rw [← hdocuments, List.append_assoc]
  by_cases henough : buffer.batchSize ≤ fuller.waiting.length
  · -- all that waits is sent, and there is just enough of it for a chunk
    obtain ⟨outcome, hrun, hok⟩ := run_flush fuller b link
    have hadd : buffer.add d = fuller.flush (σ := σ) := if_pos henough
    have hwaiting : fuller.waiting ≠ [] := by simp [fuller]
    have hpending : fuller.pending = [fuller.waiting] := if_neg (by simpa using hwaiting)
    let accepted := acceptedChunks b buffer.index link fuller.pending
    let emptied : BulkBuffer :=
      { buffer with waiting := [], flushed := buffer.flushed + accepted.flatten.length }
    refine ⟨outcome, fuller.pending, emptied, ?_, ?_, hok, ?_⟩
    · rw [hadd, hrun, afterChunks_append]
    · rw [hpending]
      exact Nat.le_refl 1
    · refine ⟨rfl, rfl, ?_, ?_, ?_, ?_⟩
      · show (chunks ++ fuller.pending).flatten ++ [] = _
        rw [List.append_nil, List.flatten_append, flatten_pending, hmore]
      · intro chunk hchunk
        rw [hpending] at hchunk
        rcases List.mem_append.1 hchunk with hchunk | hchunk
        · exact hfull chunk hchunk
        · rw [List.mem_singleton.1 hchunk]
          omega
      · exact buffer.positive
      · show buffer.flushed + _ = _
        rw [hflushed, acceptedChunks_append, List.flatten_append, List.length_append]
  · -- the document waits with the others
    have hadd : buffer.add d = (pure (.ok (), fuller) : Exchange σ _) := if_neg henough
    refine ⟨.ok (), [], fuller, ?_, Nat.zero_le 1, ⟨fun _ => rfl, fun _ => rfl⟩, ?_⟩
    · rw [hadd, List.append_nil]
      rfl
    · rw [List.append_nil]
      exact ⟨rfl, rfl, hmore, hfull, by omega, hflushed⟩

/-- Takes in documents, one after the other, whatever becomes of the requests. -/
def addAll (buffer : BulkBuffer) (ds : List Document) : Exchange σ BulkBuffer :=
  ds.foldlM (fun buffer d => do let (_, buffer) ← buffer.add d; return buffer) buffer

/-- **A run of adds**, which goes on after requests that are refused. -/
theorem Filled.addAll (h : Filled b index size start ds chunks buffer) (more : List Document) :
    ∃ sent buffer', (buffer.addAll more).run b (start.afterChunks b index chunks)
        = (.ok buffer', start.afterChunks b index (chunks ++ sent))
      ∧ Filled b index size start (ds ++ more) (chunks ++ sent) buffer' := by
  induction more generalizing ds chunks buffer with
  | nil =>
    refine ⟨[], buffer, ?_, ?_⟩
    · rw [List.append_nil]
      rfl
    · rwa [List.append_nil, List.append_nil]
  | cons d rest ih =>
    obtain ⟨outcome, sent, next, hadd, -, -, hnext⟩ := h.add d
    obtain ⟨sent', buffer', hrest, hfilled⟩ := ih hnext
    refine ⟨sent ++ sent', buffer', ?_, ?_⟩
    · unfold BulkBuffer.addAll
      rw [List.foldlM_cons, Exchange.run_bind, Exchange.run_bind, hadd, ← List.append_assoc]
      exact hrest
    · rwa [List.append_assoc, List.append_assoc] at hfilled

/-- **The end of a run.**  What still waits is sent, and the result is all that was accepted; there is
    none exactly if this last request is refused. -/
theorem Filled.finish (h : Filled b index size start ds chunks buffer) :
    let link := start.afterChunks b index chunks
    ∃ outcome : Outcome Unit,
      buffer.finish.run b link
        = (outcome.map fun _ => (acceptedChunks b index start (chunks ++ buffer.pending)).flatten.length,
            start.afterChunks b index (chunks ++ buffer.pending))
      ∧ (outcome.isOk = true ↔ acceptedChunks b index link buffer.pending = buffer.pending) := by
  obtain ⟨rfl, rfl, -, -, -, hflushed⟩ := h
  intro link
  obtain ⟨outcome, hrun, hok⟩ := run_flush buffer b link
  refine ⟨outcome, ?_, hok⟩
  have htotal : buffer.flushed + (acceptedChunks b buffer.index link buffer.pending).flatten.length
      = (acceptedChunks b buffer.index start (chunks ++ buffer.pending)).flatten.length := by
    rw [hflushed, acceptedChunks_append, List.flatten_append, List.length_append]
  unfold BulkBuffer.finish
  rw [Exchange.run_bind, hrun, afterChunks_append, ← htotal]
  cases outcome with
  | error e => rfl
  | ok a => rfl

/-- No empty chunk is sent. -/
theorem Filled.ne_nil_of_mem (h : Filled b index size start ds chunks buffer) {chunk : List Document}
    (hchunk : chunk ∈ chunks) : chunk ≠ [] := by
  intro hnil
  have hlength := h.full chunk hchunk
  rw [hnil, ← h.batchSize_eq] at hlength
  exact absurd hlength.symm (Nat.ne_of_gt buffer.positive)

theorem length_pending_le (buffer : BulkBuffer) : buffer.pending.length ≤ 1 := by
  unfold pending
  split
  · exact Nat.zero_le 1
  · exact Nat.le_refl 1

/-- What is left at the end makes a smaller chunk, but no empty one. -/
theorem Filled.length_of_mem_pending (h : Filled b index size start ds chunks buffer)
    {chunk : List Document} (hchunk : chunk ∈ buffer.pending) :
    1 ≤ chunk.length ∧ chunk.length ≤ size := by
  unfold pending at hchunk
  split at hchunk
  · cases hchunk
  · rename_i hsome
    obtain rfl := List.mem_singleton.1 hchunk
    exact ⟨List.length_pos_iff.2 fun hnil => hsome (List.isEmpty_iff.2 hnil), Nat.le_of_lt h.room⟩

/-- **A buffer passes every document on once, in order.**  A new buffer takes in documents, goes on after
    requests that are refused, and is finished.  The requests carry all documents in their order: full
    chunks, and one more with what is left, if anything is.  In between, less than a chunk waits, and
    just the documents of accepted requests are counted; one more add sends one request at most, and
    fails exactly if that is refused.  The result in the end is the count, and there is none exactly if
    the last request is refused. -/
theorem delivers_in_order (index : String) (batchSize : Nat) (ds : List Document) (b : Backend σ)
    (start : Link σ) :
    let size := max batchSize 1
    ∃ chunks rest buffer,
      let link := start.afterChunks b index chunks
      let accepted := acceptedChunks b index
      ((new index batchSize).addAll ds).run b start = (.ok buffer, link)
      ∧ buffer.waiting.length < size
      ∧ buffer.flushed = (accepted start chunks).flatten.length
      ∧ (∀ d, ∃ outcome sent buffer',
          (buffer.add d).run b link = (.ok (outcome, buffer'), start.afterChunks b index (chunks ++ sent))
          ∧ sent.length ≤ 1 ∧ (outcome.isOk = true ↔ accepted link sent = sent))
      ∧ (∃ outcome : Outcome Unit,
          buffer.finish.run b link
            = (outcome.map fun _ => (accepted start (chunks ++ rest)).flatten.length,
                start.afterChunks b index (chunks ++ rest))
          ∧ (outcome.isOk = true ↔ accepted link rest = rest))
      ∧ (start.afterChunks b index (chunks ++ rest)).sent
          = start.sent ++ (chunks ++ rest).map (bulkRequest index)
      ∧ (chunks ++ rest).flatten = ds
      ∧ (∀ chunk ∈ chunks, chunk.length = size)
      ∧ rest.length ≤ 1 ∧ ∀ chunk ∈ rest, 1 ≤ chunk.length ∧ chunk.length ≤ size := by
  intro size
  obtain ⟨chunks, buffer, hrun, hfilled⟩ := (filled_new b index batchSize start).addAll ds
  refine ⟨chunks, buffer.pending, buffer, hrun, hfilled.room, hfilled.flushed, ?_, hfilled.finish,
    Link.afterAll_sent _ _ _, ?_, hfilled.full, length_pending_le buffer, ?_⟩
  · intro d
    obtain ⟨outcome, sent, buffer', hadd, hone, hok, -⟩ := hfilled.add d
    exact ⟨outcome, sent, buffer', hadd, hone, hok⟩
  · rw [List.flatten_append, flatten_pending]
    exact hfilled.documents
  · exact fun chunk hchunk => hfilled.length_of_mem_pending hchunk

end BulkBuffer

end CatalogIndex
