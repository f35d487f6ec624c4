/-
  CatalogIndex.Cluster.Documents — writing single documents, and many at once.

  A bulk request is answered with a success even when some of its documents were refused; the answer
  then says which, and the request counts as failed.  A bulk buffer collects documents for one index
  and sends them as soon as there are enough.

  ## Main definitions

    * `putDocument`, `patchDocument`, `deleteDocument` — one document;
    * `createDocuments` — many documents in one request;
    * `BulkBuffer` — documents that wait to be sent together.
-/
import CatalogIndex.Cluster.Exchange
import CatalogIndex.Document.Basic
import CatalogIndex.Engine.Script

namespace CatalogIndex

namespace Cluster

open Exchange

variable {σ : Type}

/-! ## §1. One document. -/

/-- Stores a document in place of what was there; `action` says what for. -/
def putDocument (action index : String) (d : Document) : Exchange σ Unit := do
  let _ ← send action .put (index ++ "/_doc/" ++ d.id ++ "?refresh=true") (some (.json d.source))

/-- Stores a new document. -/
def createDocument (index : String) (d : Document) : Exchange σ Unit :=
  putDocument "index document" index d

/-- Stores a new record of a time series. -/
def createRecord (index : String) (d : Document) : Exchange σ Unit :=
  putDocument "index time series document" index d

/-- Stores a document in place of the one before. -/
def replaceDocument (index : String) (d : Document) : Exchange σ Unit :=
  putDocument "replace document" index d

/-- Runs a script on a document; an empty script asks for nothing. -/
def patchDocument (e : Engine) (index id : String) (s : Script) : Exchange σ Unit := do
  if s.isEmpty then return
  let body := Json.object [("script", e.encodeScript s)]
  let _ ← send "update document" .post (index ++ "/_update/" ++ id ++ "?refresh=true")
    (some (.json body))

/-- Removes a document; one that is not there counts as removed. -/
def deleteDocument (index id : String) : Exchange σ Unit := do
  let response ← perform
    { method := .delete, path := index ++ "/_doc/" ++ id ++ "?refresh=true" }
  if response.isNotFound then return
  let _ ← ofOutcome (response.accepted "delete document")

/-- The fields of a document, if it is there. -/
def documentById (index id : String) : Exchange σ (Option Fields) := do
  let response ← perform { method := .get, path := index ++ "/_doc/" ++ id }
  if response.isNotFound then return none
  let body ← ofOutcome (response.accepted "get document")
  if (body.field? "found").bind Json.asBool? = some false then return none
  return (body.field? "_source").bind Json.asObj?

/-! ## §2. Many documents. -/

/-- The two lines of a document: where it goes, and its body. -/
def bulkLines (index : String) (d : Document) : List Json :=
  [.object [("index", .object [("_index", .str index), ("_id", .str d.id)])], d.source]

/-- The answers for those documents of a bulk request that were refused. -/
def bulkFailures (answer : Json) : List Json :=
  ((((answer.field? "items").bind Json.asArr?).getD []).filterMap (·.field? "index")).filter
    fun item => (item.field? "error").isSome

/-- Fails if some documents of a bulk request were refused. -/
def bulkOutcome (index : String) (count : Nat) (answer : Json) : Outcome Unit :=
  if (answer.field? "errors").bind Json.asBool? = some true then
    let failures := bulkFailures answer
    let reason := (failures.head?.bind (·.path? ["error", "reason"])).bind Json.asStr?
    .error (.bulkRefused index failures.length count (reason.getD "unknown reason"))
  else .ok ()

/-- Stores documents in one request. -/
def createDocuments (index : String) (ds : List Document) : Exchange σ Unit := do
  if ds.isEmpty then return
  let answer ← send "bulk index" .post "_bulk?refresh=true"
    (some (.lines (ds.flatMap (bulkLines index))))
  ofOutcome (bulkOutcome index ds.length answer)

end Cluster

/-! ## §3. Buffers. -/

/-- Documents that wait to be sent to an index. -/
structure BulkBuffer where
  index : String
  /-- How many documents are sent together. -/
  batchSize : Nat
  waiting : List Document := []
  /-- How many documents were accepted. -/
  flushed : Nat := 0
  positive : 0 < batchSize

namespace BulkBuffer

variable {σ : Type}

/-- An empty buffer; at least one document is sent at a time. -/
def new (index : String) (batchSize : Nat) : BulkBuffer :=
  { index, batchSize := max batchSize 1, positive := by omega }

/-- Sends what is waiting.  The buffer is empty afterwards, also if the request fails; the flag of
    success comes with it. -/
def flush (b : BulkBuffer) : Exchange σ (Outcome Unit × BulkBuffer) := fun backend link =>
  if b.waiting.isEmpty then (.ok (.ok (), b), link)
  else
    match (Cluster.createDocuments b.index b.waiting).run backend link with
    | (.ok (), link) =>
      (.ok (.ok (), { b with waiting := [], flushed := b.flushed + b.waiting.length }), link)
    | (.error e, link) => (.ok (.error e, { b with waiting := [] }), link)

/-- Takes in a document, and sends what is waiting if that is enough. -/
def add (b : BulkBuffer) (d : Document) : Exchange σ (Outcome Unit × BulkBuffer) :=
  let b := { b with waiting := b.waiting ++ [d] }
  if b.batchSize ≤ b.waiting.length then b.flush else pure (.ok (), b)

/-- Sends what is left, and returns how many documents were accepted. -/
def finish (b : BulkBuffer) : Exchange σ Nat := do
  let (outcome, b) ← b.flush
  let () ← Exchange.ofOutcome outcome
  return b.flushed

end BulkBuffer

end CatalogIndex
