/-
  CatalogIndex.Proofs.Cluster.Asks — which requests an exchange sends.

  Most exchanges send a single request, and the reply decides on nothing but success or failure.
  Such an exchange is described by the request and by the responses that it accepts, whatever the
  backend.  Single documents and writes by query are of this kind, and so is every cascade that has
  something to do.

  ## Main definitions

    * `Link.after`, `Link.afterAll` — what has passed after further requests;
    * `replies` — what a backend answers to requests, one after the other;
    * `AsksOnce` — an exchange that sends one request;
    * `CascadeOp.request` — the request of a cascade.

  ## Main results

    * `Cluster.asksOnce_applyCascade` — a cascade with something to do sends its request.
-/
import CatalogIndex.Cluster.ByQuery
import CatalogIndex.Cluster.Documents

namespace CatalogIndex

variable {σ : Type}

/-! ## §1. Requests and replies. -/

/-- What has passed after one more request. -/
def Link.after (b : Backend σ) (link : Link σ) (r : Request) : Link σ :=
  { state := (b r link.state).2, sent := link.sent ++ [r] }

/-- What has passed after more requests. -/
def Link.afterAll (b : Backend σ) (link : Link σ) (rs : List Request) : Link σ :=
  rs.foldl (Link.after b) link

/-- What a backend answers to requests, one after the other. -/
def replies (b : Backend σ) : σ → List Request → List (Outcome Response)
  | _, [] => []
  | state, r :: rest => (b r state).1 :: replies b (b r state).2 rest

/-- Whether a reply is a response that is accepted. -/
def isAccepted (accepts : Response → Bool) : Outcome Response → Bool
  | .ok response => accepts response
  | .error _ => false

theorem Link.afterAll_sent (b : Backend σ) (link : Link σ) (rs : List Request) :
    (link.afterAll b rs).sent = link.sent ++ rs := by
  induction rs generalizing link with
  | nil => simp [afterAll]
  | cons r rest ih =>
    show ((link.after b r).afterAll b rest).sent = _
    rw [ih]
    simp [after]

theorem Link.afterAll_append (b : Backend σ) (link : Link σ) (rs rs' : List Request) :
    link.afterAll b (rs ++ rs') = (link.afterAll b rs).afterAll b rs' := by
  unfold afterAll
  rw [List.foldl_append]

theorem replies_append (b : Backend σ) (link : Link σ) (rs rs' : List Request) :
    replies b link.state (rs ++ rs')
      = replies b link.state rs ++ replies b (link.afterAll b rs).state rs' := by
  induction rs generalizing link with
  | nil => rfl
  | cons r rest ih =>
    have hrest := ih (link.after b r)
    show _ :: replies b (link.after b r).state (rest ++ rs') = _
    rw [hrest]
    rfl

/-! ## §2. Exchanges of one request. -/

namespace Exchange

variable {α β : Type}

/-- One exchange after another: the second goes on where the first succeeded. -/
theorem run_bind (x : Exchange σ α) (f : α → Exchange σ β) (b : Backend σ) (link : Link σ) :
    (x >>= f).run b link = match x.run b link with
      | (.ok a, link) => (f a).run b link
      | (.error e, link) => (.error e, link) := by
  show (ExceptT.bindCont (fun a => f a b) (x.run b link).1 : StateM _ _) (x.run b link).2 = _
  -- an error ends the exchange, and keeps what has passed so far
  rcases x.run b link with ⟨outcome, link'⟩
  cases outcome <;> rfl

theorem run_perform (r : Request) (b : Backend σ) (link : Link σ) :
    (perform r).run b link = ((b r link.state).1, link.after b r) := rfl

end Exchange

/-- The exchange sends `r` and nothing else, and it succeeds if the response is one that it
    accepts. -/
def AsksOnce {α : Type} (x : Exchange σ α) (r : Request) (accepts : Response → Bool) : Prop :=
  ∀ (b : Backend σ) (link : Link σ), (x.run b link).2 = link.after b r
    ∧ (x.run b link).1.isOk = isAccepted accepts (b r link.state).1

namespace AsksOnce

variable {α β : Type}

/-- A request, and then something that looks at the response only. -/
theorem perform {r : Request} {read : Response → Exchange σ α} {accepts : Response → Bool}
    (h : ∀ response b link, ((read response).run b link).2 = link
      ∧ ((read response).run b link).1.isOk = accepts response) :
    AsksOnce (Exchange.perform r >>= read) r accepts := by
  intro b link
  rw [Exchange.run_bind, Exchange.run_perform]
  cases (b r link.state).1 with
  | error e => exact ⟨rfl, rfl⟩
  | ok response => exact h response b (link.after b r)

/-- What a request brought may be dropped. -/
theorem discard {x : Exchange σ α} {r : Request} {accepts : Response → Bool}
    (h : AsksOnce x r accepts) : AsksOnce (do let _ ← x) r accepts := by
  intro b link
  obtain ⟨hlink, hok⟩ := h b link
  rw [Exchange.run_bind]
  rcases hx : x.run b link with ⟨outcome, link'⟩
  rw [hx] at hlink hok
  cases outcome with
  | error e => exact ⟨hlink, hok⟩
  | ok a => exact ⟨hlink, hok⟩

end AsksOnce

namespace Cluster

theorem isOk_accepted (response : Response) (action : String) :
    (response.accepted action).isOk = response.isSuccess := by
  unfold Response.accepted
  cases response.isSuccess <;> rfl

/-- A request whose response has to be a success. -/
theorem asksOnce_send (action : String) (method : Method) (path : String) (body : Option Body) :
    AsksOnce (σ := σ) (do let _ ← Exchange.send action method path body)
      { method, path, body } Response.isSuccess :=
  AsksOnce.discard <| AsksOnce.perform fun response _ _ => ⟨rfl, isOk_accepted response action⟩

/-- The request that stores a document. -/
def putRequest (index : String) (d : Document) : Request :=
  { method := .put, path := index ++ "/_doc/" ++ d.id ++ "?refresh=true", body := some (.json d.source) }

/-- The request that runs a script on a document. -/
def patchRequest (e : Engine) (index id : String) (s : Script) : Request :=
  { method := .post, path := index ++ "/_update/" ++ id ++ "?refresh=true"
    body := some (.json (.object [("script", e.encodeScript s)])) }

/-- The request that removes a document. -/
def deleteRequest (index id : String) : Request :=
  { method := .delete, path := index ++ "/_doc/" ++ id ++ "?refresh=true" }

theorem asksOnce_replaceDocument (index : String) (d : Document) :
    AsksOnce (σ := σ) (replaceDocument index d) (putRequest index d) Response.isSuccess :=
  asksOnce_send _ _ _ _

theorem asksOnce_patchDocument (e : Engine) (index id : String) {s : Script}
    (h : s.isEmpty = false) :
    AsksOnce (σ := σ) (patchDocument e index id s) (patchRequest e index id s)
      Response.isSuccess := by
  unfold patchDocument
  rw [h]
  exact asksOnce_send _ _ _ _

/-- A document that is not there counts as removed. -/
theorem asksOnce_deleteDocument (index id : String) :
    AsksOnce (σ := σ) (deleteDocument index id) (deleteRequest index id)
      (fun response => response.isNotFound || response.isSuccess) := by
  unfold deleteDocument
  refine AsksOnce.perform fun response b link => ?_
  -- the check of the status comes after the question whether there was a document
  cases hfound : response.isNotFound with
  | true => exact ⟨rfl, rfl⟩
  | false =>
    have hok := isOk_accepted response "delete document"
    show ((Exchange.ofOutcome (response.accepted "delete document") >>= fun _ => pure ()).run b link).2
        = link ∧ _ = response.isSuccess
    rw [← hok, Exchange.run_bind]
    cases response.accepted "delete document" with
    | error e => exact ⟨rfl, rfl⟩
    | ok body => exact ⟨rfl, rfl⟩

/-! ## §3. Writes by query. -/

/-- The request that runs a script on all documents that match. -/
def updateByQueryRequest (e : Engine) (aliases : List String) (q : Query) (s : Script) : Request :=
  { method := .post, path := byQueryPath aliases "_update_by_query"
    body := some (.json (.object [("query", e.encodeQuery q), ("script", e.encodeScript s)])) }

/-- The request that deletes all documents that match. -/
def deleteByQueryRequest (e : Engine) (aliases : List String) (q : Query) : Request :=
  { method := .post, path := byQueryPath aliases "_delete_by_query"
    body := some (.json (.object [("query", e.encodeQuery q)])) }

theorem asksOnce_updateByQuery (e : Engine) {aliases : List String} (q : Query) {s : Script}
    (haliases : aliases ≠ []) (hscript : s.isEmpty = false) :
    AsksOnce (σ := σ) (updateByQuery e aliases q s) (updateByQueryRequest e aliases q s)
      Response.isSuccess := by
  have hskip : (aliases.isEmpty || s.isEmpty) = false := by
    rw [List.isEmpty_eq_false_iff.2 haliases, hscript]
    rfl
  unfold updateByQuery
  rw [hskip]
  exact asksOnce_send _ _ _ _

theorem asksOnce_deleteByQuery (e : Engine) {aliases : List String} (q : Query)
    (haliases : aliases ≠ []) :
    AsksOnce (σ := σ) (deleteByQuery e aliases q) (deleteByQueryRequest e aliases q)
      Response.isSuccess := by
  unfold deleteByQuery
  rw [List.isEmpty_eq_false_iff.2 haliases]
  exact asksOnce_send _ _ _ _

end Cluster

/-! ## §4. Cascades. -/

namespace CascadeOp

/-- The request of a cascade. -/
def request (e : Engine) (r : Registry) (op : CascadeOp) : Request :=
  match op with
  | .update u => Cluster.updateByQueryRequest e (op.targets r) u.matcher.toQuery u.script
  | .deleteMatching aliases ms =>
    Cluster.deleteByQueryRequest e aliases (FieldMatch.conjunction ms)
  | .flagMatching aliases ms s =>
    Cluster.updateByQueryRequest e aliases (FieldMatch.conjunction ms) s
  | .rename index oldStart newStart field =>
    Cluster.updateByQueryRequest e [index] (Cluster.renameQuery oldStart field)
      (Cluster.renameScript oldStart newStart field)

/-- The cascade has something to do: it goes somewhere, and has a script or something to match. -/
def Sendable (r : Registry) (op : CascadeOp) : Prop :=
  op.targets r ≠ [] ∧ match op with
    | .update u => u.script.isEmpty = false
    | .deleteMatching _ ms => ms ≠ []
    | .flagMatching _ _ s => s.isEmpty = false
    | .rename .. => True

end CascadeOp

/-- **A cascade with something to do sends its request, and fails only if that is refused.** -/
theorem Cluster.asksOnce_applyCascade (e : Engine) {r : Registry} {op : CascadeOp}
    (h : op.Sendable r) :
    AsksOnce (σ := σ) (applyCascade e r op) (op.request e r) Response.isSuccess := by
  obtain ⟨htargets, hrest⟩ := h
  cases op with
  | update u => exact asksOnce_updateByQuery e _ htargets hrest
  | deleteMatching aliases ms =>
    show AsksOnce (deleteMatching e aliases ms) _ _
    unfold deleteMatching
    rw [List.isEmpty_eq_false_iff.2 hrest]
    exact asksOnce_deleteByQuery e _ htargets
  | flagMatching aliases ms s => exact asksOnce_updateByQuery e _ htargets hrest
  | rename index oldStart newStart field => exact asksOnce_updateByQuery e _ htargets rfl

end CatalogIndex
