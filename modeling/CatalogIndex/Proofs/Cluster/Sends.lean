/-
  CatalogIndex.Proofs.Cluster.Sends — programs that send nothing but certain requests.

  Exchanges, attempts and indexings are programs of different kinds, and each kind sends requests.  What
  all requests of a program have in common is proved along the program: of each part that sends, and of
  parts one after the other.  The rules for that are the same for every kind, so they are stated once
  (`Sender`); what follows from them holds of programs of any kind, such as walks through the graph.

  A part of a program may rely on what an earlier part returned.  A statement about a program is
  therefore also one about its result.

  ## Main definitions

    * `Extends` — more requests were sent, all of them as said;
    * `Sender` — a kind of programs that send requests;
    * `Exchange.Keeps` — what an exchange sends and returns.

  ## Main results

    * `keeps_foldlM`, `keeps_forM` — programs over lists;
    * `keeps_traverse`, `keeps_traverseSchema` — a walk sends what its searches send;
    * `Cluster.sends_indexExists`, …, `Cluster.sends_applyCascade` — the requests of each exchange;
    * `BulkBuffer.keeps_flush`, `keeps_add`, `keeps_finish` — so does a buffer.
-/
import CatalogIndex.Cluster.Admin
import CatalogIndex.Cluster.Search
import CatalogIndex.Proofs.Cluster.Asks

namespace CatalogIndex

/-! ## §1. Rules for programs. -/

/-- More requests were sent, and all of them are as said. -/
def Extends (P : Request → Prop) (before after : List Request) : Prop :=
  ∃ new, after = before ++ new ∧ ∀ r ∈ new, P r

namespace Extends

variable {P : Request → Prop}

theorem refl (sent : List Request) : Extends P sent sent :=
  ⟨[], (List.append_nil _).symm, fun _ hr => by cases hr⟩

theorem trans {a b c : List Request} (h : Extends P a b) (h' : Extends P b c) : Extends P a c := by
  obtain ⟨new, rfl, hnew⟩ := h
  obtain ⟨new', rfl, hnew'⟩ := h'
  refine ⟨new ++ new', List.append_assoc _ _ _, fun r hr => ?_⟩
  rcases List.mem_append.1 hr with hr | hr
  · exact hnew r hr
  · exact hnew' r hr

end Extends

/-- A kind of programs that send requests; `ε` is what such a program works with. -/
class Sender (m : Type → Type) [Monad m] (ε : outParam Type) where
  /-- The program sends only requests with `P`, and its result, if it has one, has `Q`. -/
  Keeps {α : Type} (env : ε) (P : Request → Prop) (x : m α) (Q : α → Prop) : Prop
  keeps_pure {α : Type} {env : ε} {P : Request → Prop} {Q : α → Prop} {a : α} :
    Q a → Keeps env P (pure a) Q
  keeps_bind {α β : Type} {env : ε} {P : Request → Prop} {x : m α} {f : α → m β} {Q : α → Prop}
    {R : β → Prop} :
    Keeps env P x Q → (∀ a, Q a → Keeps env P (f a) R) → Keeps env P (x >>= f) R

namespace Sender

variable {m : Type → Type} [Monad m] {ε : Type} [Sender m ε] {env : ε} {P : Request → Prop}

/-- What a fold keeps from step to step, it has in the end. -/
theorem keeps_foldlM {α β : Type} {f : β → α → m β} {Q : β → Prop}
    (hf : ∀ b a, Q b → Keeps env P (f b a) Q) (as : List α) {b : β} (hb : Q b) :
    Keeps env P (as.foldlM f b) Q := by
  -- the invariant of the fold is what each part hands over to the next
  induction as generalizing b with
  | nil => exact keeps_pure hb
  | cons a rest ih =>
    rw [List.foldlM_cons]
    exact keeps_bind (hf b a hb) fun b' hb' => ih hb'

theorem keeps_forM {α : Type} {f : α → m Unit} {as : List α}
    (hf : ∀ a ∈ as, Keeps env P (f a) fun _ => True) :
    Keeps env P (as.forM f) fun _ => True := by
  induction as with
  | nil => exact keeps_pure trivial
  | cons a rest ih =>
    have hrest := ih fun a' ha' => hf a' (List.mem_cons_of_mem _ ha')
    exact keeps_bind (hf a List.mem_cons_self) fun _ _ => hrest

end Sender

open Sender

/-! ## §2. Walks through the graph. -/

namespace Lineage

variable {m : Type → Type} [Monad m] {ε : Type} [Sender m ε] {env : ε} {P : Request → Prop}
  {r : LineageRequest} {fetch : Query → m (List Fields)}
  (hfetch : ∀ q, Keeps env P (fetch q) fun _ => True)

include hfetch

theorem keeps_ancestorEdge (target : String) (walk : LineageGraph × List Fields) (source : String) :
    Keeps env P (ancestorEdge r fetch target walk source) fun _ => True := by
  unfold ancestorEdge
  dsimp only
  split
  · exact keeps_pure trivial
  · refine keeps_bind (hfetch _) fun docs _ => ?_
    cases docs with
    | nil => exact keeps_pure trivial
    | cons doc rest => exact keeps_pure trivial

theorem keeps_ancestorNode (walk : LineageGraph × List Fields) (doc : Fields) :
    Keeps env P (ancestorNode r fetch walk doc) fun _ => True := by
  unfold ancestorNode
  split
  · exact keeps_pure trivial
  · exact keeps_foldlM (fun walk source _ => keeps_ancestorEdge hfetch _ walk source) _ trivial

theorem keeps_ancestorWalk (depth : Nat) (g : LineageGraph) (frontier : List Fields) :
    Keeps env P (ancestorWalk r fetch depth g frontier) fun _ => True := by
  induction depth generalizing g frontier with
  | zero => exact keeps_pure trivial
  | succ depth ih =>
    unfold ancestorWalk ancestorLevel
    refine keeps_bind (keeps_foldlM (fun walk doc _ => keeps_ancestorNode hfetch walk doc) _ trivial)
      fun walk _ => ?_
    dsimp only
    split
    · exact keeps_pure trivial
    · exact ih _ _

theorem keeps_descendantNode (w : DescendantWalk) (source : String) :
    Keeps env P (descendantNode r fetch w source) fun _ => True := by
  unfold descendantNode
  split
  · exact keeps_pure trivial
  · exact keeps_bind (hfetch _) fun _ _ => keeps_pure trivial

theorem keeps_descendantWalk (depth : Nat) (w : DescendantWalk) (frontier : List String) :
    Keeps env P (descendantWalk r fetch depth w frontier) fun _ => True := by
  induction depth generalizing w frontier with
  | zero => exact keeps_pure trivial
  | succ depth ih =>
    unfold descendantWalk descendantLevel
    refine keeps_bind (keeps_foldlM (fun w source _ => keeps_descendantNode hfetch w source) _ trivial)
      fun w _ => ?_
    split
    · exact keeps_pure trivial
    · exact ih _ _

/-- **A walk sends what its searches send, and nothing else.** -/
theorem keeps_traverse : Keeps env P (traverse r fetch) fun _ => True := by
  unfold traverse
  refine keeps_bind (hfetch _) fun docs _ => ?_
  cases docs with
  | nil => exact keeps_pure trivial
  | cons root rest =>
    -- both directions are walked, whatever the first one found
    exact keeps_bind (keeps_ancestorWalk hfetch _ _ _) fun _ _ => keeps_descendantWalk hfetch _ _ _

theorem keeps_traverseSchema : Keeps env P (traverseSchema r fetch) fun _ => True := by
  unfold traverseSchema
  refine keeps_bind (hfetch _) fun tables _ => ?_
  refine keeps_foldlM (fun g fqn _ => ?_) _ trivial
  exact keeps_bind (keeps_traverse hfetch) fun _ _ => keeps_pure trivial

end Lineage

/-! ## §3. Exchanges. -/

namespace Exchange

variable {σ α β : Type} {b : Backend σ} {P : Request → Prop}

/-- An exchange that sends only requests with `P`, and whose result has `Q`. -/
def Keeps (b : Backend σ) (P : Request → Prop) (x : Exchange σ α) (Q : α → Prop) : Prop :=
  ∀ link : Link σ, Extends P link.sent (x.run b link).2.sent ∧ ∀ a, (x.run b link).1 = .ok a → Q a

theorem keeps_bind {x : Exchange σ α} {f : α → Exchange σ β} {Q : α → Prop} {R : β → Prop}
    (hx : Keeps b P x Q) (hf : ∀ a, Q a → Keeps b P (f a) R) : Keeps b P (x >>= f) R := by
  intro link
  obtain ⟨hsent, hresult⟩ := hx link
  rw [run_bind]
  rcases hrun : x.run b link with ⟨outcome, link'⟩
  rw [hrun] at hsent hresult
  cases outcome with
  -- an error ends the exchange, and what was sent before it stays sent
  | error e => exact ⟨hsent, fun _ h => by cases h⟩
  | ok a =>
    obtain ⟨hsent', hresult'⟩ := hf a (hresult a rfl) link'
    exact ⟨hsent.trans hsent', hresult'⟩

instance : Sender (Exchange σ) (Backend σ) where
  Keeps := Keeps
  keeps_pure h := fun link => ⟨Extends.refl link.sent, fun _ heq => by cases heq; exact h⟩
  keeps_bind := keeps_bind

theorem keeps_ofOutcome (o : Outcome α) : Sender.Keeps b P (ofOutcome o) fun _ => True :=
  fun link => ⟨Extends.refl link.sent, fun _ _ => trivial⟩

theorem keeps_perform {r : Request} (h : P r) : Sender.Keeps b P (perform r) fun _ => True :=
  fun _ => ⟨⟨[r], rfl, fun _ hr => List.mem_singleton.1 hr ▸ h⟩, fun _ _ => trivial⟩

theorem keeps_send {action : String} {method : Method} {path : String} {body : Option Body}
    (h : P { method, path, body }) : Sender.Keeps b P (send action method path body) fun _ => True :=
  keeps_bind (keeps_perform h) fun _ _ => keeps_ofOutcome _

end Exchange

/-! ## §4. Requests to a cluster. -/

namespace Cluster

variable {σ : Type} {b : Backend σ} {P : Request → Prop} {index : String}

/-! ### Indexes. -/

theorem sends_indexExists (h : P { method := .head, path := index }) :
    Keeps b P (indexExists index) fun _ => True := by
  refine keeps_bind (Exchange.keeps_perform h) fun response _ => ?_
  split
  · exact keeps_pure trivial
  · split
    · exact keeps_pure trivial
    · exact Exchange.keeps_ofOutcome _

theorem sends_createIndex (schema : String)
    (h : ∀ body, P { method := .put, path := index, body := some (.json body) }) :
    Keeps b P (createIndex index schema) fun _ => True :=
  keeps_bind (Exchange.keeps_ofOutcome _) fun body _ =>
    keeps_bind (Exchange.keeps_send (h body)) fun _ _ => keeps_pure trivial

theorem sends_updateIndex (schema : String)
    (h : ∀ body, P { method := .put, path := index ++ "/_mapping", body := some (.json body) }) :
    Keeps b P (updateIndex index schema) fun _ => True :=
  keeps_bind (Exchange.keeps_ofOutcome _) fun _ _ =>
    keeps_bind (Exchange.keeps_send (h _)) fun _ _ => keeps_pure trivial

theorem sends_deleteIndex (h : P { method := .delete, path := index }) :
    Keeps b P (deleteIndex index) fun _ => True := by
  refine keeps_bind (Exchange.keeps_perform h) fun response _ => ?_
  split
  · exact keeps_pure trivial
  · exact keeps_bind (Exchange.keeps_ofOutcome _) fun _ _ => keeps_pure trivial

/-- Nothing is sent for an index without aliases. -/
theorem sends_createAliases {names : List String}
    (h : names ≠ [] → P { method := .post, path := "_aliases"
                          body := some (.json
                            (.object [("actions", .arr (names.map (addAlias index)))])) }) :
    Keeps b P (createAliases index names) fun _ => True := by
  unfold createAliases
  split
  · exact keeps_pure trivial
  · rename_i hsome
    have hnil : names ≠ [] := fun heq => hsome (List.isEmpty_iff.2 heq)
    exact keeps_bind (Exchange.keeps_send (h hnil)) fun _ _ => keeps_pure trivial

/-! ### Documents. -/

theorem sends_putDocument (action : String) {d : Document} (h : P (putRequest index d)) :
    Keeps b P (putDocument action index d) fun _ => True :=
  keeps_bind (Exchange.keeps_send h) fun _ _ => keeps_pure trivial

/-- Nothing is sent for a script without operations. -/
theorem sends_patchDocument {e : Engine} {id : String} {s : Script} (h : P (patchRequest e index id s)) :
    Keeps b P (patchDocument e index id s) fun _ => True := by
  unfold patchDocument
  split
  · exact keeps_pure trivial
  · exact keeps_bind (Exchange.keeps_send h) fun _ _ => keeps_pure trivial

theorem sends_deleteDocument {id : String} (h : P (deleteRequest index id)) :
    Keeps b P (deleteDocument index id) fun _ => True := by
  refine keeps_bind (Exchange.keeps_perform h) fun response _ => ?_
  split
  · exact keeps_pure trivial
  · exact keeps_bind (Exchange.keeps_ofOutcome _) fun _ _ => keeps_pure trivial

theorem sends_documentById {id : String} (h : P { method := .get, path := index ++ "/_doc/" ++ id }) :
    Keeps b P (documentById index id) fun _ => True := by
  refine keeps_bind (Exchange.keeps_perform h) fun response _ => ?_
  split
  · exact keeps_pure trivial
  · refine keeps_bind (Exchange.keeps_ofOutcome _) fun body _ => ?_
    split
    · exact keeps_pure trivial
    · exact keeps_pure trivial

/-- Nothing is sent for no documents. -/
theorem sends_createDocuments {ds : List Document}
    (h : ds ≠ [] → P { method := .post, path := "_bulk?refresh=true"
                       body := some (.lines (ds.flatMap (bulkLines index))) }) :
    Keeps b P (createDocuments index ds) fun _ => True := by
  unfold createDocuments
  split
  · exact keeps_pure trivial
  · rename_i hsome
    have hnil : ds ≠ [] := fun heq => hsome (List.isEmpty_iff.2 heq)
    exact keeps_bind (Exchange.keeps_send (h hnil)) fun _ _ => Exchange.keeps_ofOutcome _

/-! ### Searches. -/

theorem sends_runSearch {body : Json}
    (h : P { method := .post, path := index ++ "/_search", body := some (.json body) }) :
    Keeps b P (runSearch index body) fun _ => True :=
  keeps_bind (Exchange.keeps_send h) fun _ _ => Exchange.keeps_ofOutcome _

theorem sends_suggest {r : SuggestRequest}
    (h : P { method := .post, path := r.index ++ "/_search", body := some (.json (suggestBody r)) }) :
    Keeps b P (suggest r) fun _ => True :=
  keeps_bind (Exchange.keeps_send h) fun _ _ =>
    keeps_bind (Exchange.keeps_ofOutcome _) fun _ _ => keeps_pure trivial

/-! ### Writes by query. -/

section ByQuery

variable {e : Engine} {aliases : List String} {q : Query}

/-- Nothing is sent to no indexes, and nothing for a script without operations. -/
theorem sends_updateByQuery {s : Script} (h : aliases ≠ [] → P (updateByQueryRequest e aliases q s)) :
    Keeps b P (updateByQuery e aliases q s) fun _ => True := by
  unfold updateByQuery
  split
  · exact keeps_pure trivial
  · rename_i hsome
    rw [Bool.or_eq_true, not_or] at hsome
    have hnil : aliases ≠ [] := fun heq => hsome.1 (List.isEmpty_iff.2 heq)
    exact keeps_bind (Exchange.keeps_send (h hnil)) fun _ _ => keeps_pure trivial

theorem sends_deleteByQuery (h : aliases ≠ [] → P (deleteByQueryRequest e aliases q)) :
    Keeps b P (deleteByQuery e aliases q) fun _ => True := by
  unfold deleteByQuery
  split
  · exact keeps_pure trivial
  · rename_i hsome
    have hnil : aliases ≠ [] := fun heq => hsome (List.isEmpty_iff.2 heq)
    exact keeps_bind (Exchange.keeps_send (h hnil)) fun _ _ => keeps_pure trivial

end ByQuery

/-- **A cascade sends its request or nothing.** -/
theorem sends_applyCascade {e : Engine} {r : Registry} {op : CascadeOp}
    (h : op.targets r ≠ [] → P (op.request e r)) :
    Keeps b P (applyCascade e r op) fun _ => True := by
  cases op with
  | update u => exact sends_updateByQuery h
  | deleteMatching aliases ms =>
    show Keeps b P (deleteMatching e aliases ms) _
    unfold deleteMatching
    split
    · exact Exchange.keeps_ofOutcome _
    · exact sends_deleteByQuery h
  | flagMatching aliases ms s => exact sends_updateByQuery h
  | rename index oldStart newStart field => exact sends_updateByQuery h

end Cluster

/-! ## §5. Buffers. -/

namespace BulkBuffer

variable {σ : Type} {b : Backend σ} {P : Request → Prop} {buffer : BulkBuffer}
  (hsend : ∀ ds, Keeps b P (Cluster.createDocuments buffer.index ds) fun _ => True)

include hsend

/-- A buffer sends what creating documents in its index sends, and it stays with its index. -/
theorem keeps_flush : Keeps b P buffer.flush fun result => result.2.index = buffer.index := by
  intro link
  obtain ⟨hsent, -⟩ := hsend buffer.waiting link
  show Extends _ _ (buffer.flush.run b link).2.sent ∧ ∀ result, (buffer.flush.run b link).1 = .ok result → _
  dsimp only [flush, Exchange.run, ExceptT.run] at hsent ⊢
  split
  · exact ⟨Extends.refl link.sent, fun result heq => by cases heq; rfl⟩
  · -- the index is the same, whether the request succeeds or not
    split
    · rename_i hrun
      rw [hrun] at hsent
      exact ⟨hsent, fun result heq => by cases heq; rfl⟩
    · rename_i hrun
      rw [hrun] at hsent
      exact ⟨hsent, fun result heq => by cases heq; rfl⟩

theorem keeps_add (d : Document) :
    Keeps b P (buffer.add d) fun result => result.2.index = buffer.index := by
  unfold add
  dsimp only
  split
  · -- the buffer that is flushed has one more document, and the same index
    have hfuller : ∀ ds, Keeps b P
        (Cluster.createDocuments ({ buffer with waiting := buffer.waiting ++ [d] } : BulkBuffer).index ds)
        fun _ => True := hsend
    exact keeps_flush hfuller
  · exact keeps_pure rfl

theorem keeps_finish : Keeps b P buffer.finish fun _ => True :=
  keeps_bind (keeps_flush hsend) fun _ _ =>
    keeps_bind (Exchange.keeps_ofOutcome _) fun _ _ => keeps_pure trivial

end BulkBuffer

end CatalogIndex
