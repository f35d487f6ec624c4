/-
  CatalogIndex.Proofs.Cluster.Scripts — which scripts an exchange sends.

  A cluster runs a script that comes in the body of a write to one document or to all that match.  Of
  the exchanges, one patches a document and one updates by query, and these send the script that they
  are given, as the engine writes it.  All others send none, whatever they search for or store: the
  bodies of searches have fields of their own, and documents are stored without being run.

  ## Main definitions

    * `Request.script?` — the script that a request brings;
    * `Request.ScriptClosed` — a request without a script, or with a closed one;
    * `SendsClosed` — a program that sends only such requests.

  ## Main results

    * `sendsClosed_patchDocument`, `sendsClosed_applyCascade` — exchanges that send a given script;
    * `sendsClosed_runSearch`, `sendsClosed_putDocument` and others — exchanges that send none.
-/
import CatalogIndex.Cluster.Admin
import CatalogIndex.Cluster.Search
import CatalogIndex.Proofs.Cascade.Scripts
import CatalogIndex.Proofs.Cluster.Sends
import CatalogIndex.Proofs.Keyed

namespace CatalogIndex

/-! ## §1. Scripts in requests. -/

namespace Request

/-- The script that a request brings: documents are stored with another method, and bulk requests have
    lines instead of a value. -/
def script? (r : Request) : Option Json :=
  match r.method, r.body with
  | .post, some (.json v) => v.field? "script"
  | _, _ => none

/-- The request brings no script but one that is closed for the type; without a type, it brings none. -/
def ScriptClosed (e : Engine) (entityType : Option String) (r : Request) : Prop :=
  ∀ v, r.script? = some v → ∃ t s, entityType = some t ∧ v = e.encodeScript s ∧ Script.Closed t s

variable {e : Engine} {entityType : Option String}

theorem scriptClosed_of_none {r : Request} (h : r.script? = none) : r.ScriptClosed e entityType := by
  intro v hv
  rw [h] at hv
  cases hv

/-- Only posted requests bring scripts. -/
theorem scriptClosed_of_method {method : Method} (h : method ≠ .post) (path : String)
    (body : Option Body) : ScriptClosed e entityType { method, path, body } := by
  refine scriptClosed_of_none ?_
  unfold script?
  split
  · rename_i hpost _
    exact absurd hpost h
  · rfl

/-- A body that is put together from other fields brings no script. -/
theorem scriptClosed_of_notMem {fields : List (String × Json)} (h : "script" ∉ fields.map (·.1))
    (method : Method) (path : String) :
    ScriptClosed e entityType { method, path, body := some (.json (.object fields)) } := by
  have hfield : (Json.object fields).field? "script" = none := by
    rw [Json.field?_object]
    -- the last one of a key counts, so the fields are looked through from the end
    refine Keyed.get?_eq_none_of_notMem fun hmem => h ?_
    rwa [List.map_reverse, List.mem_reverse] at hmem
  cases method with
  | post => exact scriptClosed_of_none hfield
  | get | head | put | delete => exact scriptClosed_of_method (by decide) _ _

/-- A body that ends with a closed script. -/
theorem scriptClosed_of_closed {t : String} {s : Script} (h : s.Closed t)
    (fields : List (String × Json)) (path : String) :
    ScriptClosed e (some t)
      { method := .post, path, body := some (.json (.object (fields ++ [("script", e.encodeScript s)]))) } := by
  intro v hv
  change (Json.object (fields ++ [("script", e.encodeScript s)])).field? "script" = some v at hv
  rw [Json.field?_object, List.reverse_append] at hv
  cases hv
  exact ⟨t, s, rfl, rfl, h⟩

end Request

/-- The program sends no scripts but closed ones for the type. -/
abbrev SendsClosed {m : Type → Type} [Monad m] {ε α : Type} [Sender m ε] (env : ε) (e : Engine)
    (entityType : Option String) (x : m α) : Prop :=
  Sender.Keeps env (Request.ScriptClosed e entityType) x fun _ => True

open Request Sender

namespace Cluster

variable {σ : Type} {b : Backend σ} {e : Engine} {entityType : Option String}

/-! ## §2. Searches. -/

section Searches

variable (index : String)

/-- A search whose body is put together from other fields. -/
theorem sendsClosed_runSearch {fields : List (String × Json)} (h : "script" ∉ fields.map (·.1)) :
    SendsClosed b e entityType (runSearch index (.object fields)) :=
  sends_runSearch (scriptClosed_of_notMem h _ _)

theorem sendsClosed_search (engine : Engine) (r : SearchRequest) :
    SendsClosed b e entityType (search engine r) := by
  refine sendsClosed_runSearch _ ?_
  unfold sourceFields Json.present
  -- the filter and the wanted fields are there or not
  repeat' split
  all_goals simp

theorem sendsClosed_suggest (r : SuggestRequest) : SendsClosed b e entityType (suggest r) := by
  refine sends_suggest (scriptClosed_of_notMem ?_ _ _)
  repeat' split
  all_goals simp

theorem sendsClosed_listAfter (engine : Engine) (query : Option String) (filter : Option Query)
    (fields : List String) (sort : SortBy) (size : Nat) (after : Option (List Json)) :
    SendsClosed b e entityType (listAfter engine index query filter fields sort size after) := by
  refine keeps_bind (sendsClosed_runSearch _ ?_) fun _ _ => keeps_pure trivial
  unfold Json.present
  repeat' split
  all_goals simp

theorem sendsClosed_fetchSources (engine : Engine) (q : Query) :
    SendsClosed b e entityType (fetchSources engine index q) :=
  keeps_bind (sendsClosed_runSearch _ (by simp)) fun _ _ => keeps_pure trivial

end Searches

/-! ## §3. Writes. -/

theorem sendsClosed_putDocument (action index : String) (d : Document) :
    SendsClosed b e entityType (putDocument action index d) :=
  sends_putDocument action (scriptClosed_of_method (by decide) _ _)

theorem sendsClosed_deleteDocument (index id : String) :
    SendsClosed b e entityType (deleteDocument index id) :=
  sends_deleteDocument (scriptClosed_of_method (by decide) _ _)

theorem sendsClosed_createDocuments (index : String) (ds : List Document) :
    SendsClosed b e entityType (createDocuments index ds) :=
  sends_createDocuments fun _ => scriptClosed_of_none rfl

theorem scriptClosed_deleteByQuery (engine : Engine) (aliases : List String) (q : Query) :
    ScriptClosed e entityType (deleteByQueryRequest engine aliases q) :=
  scriptClosed_of_notMem (by simp) _ _

variable {t : String} {s : Script}

/-- **A patch brings the script that it is given.** -/
theorem sendsClosed_patchDocument (hs : s.Closed t) (index id : String) :
    SendsClosed b e (some t) (patchDocument e index id s) :=
  sends_patchDocument (scriptClosed_of_closed hs [] _)

theorem scriptClosed_updateByQuery (hs : s.Closed t) (aliases : List String) (q : Query) :
    ScriptClosed e (some t) (updateByQueryRequest e aliases q s) :=
  scriptClosed_of_closed hs [("query", e.encodeQuery q)] _

/-- **A cascade brings its script**, and a deletion none. -/
theorem sendsClosed_applyCascade (r : Registry) {op : CascadeOp} (hop : op.Closed t) :
    SendsClosed b e (some t) (applyCascade e r op) := by
  refine sends_applyCascade fun _ => ?_
  cases op with
  | update u => exact scriptClosed_updateByQuery (hop _ rfl) _ _
  | deleteMatching aliases ms => exact scriptClosed_deleteByQuery _ _ _
  | flagMatching aliases ms script => exact scriptClosed_updateByQuery (hop _ rfl) _ _
  | rename index oldStart newStart field => exact scriptClosed_updateByQuery (hop _ rfl) _ _

end Cluster

end CatalogIndex
