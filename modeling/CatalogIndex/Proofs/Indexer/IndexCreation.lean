/-
  CatalogIndex.Proofs.Indexer.IndexCreation — what is left of a cluster when an index is made in
  several attempts.

  Making an index takes three requests: one that asks whether it is there, one that makes it, and one
  that lets it belong to its aliases.  Any of them may be refused, and the next call starts over.  A
  call that finds the index stops there, so the aliases are asked for in the call that makes the index
  and never again: where that one request was refused, the index stays without its aliases, however
  many calls follow.

  A call is described once (`creates_createIndex`), as one of four ways in which it can go; what a
  sequence of calls leaves behind follows by induction (`holdings_afterCreations`).

  ## Main definitions

    * `Holdings` — the indexes of a cluster, with their aliases;
    * `Refusals` — which requests a cluster refuses;
    * `Creates` — the ways in which a call can go;
    * `afterCreations` — what has passed after several calls.

  ## Main results

    * `creates_createIndex` — a call goes in one of these ways;
    * `holdings_afterCreations` — the first call that makes the index settles its aliases;
    * `aliases_afterCreation_iff` — when an index has its aliases after a call without refusals;
    * `aliases_lost_after_refusal` — an index that stays without them.
-/
import CatalogIndex.Indexer.Admin
import CatalogIndex.Proofs.Indexer.Isolation

namespace CatalogIndex

/-! ## §1. A cluster with indexes and aliases. -/

/-- The indexes of a cluster: the aliases that an index belongs to, if the index is there. -/
abbrev Holdings := String → Option (List String)

/-- A response that says no more than its status. -/
def statusOnly (status : Nat) : Outcome Response := .ok { status, body := .null }

/-- The index and the alias of an action that adds an alias. -/
def addedAlias? (action : Json) : Option (String × String) := do
  let index ← (action.path? ["add", "index"]).bind Json.asStr?
  let name ← (action.path? ["add", "alias"]).bind Json.asStr?
  some (index, name)

/-- The indexes and aliases of the actions in a body. -/
def addedAliases : Option Body → List (String × String)
  | some (.json v) => (((v.field? "actions").bind Json.asArr?).getD []).filterMap addedAlias?
  | _ => []

namespace Holdings

/-- One more index, which belongs to no alias yet. -/
def create (h : Holdings) (index : String) : Holdings := Function.update h index (some [])

/-- One more alias of an index. -/
def join (h : Holdings) (added : String × String) : Holdings :=
  Function.update h added.1 ((h added.1).map (· ++ [added.2]))

/-- What the cluster answers to a request, and what it holds then.  An index is made once; aliases are
    added together, or not at all if one of the indexes is missing. -/
def serve (r : Request) (h : Holdings) : Outcome Response × Holdings :=
  match r.method with
  | .head => (statusOnly (if (h r.path).isSome then 200 else 404), h)
  | .put => if (h r.path).isSome then (statusOnly 400, h) else (statusOnly 200, h.create r.path)
  | .post =>
    if r.path = "_aliases" && (addedAliases r.body).all fun added => (h added.1).isSome then
      (statusOnly 200, (addedAliases r.body).foldl join h)
    else (statusOnly 404, h)
  | _ => (statusOnly 400, h)

end Holdings

/-- Which requests a cluster refuses during a call, and with which reply: a lost connection, or a
    status that is no success.  A call sends no request twice, so this covers every way in which its
    requests can be refused. -/
structure Refusals where
  reply? : Request → Option (Outcome Response)
  refuses : ∀ r reply, reply? r = some reply → isAccepted Response.isSuccess reply = false

namespace Refusals

/-- The request is not refused. -/
def admits (f : Refusals) (r : Request) : Bool := (f.reply? r).isNone

/-- A cluster that refuses these requests, and does nothing about them. -/
def cluster (f : Refusals) : Backend Holdings := fun r h =>
  match f.reply? r with
  | some reply => (reply, h)
  | none => h.serve r

variable {f : Refusals} {r : Request} {h : Holdings}

theorem cluster_of_admits (hadmits : f.admits r = true) : f.cluster r h = h.serve r := by
  unfold cluster
  rw [Option.isNone_iff_eq_none.1 hadmits]

/-- A request that is refused has no effect. -/
theorem cluster_of_refuses (hrefuses : f.admits r = false) :
    isAccepted Response.isSuccess (f.cluster r h).1 = false ∧ (f.cluster r h).2 = h := by
  unfold cluster
  unfold admits at hrefuses
  cases hreply : f.reply? r with
  | none =>
    rw [hreply] at hrefuses
    cases hrefuses
  -- a reply in the place of an answer is never one that is accepted
  | some reply => exact ⟨f.refuses r reply hreply, rfl⟩

/-- Nothing is refused. -/
def none : Refusals := ⟨fun _ => .none, fun _ _ h => by cases h⟩

end Refusals

/-! ## §2. The three requests. -/

namespace Cluster

variable {σ : Type}

/-- The request that asks whether an index is there. -/
def existsRequest (index : String) : Request := { method := .head, path := index }

/-- The request that makes an index. -/
def createRequest (index : String) (schema : Json) : Request :=
  { method := .put, path := index, body := some (.json schema) }

/-- The request that lets an index belong to aliases. -/
def aliasesRequest (index : String) (names : List String) : Request :=
  { method := .post, path := "_aliases"
    body := some (.json (.object [("actions", .arr (names.map (addAlias index)))])) }

theorem asksOnce_createIndex (index : String) {schema : String} {v : Json}
    (h : Json.parse? schema = some v) :
    AsksOnce (σ := σ) (createIndex index schema) (createRequest index v) Response.isSuccess := by
  have hvalue : schemaValue schema = .ok v := by
    unfold schemaValue
    rw [h]
  unfold createIndex
  rw [hvalue]
  exact asksOnce_send _ _ _ _

theorem asksOnce_createAliases (index : String) {names : List String} (h : names ≠ []) :
    AsksOnce (σ := σ) (createAliases index names) (aliasesRequest index names)
      Response.isSuccess := by
  unfold createAliases
  rw [List.isEmpty_eq_false_iff.2 h]
  exact asksOnce_send _ _ _ _

theorem addedAlias?_addAlias (index name : String) :
    addedAlias? (addAlias index name) = some (index, name) := by
  simp [addedAlias?, addAlias, Json.path?, Json.field?_object, Keyed.get?, Json.asStr?]

theorem addedAliases_aliasesRequest (index : String) (names : List String) :
    addedAliases (aliasesRequest index names).body = names.map (index, ·) := by
  show (names.map (addAlias index)).filterMap addedAlias? = _
  rw [List.filterMap_map]
  simp [addedAlias?_addAlias]

/-- The reply says that the index is there. -/
def saysThere : Outcome Response → Bool
  | .ok response => response.status = 200
  | .error _ => false

/-- Whether an index is there is asked with one request, and only one status says that it is. -/
theorem run_indexExists (index : String) (b : Backend σ) (link : Link σ) :
    ((indexExists index).run b link).2 = link.after b (existsRequest index)
      ∧ (((indexExists index).run b link).1.toOption.getD false
        = saysThere (b (existsRequest index) link.state).1) := by
  have hrun : (indexExists index).run b link
      = (Exchange.perform (existsRequest index) >>= fun response =>
          if response.status = 200 then pure true
          else if response.status = 404 then pure false
          else Exchange.ofOutcome (.error (.existenceUnknown index response.status))).run b link := rfl
  rw [hrun, Exchange.run_bind, Exchange.run_perform]
  cases (b (existsRequest index) link.state).1 with
  | error e => exact ⟨rfl, rfl⟩
  | ok response =>
    -- 200 says that it is there and 404 that it is not; any other status is an error, and counts as not
    by_cases hfound : response.status = 200
    · simp only [saysThere, hfound]
      exact ⟨rfl, rfl⟩
    · by_cases hmissing : response.status = 404
      · simp only [saysThere, hmissing]
        exact ⟨rfl, rfl⟩
      · simp only [saysThere, hfound, hmissing]
        exact ⟨rfl, rfl⟩

end Cluster

/-! ## §3. What the cluster makes of them. -/

namespace Refusals

open Cluster

variable (f : Refusals) (index : String) (h : Holdings)

/-- The question is answered truthfully unless it is refused. -/
theorem cluster_existsRequest :
    saysThere (f.cluster (existsRequest index) h).1
        = (f.admits (existsRequest index) && (h index).isSome)
      ∧ (f.cluster (existsRequest index) h).2 = h := by
  cases hadmits : f.admits (existsRequest index) with
  | true =>
    rw [cluster_of_admits hadmits]
    refine ⟨?_, rfl⟩
    show decide ((if (h index).isSome then 200 else 404) = 200) = (true && (h index).isSome)
    by_cases hthere : (h index).isSome = true <;> simp [hthere]
  | false =>
    obtain ⟨hrefused, hheld⟩ := cluster_of_refuses (h := h) hadmits
    refine ⟨?_, hheld⟩
    cases hreply : (f.cluster (existsRequest index) h).1 with
    | error e => rfl
    | ok response =>
      -- the status that says so is a success, and refusals are none
      rw [hreply] at hrefused
      by_cases hstatus : response.status = 200
      · simp [isAccepted, Response.isSuccess, hstatus] at hrefused
      · simp [saysThere, hstatus]

/-- An index is made if it is not there and the request is not refused; else nothing happens. -/
theorem cluster_createRequest (schema : Json) :
    isAccepted Response.isSuccess (f.cluster (createRequest index schema) h).1
        = (f.admits (createRequest index schema) && (h index).isNone)
      ∧ (f.cluster (createRequest index schema) h).2
        = if f.admits (createRequest index schema) && (h index).isNone then h.create index else h := by
  cases hadmits : f.admits (createRequest index schema) with
  | true =>
    rw [cluster_of_admits hadmits]
    have hserve : h.serve (createRequest index schema)
        = if (h index).isSome then (statusOnly 400, h) else (statusOnly 200, h.create index) := rfl
    rw [hserve]
    cases hheld : h index with
    | none => exact ⟨rfl, rfl⟩
    | some names => exact ⟨rfl, rfl⟩
  | false => exact cluster_of_refuses hadmits

theorem foldl_join (names aliases : List String) (hheld : h index = some aliases) :
    (names.map (index, ·)).foldl Holdings.join h index = some (aliases ++ names) := by
  -- the aliases that the index has already are those of the steps before
  induction names generalizing h aliases with
  | nil => simpa using hheld
  | cons name rest ih =>
    have hjoined : h.join (index, name) index = some (aliases ++ [name]) := by
      simp [Holdings.join, hheld]
    rw [List.map_cons, List.foldl_cons, ih _ _ hjoined, List.append_assoc]
    rfl

/-- An index that is there gets all the aliases, or none if the request is refused. -/
theorem cluster_aliasesRequest (names aliases : List String) (hheld : h index = some aliases) :
    isAccepted Response.isSuccess (f.cluster (aliasesRequest index names) h).1
        = f.admits (aliasesRequest index names)
      ∧ (f.cluster (aliasesRequest index names) h).2 index
        = some (if f.admits (aliasesRequest index names) then aliases ++ names else aliases) := by
  cases hadmits : f.admits (aliasesRequest index names) with
  | true =>
    have hthere : ((names.map (index, ·)).all fun added => (h added.1).isSome) = true := by
      simp [hheld]
    have hserve : h.serve (aliasesRequest index names)
        = (statusOnly 200, (names.map (index, ·)).foldl Holdings.join h) := by
      show (if _ && (addedAliases _).all _ then _ else _) = _
      rw [addedAliases_aliasesRequest, hthere]
      rfl
    rw [cluster_of_admits hadmits, hserve]
    exact ⟨rfl, foldl_join index h names aliases hheld⟩
  | false =>
    obtain ⟨hrefused, hsame⟩ := cluster_of_refuses (h := h) hadmits
    refine ⟨hrefused, ?_⟩
    rw [hsame, hheld]
    rfl

end Refusals

/-! ## §4. One call. -/

open Cluster

/-- The ways in which a call to make an index can go: the requests that it sends, and the aliases of
    the index before and after, where it is there. -/
inductive Creates (f : Refusals) (index : String) (schema : Json) (names : List String) :
    Option (List String) → List Request → Option (List String) → Prop where
  /-- The index is found. -/
  | found (aliases : List String) (hexists : f.admits (existsRequest index) = true) :
    Creates f index schema names (some aliases) [existsRequest index] (some aliases)
  /-- The index is not found, although it may be there, and is not made. -/
  | unmade (held : Option (List String))
    (hexists : held.isSome = true → f.admits (existsRequest index) = false)
    (hcreate : held = none → f.admits (createRequest index schema) = false) :
    Creates f index schema names held [existsRequest index, createRequest index schema] held
  /-- The index is made, and gets no alias. -/
  | bare (hcreate : f.admits (createRequest index schema) = true)
    (haliases : f.admits (aliasesRequest index names) = false) :
    Creates f index schema names none
      [existsRequest index, createRequest index schema, aliasesRequest index names] (some [])
  /-- The index is made with its aliases. -/
  | complete (hcreate : f.admits (createRequest index schema) = true)
    (haliases : f.admits (aliasesRequest index names) = true) :
    Creates f index schema names none
      [existsRequest index, createRequest index schema, aliasesRequest index names] (some names)

/-- What has passed after one more call to make the index of a mapping. -/
def afterCreation (m : IndexMapping) (i : Indexer Holdings) (s : Session Holdings) (f : Refusals) :
    Session Holdings :=
  ((Indexing.createIndex m).run { i with backend := f.cluster } s).2

section Call

variable {m : IndexMapping} {i : Indexer Holdings} {s : Session Holdings} {f : Refusals}

/-- Whether there is an index is found out with one request, if that is not refused. -/
theorem Indexing.run_indexExists :
    (Indexing.indexExists m).run { i with backend := f.cluster } s
      = (f.admits (existsRequest (m.index i.registry.clusterAlias))
            && (s.link.state (m.index i.registry.clusterAlias)).isSome,
          { s with link := s.link.after f.cluster (existsRequest (m.index i.registry.clusterAlias)) }) := by
  obtain ⟨hlink, hfound⟩ :=
    Cluster.run_indexExists (m.index i.registry.clusterAlias) f.cluster s.link
  obtain ⟨hreported, -⟩ := f.cluster_existsRequest (m.index i.registry.clusterAlias) s.link.state
  have hrun : (Indexing.indexExists m).run { i with backend := f.cluster } s
      = Indexing.run (match ((Cluster.indexExists (m.index i.registry.clusterAlias)).run f.cluster
            s.link).1 with
          | .ok found => pure found
          | .error _ => pure false) { i with backend := f.cluster }
          { s with link := ((Cluster.indexExists (m.index i.registry.clusterAlias)).run f.cluster
            s.link).2 } := rfl
  rw [hrun, hlink, ← hreported, ← hfound]
  cases ((Cluster.indexExists (m.index i.registry.clusterAlias)).run f.cluster s.link).1 <;> rfl

/-- What a call does that did not find the index. -/
def makeIndex (index schema : String) (names : List String) : Attempt Holdings Unit := do
  Attempt.exchange fun _ => Cluster.createIndex index schema
  Attempt.exchange fun _ => Cluster.createAliases index names

/-- A call goes on to make the index unless it finds it. -/
theorem afterCreation_eq {schema : String} (hschema : i.registry.readSchema i.fileText m = .ok schema)
    {index : String} (hindex : m.index i.registry.clusterAlias = index) :
    let asked : Session Holdings :=
      { s with link := s.link.after f.cluster (existsRequest index) }
    afterCreation m i s f
      = if f.admits (existsRequest index) && (s.link.state index).isSome then asked
        else ((makeIndex index schema (m.allAliases i.registry.clusterAlias)).run
          { i with backend := f.cluster } asked).2 := by
  subst hindex
  have hrun : afterCreation m i s f
      = (Attempt.run (if ((Indexing.indexExists m).run { i with backend := f.cluster } s).1 = true
          then pure ()
          else Indexing.schemaOf m >>= fun schema => do
            Attempt.exchange fun _ => Cluster.createIndex (m.index i.registry.clusterAlias) schema
            Indexing.joinAliases m (m.index i.registry.clusterAlias)) { i with backend := f.cluster }
          ((Indexing.indexExists m).run { i with backend := f.cluster } s).2).2 := rfl
  rw [hrun, Indexing.run_indexExists]
  dsimp only
  split
  · rfl
  · show (Attempt.run (Attempt.ask _ >>= _) _ _).2 = _
    rw [Attempt.run_ask_bind]
    dsimp only
    rw [hschema]
    unfold makeIndex
    dsimp only
    rw [Attempt.run_bind, Attempt.run_bind]
    rcases Attempt.run _ _ _ with ⟨_ | _, t⟩ <;> rfl

/-- An index that was made is given its aliases, and one that was not made is left at that. -/
theorem link_makeIndex {index schema : String} {v : Json} (hjson : Json.parse? schema = some v)
    {names : List String} (hnames : names ≠ []) :
    ((makeIndex index schema names).run { i with backend := f.cluster } s).2.link
      = if f.admits (createRequest index v) && (s.link.state index).isNone then
          (s.link.after f.cluster (createRequest index v)).after f.cluster
            (aliasesRequest index names)
        else s.link.after f.cluster (createRequest index v) := by
  obtain ⟨hmade, -⟩ := f.cluster_createRequest index s.link.state v
  unfold makeIndex
  rw [Attempt.run_bind]
  -- the cluster accepts the request to make the index exactly if it makes the index
  rcases Attempt.run_exchange (i := { i with backend := f.cluster })
      (x := fun _ => Cluster.createIndex index schema) (asksOnce_createIndex index hjson) s with
    ⟨haccepted, _, hrun⟩ | ⟨hrefused, _, hrun⟩
  · have hmakes := hmade.symm.trans haccepted
    rw [hrun, hmakes, if_pos rfl]
    exact (asksOnce_createAliases index hnames f.cluster _).1
  · have hmakes := hmade.symm.trans hrefused
    rw [hrun, hmakes]
    rfl

/-- **A call goes in one of four ways.** -/
theorem creates_createIndex {schema : String} {v : Json}
    (hschema : i.registry.readSchema i.fileText m = .ok schema) (hjson : Json.parse? schema = some v)
    {names : List String} (hnames : m.allAliases i.registry.clusterAlias = names) (hne : names ≠ [])
    {index : String} (hindex : m.index i.registry.clusterAlias = index) :
    ∃ requests, (afterCreation m i s f).link.sent = s.link.sent ++ requests
      ∧ Creates f index v names (s.link.state index) requests
          ((afterCreation m i s f).link.state index) := by
  have hasked : (s.link.after f.cluster (existsRequest index)).state = s.link.state :=
    (f.cluster_existsRequest index s.link.state).2
  have hcreated : ((s.link.after f.cluster (existsRequest index)).after f.cluster
        (createRequest index v)).state
      = if f.admits (createRequest index v) && (s.link.state index).isNone then
          s.link.state.create index else s.link.state := by
    show (f.cluster _ (s.link.after f.cluster (existsRequest index)).state).2 = _
    rw [hasked]
    exact (f.cluster_createRequest index s.link.state v).2
  rw [afterCreation_eq hschema hindex, hnames]
  split
  · -- the index is found
    rename_i hfound
    obtain ⟨hexists, hthere⟩ := Bool.and_eq_true_iff.1 hfound
    obtain ⟨aliases, haliases⟩ := Option.isSome_iff_exists.1 hthere
    refine ⟨_, rfl, ?_⟩
    rw [hasked, haliases]
    exact .found aliases hexists
  · rename_i hmissed
    rw [link_makeIndex hjson hne]
    dsimp only
    rw [hasked]
    split
    · -- the index is made, and the last request decides about its aliases
      rename_i hmakes
      obtain ⟨hcreate, hmissing⟩ := Bool.and_eq_true_iff.1 hmakes
      have hheld : s.link.state index = none := Option.isNone_iff_eq_none.1 hmissing
      rw [if_pos hmakes] at hcreated
      have hbare : s.link.state.create index index = some [] := by simp [Holdings.create]
      obtain ⟨-, hjoined⟩ :=
        f.cluster_aliasesRequest index (s.link.state.create index) names [] hbare
      refine ⟨[existsRequest index, createRequest index v, aliasesRequest index names], ?_, ?_⟩
      · simp [Link.after]
      · show Creates f index v names _ _ ((f.cluster _ (Link.state _)).2 index)
        rw [hcreated, hheld, hjoined]
        cases haliases : f.admits (aliasesRequest index names) with
        | true => exact .complete hcreate haliases
        | false => exact .bare hcreate haliases
    · -- the index is not made, and nothing changes
      rename_i hmakes
      refine ⟨[existsRequest index, createRequest index v], ?_, ?_⟩
      · simp [Link.after]
      · rw [hcreated, if_neg hmakes]
        refine .unmade _ (fun hthere => ?_) fun hheld => ?_
        · rw [hthere, Bool.and_true] at hmissed
          exact Bool.eq_false_iff.2 hmissed
        · rw [hheld, Option.isNone_none, Bool.and_true] at hmakes
          exact Bool.eq_false_iff.2 hmakes

end Call

/-! ## §5. Many calls. -/

/-- What has passed after several calls, each of which meets refusals of its own. -/
def afterCreations (m : IndexMapping) (i : Indexer Holdings) (s : Session Holdings)
    (calls : List Refusals) : Session Holdings :=
  calls.foldl (afterCreation m i) s

/-- The aliases of an index after several calls to make it: they are settled by the first call whose
    request to make the index is not refused. -/
def aliasesAfter (index : String) (schema : Json) (names : List String) (calls : List Refusals) :
    Option (List String) :=
  (calls.find? (·.admits (createRequest index schema))).map fun f =>
    if f.admits (aliasesRequest index names) then names else []

section Calls

variable {m : IndexMapping} {i : Indexer Holdings} {schema : String} {v : Json} {index : String}
  {names : List String}

/-- An index that is there is left as it is, whether a call finds it or not. -/
theorem afterCreations_of_there (hschema : i.registry.readSchema i.fileText m = .ok schema)
    (hjson : Json.parse? schema = some v) (hnames : m.allAliases i.registry.clusterAlias = names)
    (hne : names ≠ []) (hindex : m.index i.registry.clusterAlias = index) (calls : List Refusals)
    {s : Session Holdings} {aliases : List String} (hheld : s.link.state index = some aliases) :
    (afterCreations m i s calls).link.state index = some aliases := by
  induction calls generalizing s with
  | nil => exact hheld
  | cons f rest ih =>
    refine ih (s := afterCreation m i s f) ?_
    obtain ⟨requests, -, hcreates⟩ :=
      creates_createIndex (s := s) (f := f) hschema hjson hnames hne hindex
    rw [hheld] at hcreates
    -- of the four ways, the two that start with an index end with the same aliases
    generalize (afterCreation m i s f).link.state index = after at hcreates
    cases hcreates <;> rfl

/-- **The first call that makes the index settles its aliases.** -/
theorem holdings_afterCreations (hschema : i.registry.readSchema i.fileText m = .ok schema)
    (hjson : Json.parse? schema = some v) (hnames : m.allAliases i.registry.clusterAlias = names)
    (hne : names ≠ []) (hindex : m.index i.registry.clusterAlias = index) (calls : List Refusals)
    {s : Session Holdings} (hheld : s.link.state index = none) :
    (afterCreations m i s calls).link.state index = aliasesAfter index v names calls := by
  induction calls generalizing s with
  | nil => exact hheld
  | cons f rest ih =>
    obtain ⟨requests, -, hcreates⟩ :=
      creates_createIndex (s := s) (f := f) hschema hjson hnames hne hindex
    rw [hheld] at hcreates
    show (afterCreations m i (afterCreation m i s f) rest).link.state index = _
    unfold aliasesAfter
    generalize hafter : (afterCreation m i s f).link.state index = after at hcreates
    cases hcreates with
    | unmade _ hexists hcreate =>
      -- this call settles nothing, and the others start from where it started
      rw [ih hafter]
      simp [aliasesAfter, hcreate rfl]
    | bare hcreate haliases =>
      rw [afterCreations_of_there hschema hjson hnames hne hindex rest hafter]
      simp [hcreate, haliases]
    | complete hcreate haliases =>
      rw [afterCreations_of_there hschema hjson hnames hne hindex rest hafter]
      simp [hcreate, haliases]

end Calls

/-- **After a call without refusals the index is there; it has its aliases exactly if the call that
    made it was not refused them.**  Where the last call made it, it has them; otherwise it was made by
    the first of the earlier calls whose request for that was not refused. -/
theorem aliases_afterCreation_iff {m : IndexMapping} {i : Indexer Holdings} {schema : String} {v : Json}
    (hschema : i.registry.readSchema i.fileText m = .ok schema) (hjson : Json.parse? schema = some v)
    (hnames : m.allAliases i.registry.clusterAlias ≠ []) {s : Session Holdings}
    (hnew : s.link.state (m.index i.registry.clusterAlias) = none) (calls : List Refusals)
    {last : Refusals}
    (hlast : ∀ r ∈ (afterCreations m i s (calls ++ [last])).link.sent.drop
      (afterCreations m i s calls).link.sent.length, last.admits r = true) :
    ∃ aliases, (afterCreations m i s (calls ++ [last])).link.state (m.index i.registry.clusterAlias)
        = some aliases
      ∧ ((∀ name ∈ m.allAliases i.registry.clusterAlias, name ∈ aliases)
        ↔ ∀ f, calls.find? (·.admits (createRequest (m.index i.registry.clusterAlias) v)) = some f →
            f.admits (aliasesRequest (m.index i.registry.clusterAlias)
              (m.allAliases i.registry.clusterAlias)) = true) := by
  have hbefore := holdings_afterCreations hschema hjson rfl hnames rfl calls hnew
  have hstep : afterCreations m i s (calls ++ [last])
      = afterCreation m i (afterCreations m i s calls) last := by
    unfold afterCreations
    rw [List.foldl_append]
    rfl
  obtain ⟨requests, hsent, hcreates⟩ :=
    creates_createIndex (s := afterCreations m i s calls) (f := last) hschema hjson rfl hnames rfl
  rw [hstep, hsent, List.drop_left] at hlast
  rw [hstep]
  rw [hbefore] at hcreates
  unfold aliasesAfter at hcreates
  generalize (afterCreation m i (afterCreations m i s calls) last).link.state
    (m.index i.registry.clusterAlias) = after at hcreates
  cases hfirst : calls.find? (·.admits (createRequest (m.index i.registry.clusterAlias) v)) with
  | none =>
    -- the last call makes the index, and none of its three requests is refused
    rw [hfirst] at hcreates
    cases hcreates with
    | unmade _ hexists hcreate =>
      have hadmitted := hlast _ (List.mem_cons_of_mem _ List.mem_cons_self)
      rw [hcreate rfl] at hadmitted
      cases hadmitted
    | bare hcreate haliases =>
      have hadmitted :=
        hlast _ (List.mem_cons_of_mem _ (List.mem_cons_of_mem _ List.mem_cons_self))
      rw [haliases] at hadmitted
      cases hadmitted
    | complete hcreate haliases => exact ⟨_, rfl, by simp⟩
  | some f =>
    -- the index was there before, and is left as it is
    rw [hfirst] at hcreates
    have hsame : after = some (if f.admits (aliasesRequest (m.index i.registry.clusterAlias)
        (m.allAliases i.registry.clusterAlias)) then m.allAliases i.registry.clusterAlias else []) := by
      cases hcreates <;> rfl
    refine ⟨_, hsame, ?_⟩
    cases haliases : f.admits (aliasesRequest (m.index i.registry.clusterAlias)
        (m.allAliases i.registry.clusterAlias)) with
    | true => simp [haliases]
    | false => simpa [haliases] using List.exists_mem_of_ne_nil _ hnames

/-- The index of the pages. -/
def pageMapping : IndexMapping :=
  { indexName := "page_search_index", aliasName := "page", parentAliases := ["all"]
    indexMappingFile := "page.json" }

/-- An indexer with a schema for the pages. -/
def pageIndexer : Indexer Holdings where
  config := {}
  registry := { mappings := [("page", pageMapping)], clusterAlias := "", language := "en", schemaRoot := "" }
  fileText _ := some "{}"
  backend := Refusals.none.cluster

theorem pageSchema_read :
    pageIndexer.registry.readSchema pageIndexer.fileText pageMapping = .ok "{}" := rfl

theorem emptyObject_read : Json.parse? "{}" = some (.obj []) := by decide +kernel

/-- A cluster that holds nothing. -/
def emptyCluster : Session Holdings := { link := { state := fun _ => none } }

/-- Requests to one path are refused. -/
def Refusals.ofPath (path : String) : Refusals where
  reply? r := if r.path = path then some (statusOnly 500) else .none
  refuses r reply h := by
    split at h
    · cases h
      rfl
    · cases h

/-- An index that could not be made at first is made with its aliases by the next call. -/
theorem aliases_afterCreation_page :
    ∃ aliases, (afterCreations pageMapping pageIndexer emptyCluster
        [.ofPath "page_search_index", .none]).link.state "page_search_index" = some aliases
      ∧ "page" ∈ aliases ∧ "all" ∈ aliases := by
  have hadmitted : ∀ r ∈ (afterCreations pageMapping pageIndexer emptyCluster
      ([.ofPath "page_search_index"] ++ [.none])).link.sent.drop (afterCreations pageMapping pageIndexer
        emptyCluster [.ofPath "page_search_index"]).link.sent.length,
      Refusals.none.admits r = true := fun _ _ => rfl
  obtain ⟨aliases, hheld, hall⟩ := aliases_afterCreation_iff pageSchema_read emptyObject_read
    (by decide) (s := emptyCluster) rfl [.ofPath "page_search_index"] hadmitted
  have hnames : ∀ name ∈ ["page", "all"], name ∈ aliases := hall.2 fun f hf => by cases hf
  exact ⟨aliases, hheld, hnames "page" (by decide), hnames "all" (by decide)⟩

/-- **An index that was refused its aliases once never gets them**: the second call is refused nothing,
    and the index still has no alias. -/
theorem aliases_lost_after_refusal :
    pageIndexer.registry.readSchema pageIndexer.fileText pageMapping = .ok "{}"
      ∧ Json.parse? "{}" = some (.obj []) ∧ emptyCluster.link.state "page_search_index" = none
      ∧ (∀ r, Refusals.none.admits r = true)
      ∧ (afterCreations pageMapping pageIndexer emptyCluster [.ofPath "_aliases", .none]).link.state
          "page_search_index" = some []
      ∧ pageMapping.allAliases "" = ["page", "all"] := by
  refine ⟨rfl, emptyObject_read, rfl, fun _ => rfl, ?_, by decide⟩
  exact holdings_afterCreations pageSchema_read emptyObject_read rfl (by decide) rfl
    [.ofPath "_aliases", .none] (s := emptyCluster) rfl

end CatalogIndex
