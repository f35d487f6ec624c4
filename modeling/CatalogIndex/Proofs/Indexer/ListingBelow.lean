/-
  CatalogIndex.Proofs.Indexer.ListingBelow — the entities that are listed below a name.

  A listing is one search and what is made of its reply.  The search asks with a pattern, into which the
  name is put as it is; so a name with marks asks for names that are not below it.

  From the reply the listing takes every hit that tells of an entity, and of several hits for one entity
  the first.  Entities are compared by what their id is, not by how it is written, and a hit that lacks a
  part does not stand in the way of a later one.  The reading is told by looking ids up: a pointer is added
  to those that are there unless its id is found among them, so what is found after a run is the first
  pointer with the id.

  ## Main definitions

    * `Indexer.belowCall` — the request of a listing;
    * `Tells` — what a hit says of an entity;
    * `ListsFirst` — pointers to all entities that hits tell of, in order, each by the first hit.

  ## Main results

    * `Indexing.run_entitiesBelow` — a listing is one request, and what its reply brings;
    * `listing_within_iff_plain` — what the pattern asks for, and exactly when that is right;
    * `starred_lists_sibling` — a name that asks for too much;
    * `withId?_addNew`, `withId?_foldl_addNew` — the pointer of an id, after one step and after a run;
    * `references_below` — what a listing returns for every reply.
-/
import CatalogIndex.Proofs.Cascade.Reach
import CatalogIndex.Proofs.Engine.Decoding
import CatalogIndex.Proofs.Indexer.BulkCreation
import CatalogIndex.Proofs.Query.Wildcard
import CatalogIndex.Indexer.Reads

namespace CatalogIndex

variable {σ : Type}

/-! ## §1. The search. -/

/-- An exchange that sends is one request, and the body of its reply. -/
theorem Exchange.run_send (action : String) (method : Method) (path : String) (body : Option Body)
    (b : Backend σ) (link : Link σ) :
    (Exchange.send action method path body).run b link
      = ((b { method, path, body } link.state).1 >>= fun response => response.accepted action,
          link.after b { method, path, body }) := by
  unfold Exchange.send
  rw [Exchange.run_bind, Exchange.run_perform]
  cases (b { method, path, body } link.state).1 <;> rfl

namespace Cluster

/-- The request of a search. -/
def searchCall (e : Engine) (r : SearchRequest) : Request :=
  { method := .post, path := r.index ++ "/_search", body := some (.json (searchBody e r)) }

/-- What a reply to a search brings. -/
def searchReply (reply : Outcome Response) : Outcome SearchResponse :=
  (reply >>= fun response => response.accepted "search") >>= SearchResponse.ofJson

/-- A search is one request, and what its reply brings. -/
theorem run_search (e : Engine) (r : SearchRequest) (b : Backend σ) (link : Link σ) :
    (search e r).run b link
      = (searchReply (b (searchCall e r) link.state).1, link.after b (searchCall e r)) := by
  unfold search runSearch searchReply searchCall
  rw [Exchange.run_bind, Exchange.run_send]
  cases (b _ link.state).1 >>= fun response => response.accepted "search" <;> rfl

/-- A search brings what can be read from the body of a success. -/
theorem searchReply_eq_ok {reply : Outcome Response} {r : SearchResponse} :
    searchReply reply = .ok r
      ↔ ∃ response, reply = .ok response ∧ response.isSuccess = true
        ∧ SearchResponse.ofJson response.body = .ok r := by
  unfold searchReply
  constructor
  · intro h
    obtain ⟨body, hbody, hr⟩ := Outcome.bind_eq_ok h
    obtain ⟨response, hreply, haccepted⟩ := Outcome.bind_eq_ok hbody
    unfold Response.accepted at haccepted
    split at haccepted
    · rename_i hsuccess
      cases haccepted
      exact ⟨response, hreply, hsuccess, hr⟩
    · cases haccepted
  · rintro ⟨response, rfl, hsuccess, hr⟩
    have haccepted : response.accepted "search" = .ok response.body := if_pos hsuccess
    show response.accepted "search" >>= SearchResponse.ofJson = _
    rw [haccepted]
    exact hr

/-- A search carries its query. -/
theorem query?_searchCall (e : Engine) (r : SearchRequest) :
    (searchCall e r).query? = some (e.encodeQuery r.toQuery) := by
  -- the later of two fields counts, and nothing behind the query is called like it
  have hsource : Keyed.get? (sourceFields r.fetchSource r.includes r.excludes).reverse "query" = none := by
    unfold sourceFields
    split
    · rfl
    · split <;> rfl
  show (Json.object _).field? "query" = _
  rw [Json.field?_object, List.reverse_append, Keyed.get?_append, hsource, List.reverse_append,
    Json.reverse_present, Keyed.get?_append, Json.get?_present]
  rfl

end Cluster

/-- The request of a listing. -/
def Indexer.belowCall (i : Indexer σ) (fqn : String) (size : Nat) (index : String) : Request :=
  Cluster.searchCall i.config.searchType
    { belowRequest fqn size index with index := i.registry.resolve index }

/-- **A listing is one request, and the entities that its reply tells of**; without a readable reply
    there are none. -/
theorem Indexing.run_entitiesBelow (fqn : String) (size : Nat) (index : String) (i : Indexer σ)
    (s : Session σ) :
    (Indexing.entitiesBelow fqn size index).run i s
      = (((Cluster.searchReply (i.backend (i.belowCall fqn size index) s.link.state).1).map
            SearchResponse.references).toOption.getD [],
          { s with link := s.link.after i.backend (i.belowCall fqn size index) }) := by
  have hsearch : (Attempt.search (belowRequest fqn size index)).run i s
      = (Cluster.searchReply (i.backend (i.belowCall fqn size index) s.link.state).1,
          { s with link := s.link.after i.backend (i.belowCall fqn size index) }) :=
    Attempt.run_exchange_eq (x := fun engine => Cluster.search engine
      { belowRequest fqn size index with index := i.registry.resolve index })
      (Cluster.run_search _ _ i.backend s.link)
  unfold Indexing.entitiesBelow
  rw [Indexing.run_bind, Indexing.run_made, hsearch]
  cases Cluster.searchReply (i.backend (i.belowCall fqn size index) s.link.state).1 <;> rfl

/-! ## §2. What the pattern asks for. -/

/-- The query of a listing: a pattern, and that the entity is not deleted. -/
def belowQuery (fqn : String) : Query :=
  .bool [.matchAll] [] []
    [.bool [.wildcard "fullyQualifiedName" (fqn ++ ".*")] [] [] [], .term "deleted" (.bool false)]

theorem toQuery_belowRequest (fqn : String) (size : Nat) (names index : String) :
    ({ belowRequest fqn size names with index }).toQuery = belowQuery fqn := by
  have hstar : (Text.isAllBlank "*" || "*" == "*") = true := by decide
  unfold SearchRequest.toQuery belowRequest
  dsimp only
  rw [if_pos hstar]
  rfl

/-- The query is read back from what is sent. -/
theorem Indexer.decodeQuery?_belowCall (fqn : String) (size : Nat) (index : String) (i : Indexer σ) :
    (i.belowCall fqn size index).query?.bind i.config.searchType.decodeQuery? = some (belowQuery fqn) := by
  have hfree : (belowQuery fqn).RawFree := by simp [belowQuery, Query.RawFree, Query.RawFreeAll]
  unfold Indexer.belowCall
  rw [Cluster.query?_searchCall, Option.bind_some, toQuery_belowRequest,
    Engine.decodeQuery?_encodeQuery _ _ hfree]

/-- **The pattern of a listing asks for what is below a name, and for nothing else, exactly if the name
    has no star and no question mark.**  A listing sends one request, with one pattern.  The pattern
    stands for every name with a dot behind something that the given name stands for as a pattern, and so
    for all names below it. -/
theorem listing_within_iff_plain (fqn : String) (size : Nat) (index : String) (i : Indexer σ)
    (s : Session σ) :
    ∃ request q pattern,
      ((Indexing.entitiesBelow fqn size index).run i s).2.link.sent = s.link.sent ++ [request]
        ∧ request.query?.bind i.config.searchType.decodeQuery? = some q
        ∧ q.wildcards = [("fullyQualifiedName", pattern)]
        ∧ (∀ name, Text.matchesPattern pattern name = true
            ↔ ∃ start rest, name = start ++ "." ++ rest ∧ Text.matchesPattern fqn start = true)
        ∧ (∀ rest, Text.matchesPattern pattern (fqn ++ "." ++ rest) = true)
        ∧ ((∀ name, Text.matchesPattern pattern name = true
              ↔ Text.startsWith name (fqn ++ ".") = true)
            ↔ Text.Plain fqn.toList) := by
  refine ⟨i.belowCall fqn size index, belowQuery fqn, fqn ++ ".*", ?_,
    i.decodeQuery?_belowCall fqn size index, rfl, Text.matchesPattern_below_iff fqn, ?_,
    Text.below_iff_plain fqn⟩
  · rw [Indexing.run_entitiesBelow]
    rfl
  · intro rest
    exact (Text.matchesPattern_below_iff fqn _).2 ⟨fqn, rest, rfl, Text.fits_self _⟩

/-- An indexer for tables, and a cluster that answers every request with `body`. -/
def tableReader (body : Json) : Indexer Unit where
  config := {}
  registry :=
    { mappings := [("table", { indexName := "table_search_index", aliasName := "table", indexMappingFile := "" })]
      clusterAlias := "", language := "en", schemaRoot := "" }
  fileText _ := none
  backend _ _ := (.ok { status := 200, body }, ())

/-- **A name with a star lists what is not below it**: the pattern that is sent for `svc.a*b` stands for
    the name of a table in `svc.axb`. -/
theorem starred_lists_sibling :
    "svc.a*b" ≠ "" ∧ ∃ request q pattern,
      ((Indexing.entitiesBelow "svc.a*b" 10 "table").run (tableReader .null)
          { link := { state := () } }).2.link.sent = [request]
        ∧ request.query?.bind (Engine.decodeQuery? .elasticsearch) = some q
        ∧ q.wildcards = [("fullyQualifiedName", pattern)]
        ∧ Text.matchesPattern pattern "svc.axb.orders" = true
        ∧ ¬ Text.startsWith "svc.axb.orders" ("svc.a*b" ++ ".") = true := by
  refine ⟨by decide, (tableReader .null).belowCall "svc.a*b" 10 "table", belowQuery "svc.a*b",
    "svc.a*b.*", ?_, (tableReader .null).decodeQuery?_belowCall "svc.a*b" 10 "table", rfl,
    by decide +kernel, by decide⟩
  rw [Indexing.run_entitiesBelow]
  rfl

/-! ## §3. Pointers in the order of their ids. -/

namespace Uuid

theorem before_iff {a b : Uuid} : a.before b = true ↔ a.value.toNat < b.value.toNat := by
  simp [before]

/-- Of two ids one is before the other, unless they are the same. -/
theorem before_trichotomy (a b : Uuid) : a = b ∨ a.before b = true ∨ b.before a = true := by
  obtain ⟨n⟩ := a
  obtain ⟨m⟩ := b
  simp only [before_iff, Uuid.mk.injEq, ← BitVec.toNat_inj]
  omega

theorem ne_of_before {a b : Uuid} (h : a.before b = true) : a ≠ b := by
  rintro rfl
  rw [before_iff] at h
  omega

theorem not_before_of_before {a b : Uuid} (h : a.before b = true) : ¬ b.before a = true := by
  rw [before_iff] at h ⊢
  omega

theorem before_trans {a b c : Uuid} (hab : a.before b = true) (hbc : b.before c = true) :
    a.before c = true := by
  rw [before_iff] at hab hbc ⊢
  omega

end Uuid

namespace EntityReference

/-- Pointers in order, one for each id. -/
def Ascending (refs : List EntityReference) : Prop :=
  refs.Pairwise fun a b => a.id.before b.id = true

/-- The first pointer with an id. -/
def withId? (refs : List EntityReference) (id : Uuid) : Option EntityReference :=
  refs.find? fun r => r.id = id

variable {r s : EntityReference} {found rest : List EntityReference} {id : Uuid}

theorem withId?_cons (r : EntityReference) (rest : List EntityReference) (id : Uuid) :
    withId? (r :: rest) id = if r.id = id then some r else withId? rest id := by
  unfold withId?
  by_cases h : r.id = id
  · rw [if_pos h, List.find?_cons_of_pos (by simpa using h)]
  · rw [if_neg h, List.find?_cons_of_neg (by simpa using h)]

theorem addNew_of_same (h : r.id = s.id) : r.addNew (s :: rest) = s :: rest := by
  rw [addNew, if_pos h]

theorem addNew_of_before (h : r.id.before s.id = true) : r.addNew (s :: rest) = r :: s :: rest := by
  rw [addNew, if_neg (Uuid.ne_of_before h), if_pos h]

theorem addNew_of_after (h : s.id.before r.id = true) : r.addNew (s :: rest) = s :: r.addNew rest := by
  rw [addNew, if_neg (Uuid.ne_of_before h).symm, if_neg (Uuid.not_before_of_before h)]

theorem mem_of_mem_addNew (h : s ∈ r.addNew found) : s = r ∨ s ∈ found := by
  induction found with
  | nil => exact Or.inl (List.mem_singleton.1 h)
  | cons head rest ih =>
    rcases Uuid.before_trichotomy r.id head.id with hsame | hbefore | hafter
    · rw [addNew_of_same hsame] at h
      exact Or.inr h
    · rw [addNew_of_before hbefore] at h
      exact List.mem_cons.1 h
    · rw [addNew_of_after hafter] at h
      rcases List.mem_cons.1 h with rfl | hrest
      · exact Or.inr List.mem_cons_self
      · exact (ih hrest).imp_right (List.mem_cons_of_mem _)

theorem ascending_addNew (h : Ascending found) (r : EntityReference) : Ascending (r.addNew found) := by
  induction found with
  | nil => exact List.pairwise_singleton _ _
  | cons head rest ih =>
    obtain ⟨hhead, hrest⟩ := List.pairwise_cons.1 h
    rcases Uuid.before_trichotomy r.id head.id with hsame | hbefore | hafter
    · rwa [addNew_of_same hsame]
    · rw [addNew_of_before hbefore]
      refine List.pairwise_cons.2 ⟨?_, h⟩
      intro x hx
      rcases List.mem_cons.1 hx with rfl | hx
      · exact hbefore
      · exact Uuid.before_trans hbefore (hhead x hx)
    · rw [addNew_of_after hafter]
      refine List.pairwise_cons.2 ⟨?_, ih hrest⟩
      intro x hx
      rcases mem_of_mem_addNew hx with rfl | hx
      · exact hafter
      · exact hhead x hx

/-- In order, an id in front of all others is not found. -/
theorem withId?_eq_none_of_before (h : ∀ x ∈ found, id.before x.id = true) : withId? found id = none := by
  refine List.find?_eq_none.2 fun x hx => ?_
  simpa using (Uuid.ne_of_before (h x hx)).symm

/-- **One pointer more**: its id is found if no pointer with that id was there, and every other id as
    before. -/
theorem withId?_addNew (h : Ascending found) (r : EntityReference) (id : Uuid) :
    withId? (r.addNew found) id = (withId? found id).or (if r.id = id then some r else none) := by
  induction found with
  | nil => exact withId?_cons r [] id
  | cons head rest ih =>
    obtain ⟨hhead, hrest⟩ := List.pairwise_cons.1 h
    rcases Uuid.before_trichotomy r.id head.id with hsame | hbefore | hafter
    · rw [addNew_of_same hsame, withId?_cons, hsame]
      by_cases hid : head.id = id
      · rw [if_pos hid, if_pos hid]
        rfl
      · rw [if_neg hid, if_neg hid, Option.or_none]
    · -- the new pointer is in front, so its id is not among those behind it
      rw [addNew_of_before hbefore, withId?_cons]
      by_cases hid : r.id = id
      · subst hid
        have hnone : withId? (head :: rest) r.id = none := by
          refine withId?_eq_none_of_before fun x hx => ?_
          rcases List.mem_cons.1 hx with rfl | hx
          · exact hbefore
          · exact Uuid.before_trans hbefore (hhead x hx)
        rw [if_pos rfl, hnone, Option.none_or, if_pos rfl]
      · rw [if_neg hid, if_neg hid, Option.or_none]
    · rw [addNew_of_after hafter, withId?_cons, withId?_cons, ih hrest]
      by_cases hid : head.id = id
      · rw [if_pos hid, if_pos hid]
        rfl
      · rw [if_neg hid, if_neg hid]

theorem ascending_foldl_addNew (h : Ascending found) (refs : List EntityReference) :
    Ascending (refs.foldl (fun found r => r.addNew found) found) :=
  List.foldlRecOn refs _ h fun _ hfound r _ => ascending_addNew hfound r

/-- **A run of pointers**: what was found before is found, and else the first pointer of the run. -/
theorem withId?_foldl_addNew (h : Ascending found) (refs : List EntityReference) (id : Uuid) :
    withId? (refs.foldl (fun found r => r.addNew found) found) id
      = (withId? found id).or (withId? refs id) := by
  induction refs generalizing found with
  | nil => exact Option.or_none.symm
  | cons r rest ih =>
    rw [List.foldl_cons, ih (ascending_addNew h r), withId?_addNew h, withId?_cons, Option.or_assoc]
    by_cases hid : r.id = id
    · rw [if_pos hid, if_pos hid]
      rfl
    · rw [if_neg hid, if_neg hid, Option.none_or]

theorem isSome_withId? : (withId? found id).isSome = true ↔ ∃ r ∈ found, r.id = id := by
  simp [withId?, List.find?_isSome]

/-- In order, every pointer is the one with its id. -/
theorem withId?_of_mem (h : Ascending found) (hr : r ∈ found) : withId? found r.id = some r := by
  obtain ⟨before, after, rfl⟩ := List.append_of_mem hr
  refine List.find?_eq_some_iff_append.2 ⟨by simp, before, after, rfl, fun x hx => ?_⟩
  have hbefore := (List.pairwise_append.1 h).2.2 x hx r List.mem_cons_self
  simpa using Uuid.ne_of_before hbefore

end EntityReference

/-! ## §4. What hits tell of. -/

/-- A hit tells of an entity: its document has an id, a name and a type, all of them texts; the id can be
    read, in whatever form it is written, and neither the name nor the type is empty. -/
def Tells (hit : Json) (id : Uuid) (fqn entityType : String) : Prop :=
  fqn ≠ "" ∧ entityType ≠ "" ∧ ∃ source idText, hit.field? "_source" = some (.obj source)
    ∧ Keyed.get? source "id" = some (.str idText) ∧ Uuid.ofText? idText = some id
    ∧ Keyed.get? source "fullyQualifiedName" = some (.str fqn)
    ∧ Keyed.get? source "entityType" = some (.str entityType)

/-- The pointer to an entity that a hit tells of. -/
def pointer (id : Uuid) (fqn entityType : String) : EntityReference :=
  { id, entityType, fullyQualifiedName := some fqn }

theorem SearchHit.text?_eq_some {h : SearchHit} {field text : String} :
    h.text? field = some text ↔ Keyed.get? h.source field = some (.str text) := by
  unfold SearchHit.text?
  rw [Option.bind_eq_some_iff]
  constructor
  · rintro ⟨v, hv, htext⟩
    cases v with
    | str t =>
      cases htext
      exact hv
    | _ => cases htext
  · exact fun hv => ⟨_, hv, rfl⟩

/-- **A hit brings a pointer exactly if it tells of an entity.** -/
theorem SearchHit.reference?_ofJson {hit : Json} {r : EntityReference} :
    (SearchHit.ofJson hit).reference? = some r
      ↔ ∃ id fqn entityType, Tells hit id fqn entityType ∧ r = pointer id fqn entityType := by
  -- a field that is found shows that the hit has a document
  have hsource : ∀ field v, Keyed.get? (SearchHit.ofJson hit).source field = some v →
      hit.field? "_source" = some (.obj (SearchHit.ofJson hit).source) := by
    intro field v hv
    unfold SearchHit.ofJson Json.fieldsAt at hv ⊢
    dsimp only at hv ⊢
    cases hfound : hit.field? "_source" with
    | none =>
      rw [hfound] at hv
      cases hv
    | some found =>
      rw [hfound] at hv
      cases found with
      | obj fields => rfl
      | _ => cases hv
  unfold SearchHit.reference?
  constructor
  · intro h
    obtain ⟨idText, hidText, h⟩ := Option.bind_eq_some_iff.1 h
    obtain ⟨fqn, hfqn, h⟩ := Option.bind_eq_some_iff.1 h
    obtain ⟨entityType, htype, h⟩ := Option.bind_eq_some_iff.1 h
    rw [SearchHit.text?_eq_some] at hidText hfqn htype
    split at h
    · cases h
    · rename_i hfilled
      obtain ⟨id, hid, h⟩ := Option.bind_eq_some_iff.1 h
      simp only [Bool.or_eq_true, String.isEmpty_iff, not_or] at hfilled
      refine ⟨id, fqn, entityType, ⟨hfilled.1, hfilled.2, _, idText, hsource _ _ hidText, hidText, hid,
        hfqn, htype⟩, (Option.some.inj h).symm⟩
  · rintro ⟨id, fqn, entityType, ⟨hfqnNe, htypeNe, source, idText, hfound, hidText, hid, hfqn, htype⟩, rfl⟩
    have hsame : (SearchHit.ofJson hit).source = source := by
      unfold SearchHit.ofJson Json.fieldsAt
      dsimp only
      rw [hfound]
      rfl
    have hfilled : ¬ (fqn.isEmpty || entityType.isEmpty) = true := by
      simp [hfqnNe, htypeNe]
    rw [← hsame] at hidText hfqn htype
    rw [SearchHit.text?_eq_some.2 hidText, SearchHit.text?_eq_some.2 hfqn,
      SearchHit.text?_eq_some.2 htype]
    show (if _ then none else _) = _
    rw [if_neg hfilled, hid]
    rfl

/-- The pointer that a hit brings has an id exactly if the hit tells of the entity with that id. -/
theorem SearchHit.any_reference?_ofJson {hit : Json} {id : Uuid} :
    (SearchHit.ofJson hit).reference?.any (fun r => r.id = id) = true
      ↔ ∃ fqn entityType, Tells hit id fqn entityType := by
  rw [Option.any_eq_true]
  constructor
  · rintro ⟨r, hr, hid⟩
    obtain ⟨other, fqn, entityType, htells, rfl⟩ := SearchHit.reference?_ofJson.1 hr
    obtain rfl : other = id := of_decide_eq_true hid
    exact ⟨fqn, entityType, htells⟩
  · rintro ⟨fqn, entityType, htells⟩
    exact ⟨pointer id fqn entityType, SearchHit.reference?_ofJson.2 ⟨id, fqn, entityType, htells, rfl⟩,
      decide_eq_true rfl⟩

/-- The pointers that hits bring. -/
def pointers (hits : List Json) : List EntityReference :=
  hits.filterMap fun hit => (SearchHit.ofJson hit).reference?

/-- An id is among the pointers of hits exactly if a hit tells of the entity. -/
theorem isSome_withId?_pointers {hits : List Json} {id : Uuid} :
    (EntityReference.withId? (pointers hits) id).isSome = true
      ↔ ∃ hit ∈ hits, ∃ fqn entityType, Tells hit id fqn entityType := by
  rw [EntityReference.isSome_withId?]
  constructor
  · rintro ⟨r, hr, rfl⟩
    obtain ⟨hit, hhit, hr⟩ := List.mem_filterMap.1 hr
    obtain ⟨id, fqn, entityType, htells, rfl⟩ := SearchHit.reference?_ofJson.1 hr
    exact ⟨hit, hhit, fqn, entityType, htells⟩
  · rintro ⟨hit, hhit, fqn, entityType, htells⟩
    have hr := SearchHit.reference?_ofJson.2 ⟨id, fqn, entityType, htells, rfl⟩
    exact ⟨pointer id fqn entityType, List.mem_filterMap.2 ⟨hit, hhit, hr⟩, rfl⟩

/-- **The pointer of an id among the pointers of hits** is that of the first hit that tells of the
    entity. -/
theorem withId?_pointers_iff {hits : List Json} {id : Uuid} {r : EntityReference} :
    EntityReference.withId? (pointers hits) id = some r
      ↔ ∃ before hit after fqn entityType, hits = before ++ hit :: after ∧ Tells hit id fqn entityType
        ∧ (∀ other ∈ before, ∀ fqn entityType, ¬ Tells other id fqn entityType)
        ∧ r = pointer id fqn entityType := by
  unfold EntityReference.withId? pointers
  rw [List.find?_filterMap, Option.bind_eq_some_iff]
  constructor
  · rintro ⟨hit, hfirst, hr⟩
    obtain ⟨hid, before, after, hsplit, hnone⟩ := List.find?_eq_some_iff_append.1 hfirst
    obtain ⟨other, fqn, entityType, htells, rfl⟩ := SearchHit.reference?_ofJson.1 hr
    rw [hr] at hid
    obtain rfl : other = id := of_decide_eq_true hid
    refine ⟨before, hit, after, fqn, entityType, hsplit, htells, ?_, rfl⟩
    -- an earlier hit for the same entity would have brought a pointer with this id
    intro earlier hearlier fqn entityType htells
    have hany := SearchHit.any_reference?_ofJson.2 ⟨fqn, entityType, htells⟩
    simpa [hany] using hnone earlier hearlier
  · rintro ⟨before, hit, after, fqn, entityType, hsplit, htells, hnone, rfl⟩
    refine ⟨hit, List.find?_eq_some_iff_append.2
      ⟨SearchHit.any_reference?_ofJson.2 ⟨fqn, entityType, htells⟩, before, after, hsplit, ?_⟩,
      SearchHit.reference?_ofJson.2 ⟨id, fqn, entityType, htells, rfl⟩⟩
    intro earlier hearlier
    rw [Bool.not_eq_true', ← Bool.not_eq_true, SearchHit.any_reference?_ofJson]
    rintro ⟨fqn, entityType, htells⟩
    exact hnone earlier hearlier fqn entityType htells

/-! ## §5. What a listing returns. -/

/-- Pointers to all entities that hits tell of, one for each and in the order of their ids; of several
    hits for one entity the first gives the name and the type. -/
structure ListsFirst (hits : List Json) (refs : List EntityReference) : Prop where
  ascending : EntityReference.Ascending refs
  complete : ∀ id, (∃ r ∈ refs, r.id = id) ↔ ∃ hit ∈ hits, ∃ fqn entityType, Tells hit id fqn entityType
  first : ∀ r ∈ refs, ∃ before hit after fqn entityType, hits = before ++ hit :: after
    ∧ Tells hit r.id fqn entityType
    ∧ (∀ other ∈ before, ∀ fqn entityType, ¬ Tells other r.id fqn entityType)
    ∧ r = pointer r.id fqn entityType

/-- Pointers in order list what hits tell of if an id is found among them exactly as among the pointers
    of the hits. -/
theorem listsFirst_of_withId? {hits : List Json} {refs : List EntityReference}
    (h : EntityReference.Ascending refs)
    (hsame : ∀ id, EntityReference.withId? refs id = EntityReference.withId? (pointers hits) id) :
    ListsFirst hits refs where
  ascending := h
  complete id := by
    rw [← isSome_withId?_pointers, ← hsame]
    exact EntityReference.isSome_withId?.symm
  first r hr := withId?_pointers_iff.1 ((hsame r.id).symm.trans (EntityReference.withId?_of_mem h hr))

/-- A reply can be read exactly if it has hits. -/
theorem SearchResponse.exists_ofJson_iff {body : Json} :
    (∃ r, SearchResponse.ofJson body = .ok r) ↔ ∃ found, body.field? "hits" = some found := by
  unfold SearchResponse.ofJson
  cases body.field? "hits" <;> simp

/-- What is read from a reply with hits. -/
theorem listsFirst_references {body found : Json} {response : SearchResponse}
    (hfound : body.field? "hits" = some found) (h : SearchResponse.ofJson body = .ok response) :
    ListsFirst (found.itemsAt "hits") response.references := by
  have hrefs : response.references
      = (pointers (found.itemsAt "hits")).foldl (fun found r => r.addNew found) [] := by
    unfold SearchResponse.ofJson at h
    rw [hfound] at h
    cases h
    show List.foldl _ _ (List.filterMap _ (List.map _ _)) = _
    rw [List.filterMap_map]
    rfl
  rw [hrefs]
  refine listsFirst_of_withId? (EntityReference.ascending_foldl_addNew List.Pairwise.nil _) fun id => ?_
  rw [EntityReference.withId?_foldl_addNew List.Pairwise.nil]
  rfl

/-- **What a listing returns**, after one request.  If the reply is a success with hits, the entities that
    the hits tell of: each once, in the order of the ids, by the first hit for it.  After any other reply,
    and without one, nothing. -/
theorem references_below (fqn : String) (size : Nat) (index : String) (i : Indexer σ) (s : Session σ) :
    ((Indexing.entitiesBelow fqn size index).run i s).2.link.sent
        = s.link.sent ++ [i.belowCall fqn size index]
      ∧ (∀ response found, (i.backend (i.belowCall fqn size index) s.link.state).1 = .ok response →
          response.isSuccess = true → response.body.field? "hits" = some found →
          ListsFirst (found.itemsAt "hits") ((Indexing.entitiesBelow fqn size index).run i s).1)
      ∧ ((∀ response found, (i.backend (i.belowCall fqn size index) s.link.state).1 = .ok response →
          response.isSuccess = true → response.body.field? "hits" ≠ some found) →
          ((Indexing.entitiesBelow fqn size index).run i s).1 = []) := by
  rw [Indexing.run_entitiesBelow]
  refine ⟨rfl, ?_, ?_⟩
  · intro response found hreply hsuccess hfound
    obtain ⟨r, hr⟩ := SearchResponse.exists_ofJson_iff.2 ⟨found, hfound⟩
    have hok := Cluster.searchReply_eq_ok.2 ⟨response, hreply, hsuccess, hr⟩
    rw [hok]
    exact listsFirst_references hfound hr
  · intro hfailed
    cases hok : Cluster.searchReply (i.backend (i.belowCall fqn size index) s.link.state).1 with
    | error e => rfl
    | ok r =>
      -- what was read is a success with hits, and there is none
      obtain ⟨response, hreply, hsuccess, hr⟩ := Cluster.searchReply_eq_ok.1 hok
      obtain ⟨found, hfound⟩ := SearchResponse.exists_ofJson_iff.1 ⟨r, hr⟩
      exact absurd hfound (hfailed response found hreply hsuccess)

/-- A hit for a document with an id, a name and a type. -/
def hitFor (idText fqn entityType : String) : Json :=
  .object [("_source", .object
    [("id", .str idText), ("fullyQualifiedName", .str fqn), ("entityType", .str entityType)])]

/-- Hits of which two tell of one table; another hit for it has no name, one has an id that cannot be read,
    and one has no document. -/
def mixedHits : List Json :=
  [hitFor "no id" "svc.a" "table",
    hitFor "00000000-0000-0000-0000-00000000000a" "" "table",
    hitFor "{00000000-0000-0000-0000-00000000000A}" "svc.b" "table",
    .object [],
    hitFor "0000000000000000000000000000000a" "svc.c" "table",
    hitFor "urn:uuid:00000000-0000-0000-0000-000000000002" "svc.d" "schema"]

/-- The table has the name of the first hit that tells of it, and comes behind the schema; a reply without
    hits gives nothing. -/
theorem references_below_mixed :
    (∃ refs, ListsFirst mixedHits refs
      ∧ ((Indexing.entitiesBelow "svc" 10 "table").run
          (tableReader (.object [("hits", .object [("hits", .arr mixedHits)])])) { link := { state := () } }).1
        = refs
      ∧ refs = [pointer ⟨2⟩ "svc.d" "schema", pointer ⟨10⟩ "svc.b" "table"])
      ∧ ((Indexing.entitiesBelow "svc" 10 "table").run (tableReader .null)
          { link := { state := () } }).1 = [] := by
  refine ⟨⟨_, (references_below "svc" 10 "table" (tableReader
      (.object [("hits", .object [("hits", .arr mixedHits)])])) { link := { state := () } }).2.1
    _ _ rfl rfl rfl, rfl, ?_⟩,
    (references_below "svc" 10 "table" (tableReader .null) { link := { state := () } }).2.2 ?_⟩
  · rw [Indexing.run_entitiesBelow]
    decide +kernel
  · rintro response found hreply - hfound
    cases hreply
    cases hfound

end CatalogIndex
