/-
  CatalogIndex.Proofs.Engine.Decoding — queries are read back from the form an engine takes.

  A query is written for an engine as nested objects, with the clauses and fields left out that are
  empty.  Nothing is lost on the way: each engine has a decoder that reads the query back, whatever its
  depth, its names and its values, as long as no part of it was written by a caller (`Query.RawFree`).
  So different queries never have the same form.

  The two engines differ in the bodies of comparisons only.  Said without the encoder: one function goes
  through a written query, clause by clause, and takes the value out of every comparison; it leaves all
  else as it is, and takes the form of the one engine into the form of the other.

  ## Main definitions

    * `Query.RawFree` — no part of the query was written by a caller;
    * `Engine.decodeQuery?` — the query that a form stands for;
    * `Engine.unwrapTerms` — the form with the values of comparisons taken out of their objects.

  ## Main results

    * `Engine.decodeQuery?_encodeQuery` — the query is read back;
    * `Engine.unwrapTerms_encodeQuery` — one form becomes the other;
    * `Engine.encodeQuery_lossless` — forms of queries lose nothing, with either engine.
-/
import CatalogIndex.Engine.Query
import CatalogIndex.Proofs.Keyed

namespace CatalogIndex

/-! ## §1. Queries without parts of callers. -/

namespace Query

mutual

/-- No part of the query is already written in the words of an engine. -/
def RawFree : Query → Prop
  | .bool must should mustNot filter =>
    RawFreeAll must ∧ RawFreeAll should ∧ RawFreeAll mustNot ∧ RawFreeAll filter
  | .raw _ => False
  | _ => True

def RawFreeAll : List Query → Prop
  | [] => True
  | q :: rest => q.RawFree ∧ RawFreeAll rest

end

end Query

namespace Engine

/-! ## §2. Decoders. -/

/-- The value in the body of a comparison. -/
def decodeTerm? (e : Engine) (body : Json) : Option Json :=
  match e with
  | .elasticsearch => body.field? "value"
  | .opensearch => some body

/-- The text in the body of a comparison with a text. -/
def decodeText? (body : Json) : Option String := (body.field? "value").bind Json.asStr?

/-- A list of texts; none was written if it was empty. -/
def decodeFields? (names : Option Json) : Option (List String) :=
  match names with
  | none => some []
  | some v => (v.asArr?).bind (List.mapM Json.asStr?)

mutual

/-- The query that a form stands for. -/
def decodeQuery? (e : Engine) : Json → Option Query
  | .obj [("term", .obj [(field, body)])] => (e.decodeTerm? body).map (.term field)
  | .obj [("prefix", .obj [(field, body)])] => (decodeText? body).map (.startsWith field)
  | .obj [("wildcard", .obj [(field, body)])] => (decodeText? body).map (.wildcard field)
  | .obj [("exists", .obj [(_, .str field)])] => some (.exists field)
  | .obj [("query_string", .obj fields)] => do
    let query ← (Keyed.get? fields "query").bind Json.asStr?
    let names ← decodeFields? (Keyed.get? fields "fields")
    some (.text query names)
  | .obj [("bool", .obj clauses)] => do
    let must ← decodeClause? e "must" clauses
    let should ← decodeClause? e "should" clauses
    let mustNot ← decodeClause? e "must_not" clauses
    let filter ← decodeClause? e "filter" clauses
    some (.bool must should mustNot filter)
  | .obj [("match_all", _)] => some .matchAll
  | _ => none

/-- The clauses under a name; none were written if there were none. -/
def decodeClause? (e : Engine) (name : String) : List (String × Json) → Option (List Query)
  | [] => some []
  | (key, .arr items) :: rest =>
    if key = name then decodeQueries? e items else decodeClause? e name rest
  | (key, _) :: rest => if key = name then none else decodeClause? e name rest

def decodeQueries? (e : Engine) : List Json → Option (List Query)
  | [] => some []
  | v :: rest => do
    let q ← decodeQuery? e v
    let more ← decodeQueries? e rest
    some (q :: more)

end

/-! ## §3. Reading clauses. -/

/-- What stands under the name of a clause: a list, or nothing if it is empty. -/
def clauseValue? (items : List Json) : Option Json := if items.isEmpty then none else some (.arr items)

theorem clause_eq_present (name : String) (items : List Json) :
    clause name items = Json.present name (clauseValue? items) := by
  unfold clause clauseValue?
  split <;> rfl

/-- The body of a `bool`, by its four lists of clauses. -/
def boolBody (must should mustNot filter : List Json) : Fields :=
  Keyed.ofList (clause "must" must ++ clause "should" should ++ clause "must_not" mustNot
    ++ clause "filter" filter)

/-- Each list of clauses is found under its own name. -/
theorem get?_boolBody (must should mustNot filter : List Json) (name : String) :
    Keyed.get? (boolBody must should mustNot filter) name
      = (if name = "filter" then clauseValue? filter else none).or
          ((if name = "must_not" then clauseValue? mustNot else none).or
            ((if name = "should" then clauseValue? should else none).or
              (if name = "must" then clauseValue? must else none))) := by
  unfold boolBody Keyed.ofList
  rw [Keyed.get?_layer]
  simp only [clause_eq_present, List.reverse_append, Json.reverse_present, Keyed.get?_append,
    Json.get?_present, Keyed.get?_nil, Option.or_none]

theorem decodeClause?_of_get? {e : Engine} {name : String} {fields : Fields} {items : List Json}
    (h : Keyed.get? fields name = clauseValue? items) :
    decodeClause? e name fields = decodeQueries? e items := by
  induction fields with
  | nil =>
    -- nothing is found only if the list is empty
    cases items with
    | nil => simp [decodeClause?, decodeQueries?]
    | cons v rest => cases h
  | cons field rest ih =>
    obtain ⟨key, v⟩ := field
    by_cases hkey : key = name
    · have hv : some v = clauseValue? items := by simpa [Keyed.get?, hkey] using h
      cases items with
      | nil => cases hv
      | cons w more =>
        cases hv
        simp [decodeClause?, hkey]
    · have hrest : Keyed.get? rest name = clauseValue? items := by simpa [Keyed.get?, hkey] using h
      cases v <;> simp [decodeClause?, hkey, ih hrest]

theorem decodeQuery?_bool (e : Engine) (must should mustNot filter : List Json) :
    decodeQuery? e (.obj [("bool", .obj (boolBody must should mustNot filter))]) = (do
      let must ← decodeQueries? e must
      let should ← decodeQueries? e should
      let mustNot ← decodeQueries? e mustNot
      let filter ← decodeQueries? e filter
      some (.bool must should mustNot filter)) := by
  have hmust : decodeClause? e "must" (boolBody must should mustNot filter) = decodeQueries? e must :=
    decodeClause?_of_get? (by simp [get?_boolBody])
  have hshould : decodeClause? e "should" (boolBody must should mustNot filter)
      = decodeQueries? e should := decodeClause?_of_get? (by simp [get?_boolBody])
  have hmustNot : decodeClause? e "must_not" (boolBody must should mustNot filter)
      = decodeQueries? e mustNot := decodeClause?_of_get? (by simp [get?_boolBody])
  have hfilter : decodeClause? e "filter" (boolBody must should mustNot filter)
      = decodeQueries? e filter := decodeClause?_of_get? (by simp [get?_boolBody])
  simp only [decodeQuery?, hmust, hshould, hmustNot, hfilter]

/-! ## §4. Queries are read back. -/

/-- The body of a text query: the text, and its fields unless it is about all of them. -/
def textBody (query : String) (names : List String) : Fields :=
  Keyed.ofList (("query", .str query) ::
    if names.isEmpty then [] else [("fields", Json.strings names)])

theorem decodeQuery?_text (e : Engine) (query : String) (names : List String) :
    decodeQuery? e (.obj [("query_string", .obj (textBody query names))])
      = some (.text query names) := by
  have hquery : Keyed.get? (textBody query names) "query" = some (.str query) := by
    unfold textBody Keyed.ofList
    rw [Keyed.get?_layer]
    cases names <;> simp [Keyed.get?]
  have hnames : decodeFields? (Keyed.get? (textBody query names) "fields") = some names := by
    unfold textBody Keyed.ofList
    rw [Keyed.get?_layer]
    cases names with
    | nil => simp [Keyed.get?, decodeFields?]
    | cons name rest =>
      have hread : ∀ texts : List String, (texts.map Json.str).mapM Json.asStr? = some texts := by
        intro texts
        induction texts with
        | nil => rfl
        | cons text more ih => simp [Json.asStr?, ih]
      simpa [Keyed.get?, decodeFields?, Json.strings, Json.asArr?] using hread (name :: rest)
  simp only [decodeQuery?, hquery, hnames]
  rfl

mutual

/-- **A query is read back from the form the engine takes.** -/
theorem decodeQuery?_encodeQuery (e : Engine) : ∀ q : Query, q.RawFree →
    decodeQuery? e (e.encodeQuery q) = some q
  | .term field value, _ => by cases e <;> rfl
  | .startsWith _ _, _ => rfl
  | .wildcard _ _, _ => rfl
  | .exists _, _ => rfl
  | .text query names, _ => decodeQuery?_text e query names
  | .bool must should mustNot filter, h => by
    have hmust := decodeQueries?_encodeQueries e must h.1
    have hshould := decodeQueries?_encodeQueries e should h.2.1
    have hmustNot := decodeQueries?_encodeQueries e mustNot h.2.2.1
    have hfilter := decodeQueries?_encodeQueries e filter h.2.2.2
    refine (decodeQuery?_bool e (e.encodeQueries must) (e.encodeQueries should)
      (e.encodeQueries mustNot) (e.encodeQueries filter)).trans ?_
    rw [hmust, hshould, hmustNot, hfilter]
    rfl
  | .raw _, h => h.elim
  | .matchAll, _ => rfl

theorem decodeQueries?_encodeQueries (e : Engine) : ∀ qs : List Query, Query.RawFreeAll qs →
    decodeQueries? e (e.encodeQueries qs) = some qs
  | [], _ => by simp [encodeQueries, decodeQueries?]
  | q :: rest, h => by
    have hq := decodeQuery?_encodeQuery e q h.1
    have hrest := decodeQueries?_encodeQueries e rest h.2
    simp [encodeQueries, decodeQueries?, hq, hrest]

end

/-! ## §5. One engine and the other. -/

mutual

/-- A written query with the values of comparisons taken out of the objects around them; all else stays. -/
def unwrapTerms : Json → Json
  | .obj [("term", .obj [(field, .obj [("value", value)])])] =>
    .obj [("term", .obj [(field, value)])]
  | .obj [("bool", .obj clauses)] => .obj [("bool", .obj (unwrapClauses clauses))]
  | v => v

def unwrapClauses : List (String × Json) → List (String × Json)
  | [] => []
  | (name, v) :: rest => (name, unwrapList v) :: unwrapClauses rest

def unwrapList : Json → Json
  | .arr items => .arr (unwrapItems items)
  | v => v

def unwrapItems : List Json → List Json
  | [] => []
  | v :: rest => unwrapTerms v :: unwrapItems rest

end

theorem unwrapClauses_eq_map (clauses : List (String × Json)) :
    unwrapClauses clauses = clauses.map fun c => (c.1, unwrapList c.2) := by
  induction clauses with
  | nil => simp [unwrapClauses]
  | cons c rest ih => simp [unwrapClauses, ih]

theorem map_clause (name : String) (items : List Json) :
    (clause name items).map (fun c => (c.1, unwrapList c.2)) = clause name (unwrapItems items) := by
  cases items with
  | nil => simp [clause, unwrapItems]
  | cons v rest => simp [clause, unwrapItems, unwrapList]

/-- The body of a `bool` is gone through list by list. -/
theorem unwrapClauses_boolBody (must should mustNot filter : List Json) :
    unwrapClauses (boolBody must should mustNot filter)
      = boolBody (unwrapItems must) (unwrapItems should) (unwrapItems mustNot) (unwrapItems filter) := by
  have hmap := Keyed.layer_map unwrapList [] (clause "must" must ++ clause "should" should
    ++ clause "must_not" mustNot ++ clause "filter" filter)
  unfold boolBody
  rw [unwrapClauses_eq_map]
  refine hmap.symm.trans ?_
  simp only [List.map_append, map_clause]
  rfl

mutual

/-- **The form for the one engine becomes the form for the other**, by nothing but the bodies of
    comparisons. -/
theorem unwrapTerms_encodeQuery : ∀ q : Query, q.RawFree →
    unwrapTerms (encodeQuery .elasticsearch q) = encodeQuery .opensearch q
  | .term _ _, _ => rfl
  | .startsWith _ _, _ => rfl
  | .wildcard _ _, _ => rfl
  | .exists _, _ => rfl
  | .text _ _, _ => rfl
  | .bool must should mustNot filter, h => by
    have hmust := unwrapItems_encodeQueries must h.1
    have hshould := unwrapItems_encodeQueries should h.2.1
    have hmustNot := unwrapItems_encodeQueries mustNot h.2.2.1
    have hfilter := unwrapItems_encodeQueries filter h.2.2.2
    show Json.obj [("bool", .obj (unwrapClauses (boolBody (encodeQueries .elasticsearch must)
      (encodeQueries .elasticsearch should) (encodeQueries .elasticsearch mustNot)
      (encodeQueries .elasticsearch filter))))] = _
    rw [unwrapClauses_boolBody, hmust, hshould, hmustNot, hfilter]
    rfl
  | .raw _, h => h.elim
  | .matchAll, _ => rfl

theorem unwrapItems_encodeQueries : ∀ qs : List Query, Query.RawFreeAll qs →
    unwrapItems (encodeQueries .elasticsearch qs) = encodeQueries .opensearch qs
  | [], _ => by simp [encodeQueries, unwrapItems]
  | q :: rest, h => by
    have hq := unwrapTerms_encodeQuery q h.1
    have hrest := unwrapItems_encodeQueries rest h.2
    simp [encodeQueries, unwrapItems, hq, hrest]

end

/-- **Forms of queries lose nothing, with either engine.**  A query without parts of callers is read back
    from its form by the decoder of the engine, so that no other such query has the same form.  The forms
    for the two engines differ only in the bodies of comparisons. -/
theorem encodeQuery_lossless {q : Query} (h : q.RawFree) :
    (∀ e : Engine, e.decodeQuery? (e.encodeQuery q) = some q)
      ∧ (∀ (e : Engine) (other : Query), other.RawFree → e.encodeQuery other = e.encodeQuery q →
          other = q)
      ∧ unwrapTerms (encodeQuery .elasticsearch q) = encodeQuery .opensearch q := by
  refine ⟨fun e => decodeQuery?_encodeQuery e q h, fun e other hother hsame => ?_,
    unwrapTerms_encodeQuery q h⟩
  have hread := decodeQuery?_encodeQuery e other hother
  rw [hsame, decodeQuery?_encodeQuery e q h] at hread
  exact (Option.some.inj hread).symm

/-- A query whose names and values look like parts of forms, with clauses left out at every level. -/
def tangledQuery : Query :=
  .bool [] [.term "value" (.obj [("value", .obj [("term", .null)])]), .bool [] [] [] []]
    [.exists "field", .bool [.text "bool" [], .text "*" ["", "fields"]] [] [.matchAll] []]
    [.startsWith "prefix" "", .wildcard "" "?*"]

/-- It is read back from both of its forms. -/
theorem encodeQuery_lossless_tangled :
    (∀ e : Engine, e.decodeQuery? (e.encodeQuery tangledQuery) = some tangledQuery)
      ∧ encodeQuery .elasticsearch tangledQuery ≠ encodeQuery .opensearch tangledQuery
      ∧ unwrapTerms (encodeQuery .elasticsearch tangledQuery) = encodeQuery .opensearch tangledQuery := by
  have hfree : tangledQuery.RawFree := by
    simp [tangledQuery, Query.RawFree, Query.RawFreeAll]
  obtain ⟨hread, -, hforms⟩ := encodeQuery_lossless hfree
  exact ⟨hread, by decide +kernel, hforms⟩

end Engine

end CatalogIndex
