/-
  CatalogIndex.Proofs.Script.Stored — stored queries and scripts are read back.

  Queries and scripts are stored in a form that does not depend on the engine: the name of the kind, with
  what belongs to it.  There are four such forms: a bare name, and a name with a text, with a flag or with
  a record.  Each is read back as what was stored, whatever names, values and parameters it holds, so what
  a stored change does to documents is what it would have done at once; and different queries, and
  different scripts, are stored in different forms.

  The reader of queries is given as many levels as the stored form is deep.  This is enough, since a clause
  of a `bool` is less deep than the `bool`: the proof goes along the levels, for queries of any kind.

  ## Main results

    * `Source.read_pair` — a record of two fields is read back;
    * `Query.ofJson?_toJson` — a query is read back with enough levels;
    * `ScriptOp.decode?_toJson`, `Script.decode?_toJson` — operations and scripts are read back;
    * `stored_read_back` — stored forms lose nothing.
-/
import CatalogIndex.Proofs.Entity.Written
import CatalogIndex.Script.Basic

namespace CatalogIndex

/-! ## §1. Records. -/

namespace Source

/-- A record of two fields is read back if its fields are. -/
theorem read_pair {α β γ : Type} (a b : String) (hne : a ≠ b) {x y : Json} (first? : Json → Option α)
    (second? : Json → Option β) (make : α → β → γ) {u : α} {w : β} (hfirst : first? x = some u)
    (hsecond : second? y = some w) :
    (do
      let p ← parts? [a, b] (Json.object [(a, x), (b, y)])
      let u ← p.required a first?
      let w ← p.required b second?
      some (make u w)) = some (make u w) := by
  obtain ⟨p, hp, hfound⟩ := parts?_object [a, b] [(a, x), (b, y)]
  have hx : p.found.lookup a = some x := by
    rw [hfound a (by simp)]
    simp [Keyed.get?, Ne.symm hne]
  have hy : p.found.lookup b = some y := by
    rw [hfound b (by simp)]
    simp [Keyed.get?]
  simp only [hp, Option.bind_eq_bind, Option.bind_some, Parts.required_written hx hfirst,
    Parts.required_written hy hsecond]

/-- Texts are read back from the list of them. -/
theorem listOf?_strings (texts : List String) : listOf? text? (Json.strings texts) = some texts :=
  each?_map fun _ _ => rfl

end Source

/-! ## §2. Queries. -/

namespace Query

theorem listToJson_eq_map (qs : List Query) : listToJson qs = qs.map toJson := by
  induction qs with
  | nil => simp [listToJson]
  | cons q rest ih => simp [listToJson, ih]

/-- The record of a `bool`: its four lists of clauses. -/
def clausesJson (must should mustNot filter : List Query) : Json :=
  .object [("must", .arr (listToJson must)), ("should", .arr (listToJson should)),
    ("must_not", .arr (listToJson mustNot)), ("filter", .arr (listToJson filter))]

variable {must should mustNot filter clauses : List Query} {q : Query} {name : String}

/-- A clause is less deep than the `bool` it belongs to. -/
theorem depth_clause (hclauses : (clausesJson must should mustNot filter).field? name
      = some (.arr (listToJson clauses))) (hq : q ∈ clauses) :
    q.toJson.depth < (toJson (.bool must should mustNot filter)).depth := by
  have hmem : q.toJson ∈ listToJson clauses := by
    rw [listToJson_eq_map]
    exact List.mem_map_of_mem hq
  have hrecord : (toJson (.bool must should mustNot filter)).field? "Bool"
      = some (clausesJson must should mustNot filter) := by
    rw [toJson, Json.field?_object]
    rfl
  calc q.toJson.depth
    _ < (Json.arr (listToJson clauses)).depth := Json.depth_lt_of_mem hmem
    _ < (clausesJson must should mustNot filter).depth := Json.depth_lt_of_field? hclauses
    _ < (toJson (.bool must should mustNot filter)).depth := Json.depth_lt_of_field? hrecord

/-- Clauses that are read back one by one are read back from the list of them. -/
theorem required_clauses {p : Source.Parts Json} {levels : Nat}
    (hfound : p.found.lookup name = some (.arr (listToJson clauses)))
    (hread : ∀ q ∈ clauses, ofJson? levels q.toJson = some q) :
    p.required name (Source.listOf? (ofJson? levels)) = some clauses := by
  refine Source.Parts.required_written hfound ?_
  rw [listToJson_eq_map]
  exact Source.each?_map hread

/-- A `bool` is read back if its clauses are. -/
theorem ofJson?_bool {levels : Nat} (hmust : ∀ q ∈ must, ofJson? levels q.toJson = some q)
    (hshould : ∀ q ∈ should, ofJson? levels q.toJson = some q)
    (hmustNot : ∀ q ∈ mustNot, ofJson? levels q.toJson = some q)
    (hfilter : ∀ q ∈ filter, ofJson? levels q.toJson = some q) :
    ofJson? (levels + 1) (toJson (.bool must should mustNot filter))
      = some (.bool must should mustNot filter) := by
  obtain ⟨p, hp, hfound⟩ := Source.parts?_object ["must", "should", "must_not", "filter"]
    [("must", .arr (listToJson must)), ("should", .arr (listToJson should)),
      ("must_not", .arr (listToJson mustNot)), ("filter", .arr (listToJson filter))]
  have hform : toJson (.bool must should mustNot filter)
      = .obj [("Bool", clausesJson must should mustNot filter)] := by
    rw [toJson]
    rfl
  rw [hform]
  show (Source.parts? ["must", "should", "must_not", "filter"]
    (clausesJson must should mustNot filter)).bind _ = _
  simp only [clausesJson, hp, Option.bind_eq_bind, Option.bind_some,
    required_clauses (hfound "must" (by simp)) hmust,
    required_clauses (hfound "should" (by simp)) hshould,
    required_clauses (hfound "must_not" (by simp)) hmustNot,
    required_clauses (hfound "filter" (by simp)) hfilter]

/-- **A query is read back**, if there are more levels than its stored form is deep. -/
theorem ofJson?_toJson (levels : Nat) (q : Query) (h : q.toJson.depth < levels) :
    ofJson? levels q.toJson = some q := by
  induction levels generalizing q with
  | zero => exact absurd h (Nat.not_lt_zero _)
  | succ levels ih =>
    cases q with
    | term field value =>
      exact Source.read_pair "field" "value" (by decide) Source.text? some Query.term rfl rfl
    | startsWith field start =>
      exact Source.read_pair "field" "prefix" (by decide) Source.text? Source.text? Query.startsWith rfl rfl
    | wildcard field pattern =>
      exact Source.read_pair "field" "pattern" (by decide) Source.text? Source.text? Query.wildcard rfl rfl
    | «exists» field => rfl
    | text query fields =>
      exact Source.read_pair "query" "fields" (by decide) Source.text? (Source.listOf? Source.text?)
        Query.text rfl (Source.listOf?_strings fields)
    | bool must should mustNot filter =>
      have hclause : ∀ (name : String) (clauses : List Query),
          (clausesJson must should mustNot filter).field? name = some (.arr (listToJson clauses)) →
            ∀ q ∈ clauses, ofJson? levels q.toJson = some q := fun _ _ hclauses q hq =>
        ih q (Nat.lt_of_lt_of_le (depth_clause hclauses hq) (Nat.le_of_lt_succ h))
      have hfield := Json.field?_object [("must", .arr (listToJson must)),
        ("should", .arr (listToJson should)), ("must_not", .arr (listToJson mustNot)),
        ("filter", .arr (listToJson filter))]
      exact ofJson?_bool (hclause _ _ (hfield "must")) (hclause _ _ (hfield "should"))
        (hclause _ _ (hfield "must_not")) (hclause _ _ (hfield "filter"))
    | raw body => rfl
    | matchAll => rfl

/-- The depth of the stored form is enough. -/
theorem decode?_toJson (q : Query) : decode? q.toJson = some q :=
  ofJson?_toJson _ q (Nat.lt_succ_self _)

end Query

/-! ## §3. Scripts. -/

namespace ScriptOp

/-- **An operation is read back**, in whichever of the four ways it is stored. -/
theorem decode?_toJson (op : ScriptOp) : decode? op.toJson = some op := by
  cases op with
  | propagateNested path param =>
    have hfield := Json.field?_object [("path", .str path), ("param", .str param)]
    show (do
      let path ← (Json.field? _ "path").bind Json.asStr?
      let param ← (Json.field? _ "param").bind Json.asStr?
      some (propagateNested path param)) = _
    rw [hfield "path", hfield "param"]
    rfl
  | _ => rfl

end ScriptOp

namespace Script

/-- **A script is read back**, with its operations in order and all its parameters. -/
theorem decode?_toJson (s : Script) : decode? s.toJson = some s := by
  refine Source.read_pair "ops" "params" (by decide) (Source.listOf? ScriptOp.decode?) Json.asObj? Script.mk
    ?_ rfl
  exact Source.each?_map fun op _ => op.decode?_toJson

end Script

/-- **Stored forms lose nothing.**  Every query, of any depth, and every script is read back from its stored
    form; hence no two queries have one form, and no two scripts. -/
theorem stored_read_back :
    (∀ q : Query, Query.decode? q.toJson = some q)
      ∧ (∀ s : Script, Script.decode? s.toJson = some s)
      ∧ (∀ q q' : Query, q.toJson = q'.toJson → q = q')
      ∧ ∀ s s' : Script, s.toJson = s'.toJson → s = s' := by
  refine ⟨Query.decode?_toJson, Script.decode?_toJson, fun q q' h => ?_, fun s s' h => ?_⟩
  · have hread := Query.decode?_toJson q
    rw [h, Query.decode?_toJson q'] at hread
    exact (Option.some.inj hread).symm
  · have hread := Script.decode?_toJson s
    rw [h, Script.decode?_toJson s'] at hread
    exact (Option.some.inj hread).symm

end CatalogIndex
