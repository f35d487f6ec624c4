/-
  CatalogIndex.Proofs.Query.Selection — which documents a query selects.

  The engines carry queries out, so what a query selects is a definition of its own here.  A comparison
  looks at the values that a document has under a dotted name: one of them has to be equal, or to begin
  with a text.  A `bool` asks for all of `must` and `filter` and for none of `mustNot`; one of `should`
  has to hold only if there is neither `must` nor `filter`.  What an engine makes of the other kinds of
  queries is left to `judge`.

  ## Main definitions

    * `Query.selects` — whether a query selects a document;
    * `matching` — a store of documents that answers queries.

  ## Main results

    * `selects_textTerm`, `selects_startsWith` — comparisons of one field;
    * `selects_anyOf`, `selects_allOf` — one of several queries, and all of them;
    * `selects_renameQuery` — a rename goes to the names at or below the old one;
    * `asksFor_eq_selects` — a cascade goes to the documents that its query selects.
-/
import CatalogIndex.Proofs.Cascade.Store
import CatalogIndex.Proofs.Name.Segments

namespace CatalogIndex

/-! ## §1. Selection. -/

namespace Query

mutual

/-- Whether a query selects a document. -/
def selects (judge : Query → Json → Bool) (source : Json) : Query → Bool
  | .term field value => (source.valuesAt (Text.split '.' field)).contains value
  | .startsWith field start => (source.valuesAt (Text.split '.' field)).any fun v =>
    match v with
    | .str s => Text.startsWith s start
    | _ => false
  | .bool must should mustNot filter =>
    selectsAll judge source must && selectsAll judge source filter && !selectsSome judge source mustNot
      && (should.isEmpty || !must.isEmpty || !filter.isEmpty || selectsSome judge source should)
  | .matchAll => true
  | q => judge q source

def selectsAll (judge : Query → Json → Bool) (source : Json) : List Query → Bool
  | [] => true
  | q :: rest => selects judge source q && selectsAll judge source rest

def selectsSome (judge : Query → Json → Bool) (source : Json) : List Query → Bool
  | [] => false
  | q :: rest => selects judge source q || selectsSome judge source rest

end

variable {judge : Query → Json → Bool} {source : Json}

theorem selectsAll_eq (qs : List Query) :
    selectsAll judge source qs = qs.all (selects judge source) := by
  induction qs with
  | nil => rfl
  | cons q rest ih => simp [selectsAll, ih]

theorem selectsSome_eq (qs : List Query) :
    selectsSome judge source qs = qs.any (selects judge source) := by
  induction qs with
  | nil => rfl
  | cons q rest ih => simp [selectsSome, ih]

theorem selects_bool (must should mustNot filter : List Query) :
    (Query.bool must should mustNot filter).selects judge source
      = (must.all (selects judge source) && filter.all (selects judge source)
        && !mustNot.any (selects judge source)
        && (should.isEmpty || !must.isEmpty || !filter.isEmpty
          || should.any (selects judge source))) := by
  rw [← selectsAll_eq, ← selectsAll_eq, ← selectsSome_eq, ← selectsSome_eq]
  rfl

/-! ## §2. One field. -/

theorem selects_textTerm {field value : String} :
    (textTerm field value).selects judge source = true
      ↔ .str value ∈ source.valuesAt (Text.split '.' field) := by
  unfold textTerm selects
  exact List.contains_iff_mem

theorem selects_startsWith {field start : String} :
    (Query.startsWith field start).selects judge source = true
      ↔ ∃ s, .str s ∈ source.valuesAt (Text.split '.' field) ∧ Text.startsWith s start = true := by
  unfold selects
  rw [List.any_eq_true]
  constructor
  · rintro ⟨v, hv, hstart⟩
    cases v with
    | str s => exact ⟨s, hv, hstart⟩
    | _ => cases hstart
  · rintro ⟨s, hs, hstart⟩
    exact ⟨.str s, hs, hstart⟩

/-! ## §3. Several queries. -/

theorem selects_anyOf {qs : List Query} (h : qs ≠ []) :
    (Query.bool [] qs [] []).selects judge source = true
      ↔ ∃ q ∈ qs, q.selects judge source = true := by
  rw [selects_bool]
  simp [h]

theorem selects_allOf (qs : List Query) :
    (Query.bool [] [] [] qs).selects judge source = qs.all (selects judge source) := by
  rw [selects_bool]
  simp

end Query

/-! ## §4. Documents with a text in a field. -/

/-- The value of a field that is no list is what is found under the name of the field. -/
theorem Json.valuesAt_field {fields : Fields} {key text : String}
    (h : Keyed.get? fields key = some (.str text)) :
    Json.valuesAt (.obj fields) [key] = [.str text] :=
  Json.valuesAt_of_get?_eq_some h []

/-! ## §5. Stores that answer queries. -/

/-- The documents of a store that a query selects, in their order; only comparisons count. -/
def matching (store : List Fields) (q : Query) : List Fields :=
  store.filter fun d => q.selects (fun _ _ => true) (.obj d)

/-! ## §6. Cascades. -/

theorem Text.isSome_dropStart? (start s : String) :
    (Text.dropStart? start s).isSome = Text.startsWith s start := by
  unfold Text.dropStart?
  cases Text.startsWith s start <;> rfl

/-- A rename goes to the documents with a name at or below the old one. -/
theorem Cluster.selects_renameQuery {judge : Query → Json → Bool} {source : Json}
    {oldStart field : String} :
    (Cluster.renameQuery oldStart field).selects judge source = true
      ↔ ∃ name, .str name ∈ source.valuesAt (Text.split '.' field) ∧ Name.AtOrBelow oldStart name := by
  unfold Cluster.renameQuery Name.AtOrBelow
  rw [Query.selects_anyOf (by simp)]
  constructor
  · rintro ⟨q, hq, hselects⟩
    rcases List.mem_cons.1 hq with rfl | hq
    · exact ⟨oldStart, Query.selects_textTerm.1 hselects, Or.inl rfl⟩
    · rw [List.mem_singleton.1 hq] at hselects
      obtain ⟨name, hname, hstart⟩ := Query.selects_startsWith.1 hselects
      exact ⟨name, hname, Or.inr hstart⟩
  · rintro ⟨name, hname, rfl | hstart⟩
    · exact ⟨_, List.mem_cons_self, Query.selects_textTerm.2 hname⟩
    · exact ⟨_, List.mem_cons_of_mem _ List.mem_cons_self,
        Query.selects_startsWith.2 ⟨name, hname, hstart⟩⟩

namespace CascadeOp

/-- The query of a cascade. -/
def query : CascadeOp → Query
  | .update u => u.matcher.toQuery
  | .deleteMatching _ ms | .flagMatching _ ms _ => FieldMatch.conjunction ms
  | .rename _ oldStart _ field => Cluster.renameQuery oldStart field

theorem selects_toQuery (judge : Query → Json → Bool) (m : FieldMatch) (d : Document) :
    m.toQuery.selects judge d.source = m.holds d := rfl

theorem selects_conjunction (judge : Query → Json → Bool) (ms : List FieldMatch) (d : Document) :
    (FieldMatch.conjunction ms).selects judge d.source = ms.all (·.holds d) := by
  rcases ms with _ | ⟨m, _ | ⟨m', rest⟩⟩
  · rfl
  · simp [FieldMatch.conjunction, selects_toQuery]
  · show (Query.bool [] [] [] _).selects judge d.source = _
    rw [Query.selects_allOf, List.all_map]
    rfl

/-- **A cascade with something to match goes to the documents that its query selects.** -/
theorem asksFor_eq_selects (judge : Query → Json → Bool) {op : CascadeOp}
    (h : ∀ aliases, op ≠ .deleteMatching aliases []) (d : Document) :
    op.asksFor d = op.query.selects judge d.source := by
  cases op with
  | update u => rfl
  | deleteMatching aliases ms =>
    -- a deletion that asks for nothing is refused, while its query would select everything
    have hne : ms.isEmpty = false := by
      cases ms with
      | nil => exact absurd rfl (h aliases)
      | cons => rfl
    show (!ms.isEmpty && ms.all (·.holds d)) = (FieldMatch.conjunction ms).selects judge d.source
    rw [selects_conjunction, hne]
    rfl
  | flagMatching aliases ms s => exact (selects_conjunction judge ms d).symm
  | rename index oldStart newStart field =>
    -- the old name itself, or the old name and a dot: two queries on the one side, an or on the other
    rw [Bool.eq_iff_iff]
    show List.any _ _ = true ↔ (Cluster.renameQuery oldStart field).selects judge d.source = true
    rw [Cluster.selects_renameQuery, List.any_eq_true]
    constructor
    · rintro ⟨v, hv, hname⟩
      rcases (Bool.or_eq_true _ _).mp hname with heq | hstart
      · rw [of_decide_eq_true heq] at hv
        exact ⟨oldStart, hv, Or.inl rfl⟩
      · cases v with
        | str name =>
          rw [Json.asStr?, Option.bind_some, Text.isSome_dropStart?] at hstart
          exact ⟨name, hv, Or.inr hstart⟩
        | _ => cases hstart
    · rintro ⟨name, hname, rfl | hstart⟩
      · exact ⟨_, hname, by simp⟩
      · refine ⟨_, hname, ?_⟩
        rw [Json.asStr?, Option.bind_some, Text.isSome_dropStart?, hstart, Bool.or_true]

end CascadeOp

end CatalogIndex
