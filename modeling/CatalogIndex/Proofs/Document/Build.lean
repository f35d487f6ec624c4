/-
  CatalogIndex.Proofs.Document.Build — what the fields of a built document depend on.

  A builder shapes the body of an entity, drops fields and adds suggestions.  Here its work is told
  field by field.  An enrichment reads a few fields of the body (`sources`) and writes one field of
  the document (`target`); all else passes through.  So the building of an entity never fails, a
  field that no enrichment writes can be read off the body, and two bodies that agree wherever an
  enrichment looks give documents that agree wherever the bodies do.

  ## Main results

    * `Builder.build_ok` — every builder makes a document of every entity;
    * `Builder.get?_build` — the fields of a document that no enrichment writes;
    * `Builder.build_agree` — agreement of bodies carries over to documents.
-/
import CatalogIndex.Document.Builder
import CatalogIndex.Proofs.Entity.Written
import CatalogIndex.Proofs.Keyed
import Mathlib.Data.List.Basic

namespace CatalogIndex

/-! ## §1. Suggestions can be read back. -/

namespace Suggestion

/-- Suggestions whose weights fit into 32 bits. -/
def Fit (suggestions : List Suggestion) : Prop := ∀ s ∈ suggestions, s.weight < Nat.pow 2 32

theorem decode?_toJson {s : Suggestion} (h : s.weight < Nat.pow 2 32) : decode? s.toJson = some s := by
  obtain ⟨p, hp, hfound⟩ := Source.parts?_object ["input", "weight"]
    [("input", .str s.input), ("weight", .nat s.weight)]
  have hinput : p.found.lookup "input" = some (.str s.input) := by
    rw [hfound _ (by decide)]
    simp [Keyed.get?]
  have hweight : p.found.lookup "weight" = some (.nat s.weight) := by
    rw [hfound _ (by decide)]
    simp [Keyed.get?]
  have hfits : Source.natBelow? (Nat.pow 2 32) (Json.nat s.weight) = some s.weight := by
    show Option.filter (fun n => decide (n < Nat.pow 2 32)) (some s.weight) = some s.weight
    rw [Option.filter_some, decide_eq_true h]
    rfl
  have hinput : p.required "input" Source.text? = some s.input :=
    Source.Parts.required_written hinput rfl
  unfold decode?
  rw [show Source.parts? ["input", "weight"] s.toJson = some p from hp]
  simp only [hinput, Source.Parts.required_written hweight hfits, Option.bind_eq_bind, Option.bind_some]

theorem weight_lt_of_decode? {v : Json} {s : Suggestion} (h : decode? v = some s) :
    s.weight < Nat.pow 2 32 := by
  unfold decode? at h
  obtain ⟨p, -, h⟩ := Option.bind_eq_some_iff.1 h
  obtain ⟨input, -, h⟩ := Option.bind_eq_some_iff.1 h
  obtain ⟨weight, hweight, h⟩ := Option.bind_eq_some_iff.1 h
  cases h
  obtain ⟨x, -, hx⟩ := Option.bind_eq_some_iff.1 hweight
  have hlt := (Option.filter_eq_some_iff.1 hx).2
  simpa using hlt

/-- Written suggestions read back as they were. -/
theorem read_listToJson {suggestions : List Suggestion} (h : Fit suggestions) :
    Source.listOf? decode? (listToJson suggestions) = some suggestions :=
  Source.each?_map fun s hs => decode?_toJson (h s hs)

theorem fit_of_read {v : Json} {suggestions : List Suggestion}
    (h : Source.listOf? decode? v = some suggestions) : Fit suggestions := by
  obtain ⟨items, -, hitems⟩ := Option.bind_eq_some_iff.1 h
  exact Source.forall_of_each? (fun _ _ => weight_lt_of_decode?) hitems

theorem fit_forEntity (name fqn : String) : Fit (forEntity name fqn) := by
  intro s hs
  unfold forEntity at hs
  rcases List.mem_append.1 hs with hs | hs
  · split at hs
    · cases hs
    · rw [List.mem_singleton.1 hs]
      show nameWeight < Nat.pow 2 32
      decide
  · split at hs
    · cases hs
    · rw [List.mem_singleton.1 hs]
      show fullNameWeight < Nat.pow 2 32
      decide

end Suggestion

/-! ## §2. What an enrichment reads and writes. -/

namespace Enrichment

/-- The field of a document that gets the suggestions. -/
def target : Enrichment → String
  | .children key _ | .pointed key _ => key
  | .synonyms => "suggest"

/-- The fields of a body that decide what the suggestions say. -/
def sources : Enrichment → List String
  | .children _ paths => paths.filterMap List.head?
  | .pointed _ field => [field]
  | .synonyms => ["synonyms"]

/-- The suggestions to put under the target, which may hold some already. -/
def outcome (body : Fields) (current : Option Json) : Enrichment → Outcome (List Suggestion)
  | .children _ paths =>
    .ok <| paths.foldl
      (fun acc path => merged acc (Suggestion.forChildren ((Json.obj body).path? path))) []
  | .pointed _ field =>
    let name := ((Json.obj body).path? [field, "name"]).bind Json.asStr?
    .ok (name.toList.map (⟨·, Suggestion.childWeight⟩))
  | .synonyms =>
    match synonyms? body with
    | none => .ok []
    | some more =>
      match current with
      | none => .ok (merged [] more)
      | some v =>
        match Source.listOf? Suggestion.decode? v with
        | some known => .ok (merged known more)
        | none => .error .malformedJson

/-- An enrichment puts suggestions under its target and does nothing else. -/
theorem apply_eq (e : Enrichment) (body fields : Fields) :
    e.apply body fields
      = (e.outcome body (Keyed.get? fields e.target)).map (putSuggestions fields e.target) := by
  cases e with
  | children key paths => rfl
  | pointed key field => rfl
  | synonyms =>
    show apply body fields .synonyms = _
    unfold apply outcome target
    cases synonyms? body with
    | none => rfl
    | some more =>
      cases Keyed.get? fields "suggest" with
      | none => rfl
      | some v =>
        dsimp only
        cases Source.listOf? Suggestion.decode? v <;> rfl

/-- Suggestions under `key` leave every other field alone. -/
theorem get?_putSuggestions (fields : Fields) (key other : String) (s : List Suggestion) :
    Keyed.get? (putSuggestions fields key s) other
      = if other = key ∧ s ≠ [] then some (Suggestion.listToJson s) else Keyed.get? fields other := by
  unfold putSuggestions
  cases s with
  | nil => simp
  | cons head rest => simp [Keyed.get?_insert]

/-- The new suggestions depend on the sources in the body and on what the target holds. -/
theorem outcome_congr {e : Enrichment} {body body' : Fields}
    (h : ∀ key ∈ e.sources, Keyed.get? body key = Keyed.get? body' key) (current : Option Json) :
    e.outcome body current = e.outcome body' current := by
  cases e with
  | children key paths =>
    -- of the body, a path sees nothing but its first field
    have hpath : ∀ path ∈ paths, Suggestion.forChildren ((Json.obj body).path? path)
        = Suggestion.forChildren ((Json.obj body').path? path) := by
      intro path hmem
      cases path with
      | nil => rfl
      | cons first rest =>
        have hfirst := h first (List.mem_filterMap.2 ⟨first :: rest, hmem, rfl⟩)
        simp [Json.path?, Json.field?, hfirst]
    show Except.ok _ = Except.ok _
    exact congrArg Except.ok
      (List.foldl_ext _ _ _ fun acc path hmem => by rw [hpath path hmem])
  | pointed key field =>
    have hfield := h field List.mem_cons_self
    simp [outcome, Json.path?, Json.field?, hfield]
  | synonyms =>
    have hsyn := h "synonyms" List.mem_cons_self
    simp [outcome, synonyms?, hsyn]

/-! ## §3. Enrichments do not fail on readable suggestions. -/

theorem fit_merged {known more : List Suggestion} (hknown : Suggestion.Fit known)
    (hmore : Suggestion.Fit more) : Suggestion.Fit (merged known more) := by
  unfold merged
  -- every new suggestion joins the known ones, from which the rest goes on
  induction more generalizing known with
  | nil => exact hknown
  | cons s rest ih =>
    have hrest : Suggestion.Fit rest := fun t ht => hmore t (List.mem_cons_of_mem _ ht)
    rw [List.foldl_cons]
    by_cases hs : s ∈ known
    · rw [if_pos hs]
      exact ih hknown hrest
    · rw [if_neg hs]
      refine ih ?_ hrest
      intro t ht
      rcases List.mem_append.1 ht with ht | ht
      · exact hknown t ht
      · rw [List.mem_singleton.1 ht]
        exact hmore s List.mem_cons_self

/-- Suggestions that all weigh as much as the name of a child. -/
theorem fit_children (names : List String) :
    Suggestion.Fit (names.map (⟨·, Suggestion.childWeight⟩)) := by
  intro s hs
  obtain ⟨name, -, rfl⟩ := List.mem_map.1 hs
  show Suggestion.childWeight < Nat.pow 2 32
  decide

theorem fit_nil : Suggestion.Fit [] := fun _ h => absurd h List.not_mem_nil

theorem fit_forChildren (list : Option Json) : Suggestion.Fit (Suggestion.forChildren list) := by
  cases list with
  | none => exact fit_nil
  | some v => exact fit_children _

/-- The suggestions of a document, if it has any, can be read back. -/
def Readable (current : Option Json) : Prop :=
  ∀ v, current = some v → ∃ known, Source.listOf? Suggestion.decode? v = some known

/-- Readable suggestions lead to suggestions that fit. -/
theorem outcome_ok {e : Enrichment} {current : Option Json}
    (h : e.target = "suggest" → Readable current) (body : Fields) :
    ∃ s, e.outcome body current = .ok s ∧ Suggestion.Fit s := by
  cases e with
  | children key paths =>
    refine ⟨_, rfl, ?_⟩
    refine List.foldlRecOn paths _ fit_nil ?_
    intro acc hacc path _
    exact fit_merged hacc (fit_forChildren _)
  | pointed key field => exact ⟨_, rfl, fit_children _⟩
  | synonyms =>
    unfold outcome
    cases hsyn : synonyms? body with
    | none => exact ⟨[], rfl, fit_nil⟩
    | some more =>
      have hmore : Suggestion.Fit more := by
        obtain ⟨items, -, rfl⟩ := Option.map_eq_some_iff.1 hsyn
        exact fit_children _
      cases current with
      | none => exact ⟨_, rfl, fit_merged fit_nil hmore⟩
      | some v =>
        -- the one way to fail: suggestions under the target that cannot be read
        obtain ⟨known, hknown⟩ := h rfl v rfl
        refine ⟨merged known more, ?_, fit_merged (Suggestion.fit_of_read hknown) hmore⟩
        simp only [hknown]

/-- An enrichment of a document with readable suggestions succeeds and keeps them readable. -/
theorem apply_ok {fields : Fields} (h : Readable (Keyed.get? fields "suggest")) (e : Enrichment)
    (body : Fields) :
    ∃ after, e.apply body fields = .ok after ∧ Readable (Keyed.get? after "suggest") := by
  obtain ⟨s, hs, hfit⟩ := outcome_ok (e := e) (fun ht => ht ▸ h) body
  refine ⟨putSuggestions fields e.target s, ?_, ?_⟩
  · rw [apply_eq, hs]
    rfl
  · intro v hv
    rw [get?_putSuggestions] at hv
    split at hv
    · cases hv
      exact ⟨s, Suggestion.read_listToJson hfit⟩
    · exact h v hv

end Enrichment

/-! ## §4. The fields before the enrichments. -/

theorem get?_adjust (fields : Fields) (key other : String) (f : Json → Json) :
    Keyed.get? (adjust fields key f) other
      = if other = key then (Keyed.get? fields key).map f else Keyed.get? fields other := by
  unfold adjust
  cases h : Keyed.get? fields key with
  | none =>
    by_cases ho : other = key
    · rw [if_pos ho, ho, h]
      rfl
    · rw [if_neg ho]
  | some v => rw [Keyed.get?_insert, Option.map_some]

namespace Builder

/-- The shape that a field gets before anything is left out or added. -/
def shape (key : String) (v : Json) : Json :=
  if key = "followers" then bareFollowers v else if key = "owners" then namedOwners v else v

/-- A field before the enrichments: that of the names, or else that of the body in its shape, unless
    it must not be found. -/
theorem get?_plainFields (b : Builder) (x : Indexable) (key : String) :
    Keyed.get? (b.plainFields x) key
      = (if x.timeSeries then none else Keyed.get? (nameFields x).reverse key).or
          (if key ∈ alwaysExcluded ++ b.excluded then none
           else (Keyed.get? x.body key).map (shape key)) := by
  -- owners and followers are different fields, so the two changes of shape do not meet
  have hshaped : Keyed.get? (adjust (adjust x.body "owners" namedOwners) "followers" bareFollowers) key
      = (Keyed.get? x.body key).map (shape key) := by
    rw [get?_adjust]
    by_cases hf : key = "followers"
    · subst hf
      rw [if_pos rfl, get?_adjust, if_neg (by decide)]
      rfl
    · rw [if_neg hf, get?_adjust]
      by_cases ho : key = "owners"
      · subst ho
        rw [if_pos rfl]
        rfl
      · have hid : shape key = id := by
          funext v
          simp [shape, hf, ho]
        rw [if_neg ho, hid, Option.map_id_fun, id]
  unfold plainFields
  dsimp only
  cases x.timeSeries with
  | true =>
    rw [if_pos rfl, if_pos rfl, Keyed.get?_eraseAll, hshaped, Option.none_or]
  | false =>
    rw [if_neg (by decide), if_neg (by decide), Keyed.get?_layer, Keyed.get?_eraseAll, hshaped]

/-- The suggestions that an entity starts with can be read back. -/
theorem readable_plainFields (b : Builder) {x : Indexable} (h : x.timeSeries = false) :
    Enrichment.Readable (Keyed.get? (b.plainFields x) "suggest") := by
  intro v hv
  rw [get?_plainFields, h] at hv
  have hnames : Keyed.get? (nameFields x).reverse "suggest"
      = some (Suggestion.listToJson (Suggestion.forEntity x.name x.fullyQualifiedName)) := by
    simp [nameFields, Keyed.get?]
  rw [hnames] at hv
  cases hv
  exact ⟨_, Suggestion.read_listToJson (Suggestion.fit_forEntity _ _)⟩

/-! ## §5. Whole documents. -/

/-- The document of an entity is made of the fields that the enrichments leave. -/
theorem build_eq_ok {b : Builder} {x : Indexable} {d : Document} (h : b.build x = .ok d) :
    ∃ fields, b.enrichments.foldlM (fun fields e => e.apply x.body fields) (b.plainFields x)
        = .ok fields
      ∧ d = { id := x.id, fields := Keyed.insert fields "entityType" (.str b.entityType) } := by
  unfold build at h
  cases hrun : b.enrichments.foldlM (fun fields e => e.apply x.body fields) (b.plainFields x) with
  | error e =>
    rw [hrun] at h
    cases h
  | ok fields =>
    rw [hrun] at h
    cases h
    exact ⟨fields, rfl, rfl⟩

/-- **Every builder makes a document of every entity.** -/
theorem build_ok (b : Builder) {x : Indexable} (h : x.timeSeries = false) :
    ∃ d, b.build x = .ok d := by
  -- readable suggestions are what every enrichment needs, and what it leaves
  have hrun : ∀ (es : List Enrichment) (fields : Fields),
      Enrichment.Readable (Keyed.get? fields "suggest") →
      ∃ after, es.foldlM (fun fields e => e.apply x.body fields) fields = .ok after := by
    intro es
    induction es with
    | nil => exact fun fields _ => ⟨fields, rfl⟩
    | cons e rest ih =>
      intro fields hread
      obtain ⟨next, hnext, hread'⟩ := Enrichment.apply_ok hread e x.body
      obtain ⟨after, hafter⟩ := ih next hread'
      refine ⟨after, ?_⟩
      rw [List.foldlM_cons, hnext]
      exact hafter
  obtain ⟨after, hafter⟩ := hrun b.enrichments _ (b.readable_plainFields h)
  refine ⟨{ id := x.id, fields := Keyed.insert after "entityType" (.str b.entityType) }, ?_⟩
  unfold build
  rw [hafter]
  rfl

end Builder

/-- Two collections of fields with the same values under every key outside of `P`. -/
def AgreeOutside (P : String → Prop) (a b : Fields) : Prop :=
  ∀ key, ¬ P key → Keyed.get? a key = Keyed.get? b key

namespace Enrichment

/-- An enrichment that neither reads nor writes in `P` keeps agreement outside of `P`. -/
theorem apply_agree {P : String → Prop} {e : Enrichment} {body body' fields fields' : Fields}
    (hsources : ∀ key ∈ e.sources, ¬ P key) (htarget : ¬ P e.target)
    (hbody : AgreeOutside P body body') (hfields : AgreeOutside P fields fields')
    {after after' : Fields} (hafter : e.apply body fields = .ok after)
    (hafter' : e.apply body' fields' = .ok after') : AgreeOutside P after after' := by
  rw [apply_eq] at hafter hafter'
  -- both runs put the same suggestions under the target
  have hsame : e.outcome body (Keyed.get? fields e.target)
      = e.outcome body' (Keyed.get? fields' e.target) := by
    rw [hfields e.target htarget]
    exact outcome_congr (fun key hkey => hbody key (hsources key hkey)) _
  rw [← hsame] at hafter'
  cases hs : e.outcome body (Keyed.get? fields e.target) with
  | error err =>
    rw [hs] at hafter
    cases hafter
  | ok s =>
    rw [hs] at hafter hafter'
    cases hafter
    cases hafter'
    intro key hkey
    rw [get?_putSuggestions, get?_putSuggestions, hfields key hkey]

/-- Enrichments change only their targets. -/
theorem get?_run {key : String} {body : Fields} {es : List Enrichment}
    (hkey : ∀ e ∈ es, e.target ≠ key) {fields after : Fields}
    (h : es.foldlM (fun fields e => e.apply body fields) fields = .ok after) :
    Keyed.get? after key = Keyed.get? fields key := by
  induction es generalizing fields with
  | nil =>
    cases h
    rfl
  | cons e rest ih =>
    rw [List.foldlM_cons, apply_eq] at h
    cases hs : e.outcome body (Keyed.get? fields e.target) with
    | error err =>
      rw [hs] at h
      cases h
    | ok s =>
      rw [hs] at h
      have hne : ¬ (key = e.target ∧ s ≠ []) := fun hk => hkey e List.mem_cons_self hk.1.symm
      rw [ih (fun o ho => hkey o (List.mem_cons_of_mem _ ho)) h, get?_putSuggestions, if_neg hne]

/-- Runs of enrichments that neither read nor write in `P` keep agreement outside of `P`. -/
theorem run_agree {P : String → Prop} {es : List Enrichment} {body body' : Fields}
    (hes : ∀ e ∈ es, (∀ key ∈ e.sources, ¬ P key) ∧ ¬ P e.target)
    (hbody : AgreeOutside P body body') {fields fields' : Fields}
    (hfields : AgreeOutside P fields fields') {after after' : Fields}
    (hafter : es.foldlM (fun fields e => e.apply body fields) fields = .ok after)
    (hafter' : es.foldlM (fun fields e => e.apply body' fields) fields' = .ok after') :
    AgreeOutside P after after' := by
  induction es generalizing fields fields' with
  | nil =>
    cases hafter
    cases hafter'
    exact hfields
  | cons e rest ih =>
    rw [List.foldlM_cons] at hafter hafter'
    obtain ⟨hsources, htarget⟩ := hes e List.mem_cons_self
    cases hnext : e.apply body fields with
    | error err =>
      rw [hnext] at hafter
      cases hafter
    | ok next =>
      cases hnext' : e.apply body' fields' with
      | error err =>
        rw [hnext'] at hafter'
        cases hafter'
      | ok next' =>
        rw [hnext] at hafter
        rw [hnext'] at hafter'
        exact ih (fun o ho => hes o (List.mem_cons_of_mem _ ho))
          (apply_agree hsources htarget hbody hfields hnext hnext') hafter hafter'

end Enrichment

namespace Builder

/-- A field of a document that no enrichment writes, of an entity. -/
theorem get?_build {b : Builder} {x : Indexable} {d : Document} (h : b.build x = .ok d)
    {key : String} (htype : key ≠ "entityType") (htargets : ∀ e ∈ b.enrichments, e.target ≠ key) :
    Keyed.get? d.fields key = Keyed.get? (b.plainFields x) key := by
  obtain ⟨fields, hrun, rfl⟩ := build_eq_ok h
  rw [Keyed.get?_insert, if_neg htype]
  exact Enrichment.get?_run htargets hrun

/-- **Bodies that agree outside of `P`, where no enrichment looks, give documents that do.** -/
theorem build_agree {P : String → Prop} {b : Builder} {x y : Indexable}
    (hes : ∀ e ∈ b.enrichments, (∀ key ∈ e.sources, ¬ P key) ∧ ¬ P e.target)
    (hname : x.name = y.name) (hfqn : x.fullyQualifiedName = y.fullyQualifiedName)
    (hseries : x.timeSeries = y.timeSeries) (hbody : AgreeOutside P x.body y.body)
    {d d' : Document} (hx : b.build x = .ok d) (hy : b.build y = .ok d') :
    AgreeOutside P d.fields d'.fields := by
  obtain ⟨fields, hrun, rfl⟩ := build_eq_ok hx
  obtain ⟨fields', hrun', rfl⟩ := build_eq_ok hy
  have hnames : nameFields x = nameFields y := by
    unfold nameFields
    rw [hname, hfqn]
  have hplain : AgreeOutside P (b.plainFields x) (b.plainFields y) := by
    intro key hkey
    rw [get?_plainFields, get?_plainFields, hseries, hnames, hbody key hkey]
  have hagree := Enrichment.run_agree hes hbody hplain hrun hrun'
  intro key hkey
  rw [Keyed.get?_insert, Keyed.get?_insert, hagree key hkey]

end Builder

/-- Of many builders, that of the type does all the work. -/
theorem Builders.build_of_get? {bs : Builders} {x : Indexable} {b : Builder}
    (h : Keyed.get? bs x.entityType = some b) : bs.build x = b.build x := by
  unfold Builders.build
  rw [h]

end CatalogIndex
