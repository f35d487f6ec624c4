/-
  CatalogIndex.Proofs.Cascade.Store — what cascades make of the documents of a cluster.

  A cluster holds documents in indexes, and an index belongs to aliases.  A cascade goes to the
  documents under its targets that match at that moment: it runs its script on them, or it deletes
  them.  Cascades are carried out one after the other, so each of them sees what the earlier ones
  left.

  ## Main definitions

    * `Json.valuesAt` — what a query finds under a dotted name;
    * `Stored`, `CascadeOp.selects` — documents in their places, and those that a cascade goes to;
    * `CascadeOp.storeAfter?`, `storeAfterAll?` — the documents after cascades.

  ## Main results

    * `storeAfterAll?_cons` — one cascade after another;
    * `storeAfter?_of_script` — a cascade with a script as a change of every document.
-/
import CatalogIndex.Cluster.ByQuery
import CatalogIndex.Document.Basic
import CatalogIndex.Proofs.Script.Effect

namespace CatalogIndex

namespace Json

/-! ## §1. Values under a dotted name. -/

mutual

/-- The values that are reached through the named fields; lists are looked through. -/
def valuesAt : Json → List String → List Json
  | .arr items, path => valuesInItems items path
  | .obj fields, key :: rest => valuesInField fields key rest
  | v, [] => [v]
  | _, _ :: _ => []

def valuesInItems : List Json → List String → List Json
  | [], _ => []
  | v :: rest, path => valuesAt v path ++ valuesInItems rest path

def valuesInField : List (String × Json) → String → List String → List Json
  | [], _, _ => []
  | (k, v) :: rest, key, path => if k = key then valuesAt v path else valuesInField rest key path

end

theorem valuesInField_eq (fields : Fields) (key : String) (path : List String) :
    valuesInField fields key path = match Keyed.get? fields key with
      | some v => valuesAt v path
      | none => [] := by
  induction fields with
  | nil => rfl
  | cons entry rest ih =>
    obtain ⟨k, v⟩ := entry
    by_cases h : k = key
    · simp [valuesInField, Keyed.get?, h]
    · simpa [valuesInField, Keyed.get?, h] using ih

/-- What is found under a name is what is found in its first field. -/
theorem valuesAt_of_get?_eq_some {fields : Fields} {key : String} {v : Json}
    (h : Keyed.get? fields key = some v) (path : List String) :
    valuesAt (.obj fields) (key :: path) = valuesAt v path := by
  show valuesInField fields key path = _
  rw [valuesInField_eq, h]

/-- Nothing is found under a name whose first field is not there. -/
theorem valuesAt_of_get?_eq_none {fields : Fields} {key : String}
    (h : Keyed.get? fields key = none) (path : List String) :
    valuesAt (.obj fields) (key :: path) = [] := by
  show valuesInField fields key path = []
  rw [valuesInField_eq, h]

end Json

/-! ## §2. Documents in their places. -/

/-- A document, the index that holds it, and the aliases of that index. -/
structure Stored where
  index : String
  aliases : List String
  doc : Document
  deriving DecidableEq

namespace Stored

/-- What tells a document from the others. -/
def key (d : Stored) : String × String := (d.index, d.doc.id)

/-- Whether a document is under one of the names. -/
def isUnder (d : Stored) (names : List String) : Bool :=
  names.any fun name => name = d.index || d.aliases.contains name

end Stored

/-- Whether a document has the text in the field. -/
def FieldMatch.holds (m : FieldMatch) (d : Document) : Bool :=
  (d.source.valuesAt (Text.split '.' m.field)).contains (.str m.value)

namespace CascadeOp

/-- Whether a document has what a cascade asks for.  A deletion that asks for nothing is refused. -/
def asksFor (d : Document) : CascadeOp → Bool
  | .update u => u.matcher.holds d
  | .deleteMatching _ ms => !ms.isEmpty && ms.all (·.holds d)
  | .flagMatching _ ms _ => ms.all (·.holds d)
  | .rename _ oldStart _ field =>
    (d.source.valuesAt (Text.split '.' field)).any fun v =>
      v = .str oldStart || (v.asStr?.bind (Text.dropStart? (oldStart ++ "."))).isSome

/-- The documents that a cascade goes to. -/
def selects (r : Registry) (op : CascadeOp) (d : Stored) : Bool :=
  d.isUnder (op.targets r) && op.asksFor d.doc

/-- The script that a cascade runs; a deletion has none. -/
def script? : CascadeOp → Option Script
  | .update u => some u.script
  | .deleteMatching _ _ => none
  | .flagMatching _ _ s => some s
  | .rename _ oldStart newStart field => some (Cluster.renameScript oldStart newStart field)

/-- A document after a script. -/
def patchStored? (s : Script) (d : Stored) : Option Stored :=
  (s.patched? d.doc.fields).map fun fields => { d with doc := { d.doc with fields } }

/-- The documents after a cascade. -/
def storeAfter? (r : Registry) (op : CascadeOp) (store : List Stored) : Option (List Stored) :=
  match op.script? with
  | some s => store.mapM fun d => if op.selects r d then patchStored? s d else some d
  | none => some (store.filter fun d => !op.selects r d)

/-- The documents after cascades, one after the other. -/
def storeAfterAll? (r : Registry) (ops : List CascadeOp) (store : List Stored) : Option (List Stored) :=
  ops.foldlM (fun store op => op.storeAfter? r store) store

theorem storeAfterAll?_cons {r : Registry} {op : CascadeOp} {store next : List Stored}
    (h : op.storeAfter? r store = some next) (ops : List CascadeOp) :
    storeAfterAll? r (op :: ops) store = storeAfterAll? r ops next := by
  unfold storeAfterAll?
  rw [List.foldlM_cons, h]
  rfl

/-! ## §3. Cascades as changes of every document. -/

/-- A cascade with a script that succeeds on every document it goes to. -/
theorem storeAfter?_of_script {r : Registry} {op : CascadeOp} {s : Script} (hs : op.script? = some s)
    {f : Stored → Stored} {store : List Stored}
    (h : ∀ d, op.selects r d = true → patchStored? s d = some (f d)) :
    op.storeAfter? r store = some (store.map fun d => if op.selects r d then f d else d) := by
  -- no document fails, so the step is a total one
  have hstep : (fun d => if op.selects r d then patchStored? s d else some d)
      = fun d => pure (if op.selects r d then f d else d) := by
    funext d
    by_cases hd : op.selects r d
    · rw [if_pos hd, if_pos hd, h d hd]
      rfl
    · rw [if_neg hd, if_neg hd]
      rfl
  unfold storeAfter?
  rw [hs]
  show store.mapM _ = _
  rw [hstep, List.mapM_pure]
  rfl

/-- A deletion that selects nothing. -/
theorem storeAfter?_of_none_selected {r : Registry} {op : CascadeOp} (hs : op.script? = none)
    {store : List Stored} (h : ∀ d ∈ store, op.selects r d = false) :
    op.storeAfter? r store = some store := by
  unfold storeAfter?
  rw [hs]
  show some _ = _
  rw [List.filter_eq_self.2 fun d hd => by rw [h d hd]; rfl]

end CascadeOp

end CatalogIndex
