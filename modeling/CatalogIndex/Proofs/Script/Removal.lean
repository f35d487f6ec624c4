/-
  CatalogIndex.Proofs.Script.Removal — operations that take elements from a list.

  Some operations do nothing but drop those elements of a list for which a condition holds.  They differ
  in the field, in the word for an element and in the condition; the code around them is the same, and so
  is what it leaves of a document.  The condition is an expression of the code, and what it is worth for an
  element says whether the element stays.  A condition that is worth nothing makes the script fail.

  ## Main definitions

    * `Removal`, `ScriptOp.removal?` — a removal, and the operations that are one;
    * `Removal.kept?`, `Removal.applied?` — what is left of a list, and of a document;
    * `Script.removed?` — a document after a script of removals.

  ## Main results

    * `body_of_removal?` — the code of a removal, for both engines;
    * `kept?_isSome_iff`, `mem_kept?` — when a removal succeeds, and what it leaves;
    * `drops?_tagRemoval` — a tag goes if its name is the one of the parameter, or below it.
-/
import CatalogIndex.Proofs.Script.Value

namespace CatalogIndex

namespace Engine

/-! ## §1. Removals. -/

/-- Elements of a list that go. -/
structure Removal where
  /-- The field with the list. -/
  list : String
  /-- The word for an element in the condition. -/
  element : String
  /-- Holds for the elements that go. -/
  condition : Expr

/-- The labels of the tag in the parameter, and of those below it. -/
def tagRemoval : Removal :=
  let name := Expr.member (.var "tag") "tagFQN"
  { list := "tags", element := "tag"
    condition := (name.equal (.param "fqn")).oneOf
      (.callWith name "startsWith" (.op .plus (.param "fqn") (.text "."))) }

namespace Removal

/-- The code of a removal. -/
def code (x : Removal) (e : Engine) : Stmt := removeWhere e (.field x.list) x.element x.condition

/-- Whether an element goes; `none` if the condition is worth no truth value for it. -/
def drops? (x : Removal) (scope : Scope) (item : Json) : Option Bool :=
  (x.condition.value? { scope with vars := [(x.element, item)] }).bind Json.asBool?

/-- What is left of a list; `none` if the condition fails for one of its elements. -/
def kept? (x : Removal) (scope : Scope) : List Json → Option (List Json)
  | [] => some []
  | item :: rest => do
    let dropped ← x.drops? scope item
    let kept ← x.kept? scope rest
    some (if dropped then kept else item :: kept)

/-- The document after a removal.  A list that is not there is left alone; what is no list cannot lose
    elements. -/
def applied? (x : Removal) (params doc : Fields) : Option Fields :=
  match Keyed.get? doc x.list with
  | none | some .null => some doc
  | some (.arr items) =>
    (x.kept? { params, source := doc } items).map fun kept => Keyed.insert doc x.list (.arr kept)
  | _ => none

variable {x : Removal} {scope : Scope} {items kept : List Json}

theorem applied?_of_list {params doc : Fields} (h : Keyed.get? doc x.list = some (.arr items)) :
    x.applied? params doc
      = (x.kept? { params, source := doc } items).map fun kept => Keyed.insert doc x.list (.arr kept) := by
  unfold applied?
  rw [h]

/-- A removal succeeds exactly if its condition is worth something for every element. -/
theorem kept?_isSome_iff :
    (x.kept? scope items).isSome = true ↔ ∀ item ∈ items, (x.drops? scope item).isSome = true := by
  induction items with
  | nil => simp [kept?]
  | cons item rest ih =>
    unfold kept?
    rw [List.forall_mem_cons, ← ih]
    cases x.drops? scope item with
    | none => simp
    | some dropped => cases x.kept? scope rest <;> simp

/-- **What stays are the elements for which the condition does not hold.** -/
theorem mem_kept? (h : x.kept? scope items = some kept) (item : Json) :
    item ∈ kept ↔ item ∈ items ∧ x.drops? scope item = some false := by
  induction items generalizing kept with
  | nil =>
    cases h
    simp
  | cons first rest ih =>
    unfold kept? at h
    obtain ⟨dropped, hdropped, h⟩ := Option.bind_eq_some_iff.1 h
    obtain ⟨kept', hkept', h⟩ := Option.bind_eq_some_iff.1 h
    cases h
    cases dropped with
    | true =>
      rw [if_pos rfl, ih hkept', List.mem_cons, or_and_right]
      -- the first element goes, so it cannot be one that stays
      refine ⟨Or.inr, fun hmem => hmem.resolve_left ?_⟩
      rintro ⟨rfl, hstays⟩
      rw [hdropped] at hstays
      cases hstays
    | false =>
      rw [if_neg Bool.false_ne_true, List.mem_cons, ih hkept', List.mem_cons, or_and_right]
      refine or_congr_left ⟨?_, (·.1)⟩
      rintro rfl
      exact ⟨rfl, hdropped⟩

end Removal

end Engine

open Engine

/-! ## §2. Operations. -/

/-- The removal that an operation is, for the operations that are nothing else. -/
def ScriptOp.removal? : ScriptOp → Option Removal
  | .removeDataProduct =>
    some { list := "dataProducts", element := "product"
           condition := Expr.equal (.member (.var "product") "fullyQualifiedName") (.param "fqn") }
  | .removeTags => some tagRemoval
  | .removeTestSuite =>
    some { list := "testSuites", element := "suite"
           condition := Expr.equal (.member (.var "suite") "id") (.param "testSuiteId") }
  | _ => none

/-- **The code of these operations is a removal**, whatever the engine. -/
theorem Engine.body_of_removal? (e : Engine) {op : ScriptOp} {x : Removal} (h : op.removal? = some x) :
    e.body op = [x.code e] := by
  cases op with
  | removeDataProduct | removeTags | removeTestSuite =>
    cases h
    rfl
  | _ => cases h

/-- The document after a script of removals. -/
def Script.removed? (s : Script) (doc : Fields) : Option Fields :=
  s.ops.foldlM (fun doc op => op.removal?.bind fun x => x.applied? s.params doc) doc

/-! ## §3. Tags. -/

/-- The name of the tag that a label is of. -/
def labelName? (label : Json) : Option String := (label.field? "tagFQN").bind Json.asStr?

namespace Engine

variable {scope : Scope} {fqn : String}

/-- The name of a label, as the code reaches it. -/
theorem value?_labelName (scope : Scope) (label : Json) :
    (Expr.member (.var "tag") "tagFQN").value? { scope with vars := [("tag", label)] }
      = valueAlong? label ["tagFQN"] := by
  have hpath : Text.split '.' "tagFQN" = ["tagFQN"] := by decide
  simp [Expr.value?, Keyed.get?, hpath]

theorem labelName?_eq_some_iff {label : Json} {name : String} :
    labelName? label = some name ↔ valueAlong? label ["tagFQN"] = some (.str name) := by
  cases label with
  | obj fields =>
    show (Keyed.get? fields "tagFQN").bind Json.asStr? = some name
      ↔ some (Json.orNull (Keyed.get? fields "tagFQN")) = some (.str name)
    cases Keyed.get? fields "tagFQN" with
    | none => simp [Json.orNull]
    | some v => cases v <;> simp [Json.orNull, Json.asStr?]
  | _ =>
    -- what is no object has no fields
    constructor
    · intro h
      cases h
    · intro h
      cases h

/-- **A label goes if its tag is the one of the parameter, or below it**; without the name of a tag the
    condition fails. -/
theorem drops?_tagRemoval (hfqn : valueAt scope.params "fqn" = .str fqn) (label : Json) :
    tagRemoval.drops? scope label
      = (labelName? label).map fun name => decide (Name.AtOrBelow fqn name) := by
  have hstart : (Expr.param "fqn").value? { scope with vars := [("tag", label)] } = some (.str fqn) := by
    simp [Expr.value?, hfqn]
  have hvalue := value?_labelName scope label
  unfold Removal.drops? tagRemoval
  dsimp only
  cases hname : labelName? label with
  | some name =>
    have htext := hvalue.trans (labelName?_eq_some_iff.1 hname)
    rw [Expr.value?_atOrBelow htext hstart]
    rfl
  | none =>
    have hno : ∀ text, (Expr.member (.var "tag") "tagFQN").value?
        { scope with vars := [("tag", label)] } ≠ some (.str text) := by
      intro text htext
      rw [labelName?_eq_some_iff.2 (hvalue.symm.trans htext)] at hname
      cases hname
    rw [Expr.value?_atOrBelow_of_no_text hstart hno]
    rfl

end Engine

end CatalogIndex
