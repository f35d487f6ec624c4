/-
  CatalogIndex.Proofs.Script.Run — what code makes of a document.

  A script is carried out on one document at a time.  Told here are the statements that renames and
  certifications consist of: assignments, conditions, and loops over a list of the document.  Other
  statements change lists through their methods, and a run of them is not told.

  An assignment writes at a path: the objects on the way have to be there, and everything beside the path
  stays as it was.  A loop gives every element a name in turn, and what the body leaves under the name is
  the element afterwards; the list itself has to be left alone meanwhile.

  ## Main definitions

    * `putAlong?` — a value with another one at a path;
    * `Expr.put?`, `Stmt.run?`, `Stmt.runAll?` — assignments, statements and lists of statements;
    * `Script.runOn?` — a document after a script.

  ## Main results

    * `exists_putAlong?`, `valueAlong?_putAlong?` — a path that can be read can be written;
    * `forall₂_of_eachItem?`, `exists_eachItem?` — a loop whose body changes the element only;
    * `Expr.run?_move_iff` — what a rename does with one name.
-/
import CatalogIndex.Proofs.Script.Value
import CatalogIndex.Proofs.Text.Pieces
import Mathlib.Data.List.Forall2

namespace CatalogIndex

namespace Engine

/-! ## §1. Writing at a path. -/

/-- The value with `value` at a path of names. -/
def putAlong? (value : Json) : Json → List String → Option Json
  | _, [] => some value
  | .obj fields, key :: rest =>
    (putAlong? value (valueAt fields key) rest).map fun inner => .obj (Keyed.insert fields key inner)
  | _, _ :: _ => none

variable {v w value : Json} {path : List String}

/-- What can be read can be written. -/
theorem exists_putAlong? (value : Json) (h : valueAlong? v path = some w) :
    ∃ v', putAlong? value v path = some v' := by
  induction path generalizing v with
  | nil => exact ⟨value, by simp [putAlong?]⟩
  | cons key rest ih =>
    cases v with
    | obj fields =>
      obtain ⟨inner, hinner⟩ := ih h
      exact ⟨.obj (Keyed.insert fields key inner), by simp [putAlong?, hinner]⟩
    | _ => cases h

/-- What is written is read there afterwards. -/
theorem valueAlong?_putAlong? (h : putAlong? value v path = some w) : valueAlong? w path = some value := by
  induction path generalizing v w with
  | nil =>
    simp only [putAlong?] at h
    cases h
    simp [valueAlong?]
  | cons key rest ih =>
    cases v with
    | obj fields =>
      obtain ⟨inner, hinner, hw⟩ := Option.map_eq_some_iff.1 h
      cases hw
      show valueAlong? (valueAt (Keyed.insert fields key inner) key) rest = some value
      rw [valueAt_insert_self]
      exact ih hinner
    | _ => cases h

/-- With a value at a path that leads somewhere, an object is still one. -/
theorem putAlong?_obj {fields : Fields} (h : putAlong? value (.obj fields) path = some w)
    (hpath : path ≠ []) : ∃ fields', w = .obj fields' := by
  cases path with
  | nil => exact absurd rfl hpath
  | cons key rest =>
    obtain ⟨inner, -, hw⟩ := Option.map_eq_some_iff.1 h
    exact ⟨_, hw.symm⟩

/-! ## §2. Statements. -/

/-- The scope after an assignment to what an expression stands for. -/
def Expr.put? (scope : Scope) : Expr → Json → Option Scope
  | .var name, value =>
    (Keyed.get? scope.vars name).map fun _ => { scope with vars := Keyed.insert scope.vars name value }
  | .field path, value =>
    ((putAlong? value (.obj scope.source) (Text.split '.' path)).bind Json.asObj?).map
      fun source => { scope with source }
  | .member inner name, value => do
    let around ← inner.value? scope
    let changed ← putAlong? value around (Text.split '.' name)
    inner.put? scope changed
  | _, _ => none

/-- Goes through the elements of a list under a name; the scope afterwards, and the elements as the steps
    leave them. -/
def eachItem? (name : String) (step : Scope → Option Scope) :
    Scope → List Json → Option (Scope × List Json)
  | scope, [] => some (scope, [])
  | scope, item :: rest => do
    let after ← step { scope with vars := Keyed.insert scope.vars name item }
    let changed ← Keyed.get? after.vars name
    let (last, others) ← eachItem? name step after rest
    some (last, changed :: others)

mutual

/-- The scope after a statement; `none` if the statement fails, or if it is not told here. -/
def Stmt.run? (scope : Scope) : Stmt → Option Scope
  | .assign target value => (value.value? scope).bind (target.put? scope)
  | .when condition body =>
    ((condition.value? scope).bind Json.asBool?).bind fun holds =>
      if holds then Stmt.runAll? scope body else some scope
  | .choose condition yes no =>
    ((condition.value? scope).bind Json.asBool?).bind fun holds =>
      if holds then Stmt.runAll? scope yes else Stmt.runAll? scope no
  | .each name list body => do
    let items ← (list.value? scope).bind Json.asArr?
    let (after, changed) ← eachItem? name (fun inner => Stmt.runAll? inner body) scope items
    if list.value? after = some (.arr items) then list.put? after (.arr changed) else none
  | _ => none

/-- The scope after statements, one after the other. -/
def Stmt.runAll? (scope : Scope) : List Stmt → Option Scope
  | [] => some scope
  | s :: rest => (s.run? scope).bind fun after => Stmt.runAll? after rest

end

variable {scope after : Scope}

theorem Stmt.runAll?_singleton (s : Stmt) : Stmt.runAll? scope [s] = s.run? scope := by
  simp [Stmt.runAll?]

theorem Stmt.run?_when {condition : Expr} {body : List Stmt} {holds : Bool}
    (h : condition.value? scope = some (.bool holds)) :
    (Stmt.when condition body).run? scope = if holds then Stmt.runAll? scope body else some scope := by
  simp [Stmt.run?, h, Json.asBool?]

/-! ### Fields of the document. -/

variable {field : String}

theorem Expr.value?_field (h : '.' ∉ field.toList) :
    (Expr.field field).value? scope = some (valueAt scope.source field) := by
  unfold Expr.value?
  rw [Text.split_of_notMem h]
  rfl

theorem Expr.put?_field (h : '.' ∉ field.toList) (value : Json) :
    (Expr.field field).put? scope value
      = some { scope with source := Keyed.insert scope.source field value } := by
  unfold Expr.put?
  rw [Text.split_of_notMem h]
  simp [putAlong?, Json.asObj?]

theorem Expr.put?_member {inner : Expr} {v : Json} (h : inner.value? scope = some v) (name : String)
    (value : Json) : (Expr.member inner name).put? scope value
      = (putAlong? value v (Text.split '.' name)).bind (inner.put? scope) := by
  simp [Expr.put?, h]

theorem Expr.value?_isThere_field (h : '.' ∉ field.toList) :
    (Expr.field field).isThere.value? scope
      = some (.bool (decide (valueAt scope.source field ≠ .null))) :=
  Expr.value?_isThere (Expr.value?_field h)

/-- The expression is read from `v` at a path, and what is put there goes back to the scope. -/
structure Expr.Reaches (x : Expr) (scope : Scope) (v : Json) (path : List String)
    (back? : Json → Option Scope) : Prop where
  value : x.value? scope = valueAlong? v path
  put : ∀ w, x.put? scope w = (putAlong? w v path).bind back?

/-- A field is reached in the document. -/
theorem Expr.reaches_field (h : '.' ∉ field.toList) (scope : Scope) :
    (Expr.field field).Reaches scope (.obj scope.source) [field]
      fun w => w.asObj?.map fun source => { scope with source } where
  value := Expr.value?_field h
  put w := by
    rw [Expr.put?_field h]
    simp [putAlong?, Json.asObj?]

/-- A part of an element is reached in the element. -/
theorem Expr.reaches_member {name : String} {vars : Keyed Json} {item : Json}
    (h : Keyed.get? vars name = some item) (scope : Scope) (leaf : String) :
    (Expr.member (.var name) leaf).Reaches { scope with vars } item (Text.split '.' leaf)
      fun w => some { scope with vars := Keyed.insert vars name w } where
  value := by simp [Expr.value?, h]
  put w := by simp [Expr.put?, Expr.value?, h]

/-! ## §3. Loops. -/

/-- With the element under `name`, the step changes the element only, and makes of it what `R` says. -/
structure ChangesItem (name : String) (step : Scope → Option Scope) (scope : Scope)
    (R : Json → Json → Prop) : Prop where
  sound : ∀ {vars : Keyed Json} {item : Json} {after : Scope}, Keyed.get? vars name = some item →
    step { scope with vars } = some after →
    ∃ vars' item', after = { scope with vars := vars' } ∧ Keyed.get? vars' name = some item' ∧ R item item'
  complete : ∀ {vars : Keyed Json} {item item' : Json}, Keyed.get? vars name = some item → R item item' →
    ∃ vars', step { scope with vars } = some { scope with vars := vars' }
      ∧ Keyed.get? vars' name = some item'

variable {name : String} {step : Scope → Option Scope} {R : Json → Json → Prop} {items items' : List Json}

/-- **A loop makes of every element what its body does.** -/
theorem forall₂_of_eachItem? (h : ChangesItem name step scope R) {vars : Keyed Json}
    (hrun : eachItem? name step { scope with vars } items = some (after, items')) :
    (∃ vars', after = { scope with vars := vars' }) ∧ List.Forall₂ R items items' := by
  induction items generalizing vars items' with
  | nil =>
    cases hrun
    exact ⟨⟨vars, rfl⟩, .nil⟩
  | cons item rest ih =>
    obtain ⟨next, hnext, hrun⟩ := Option.bind_eq_some_iff.1 hrun
    obtain ⟨changed, hchanged, hrun⟩ := Option.bind_eq_some_iff.1 hrun
    obtain ⟨⟨last, others⟩, hothers, hrun⟩ := Option.bind_eq_some_iff.1 hrun
    cases hrun
    obtain ⟨vars', item', rfl, hitem', hR⟩ := h.sound (Keyed.get?_insert_self vars name item) hnext
    rw [hitem'] at hchanged
    cases hchanged
    obtain ⟨hlast, hrest⟩ := ih hothers
    exact ⟨hlast, .cons hR hrest⟩

/-- **A loop succeeds** where its body can make of every element what it does. -/
theorem exists_eachItem? (h : ChangesItem name step scope R) (hR : List.Forall₂ R items items')
    (vars : Keyed Json) :
    ∃ vars', eachItem? name step { scope with vars } items = some ({ scope with vars := vars' }, items') := by
  induction hR generalizing vars with
  | nil => exact ⟨vars, rfl⟩
  | @cons item item' rest rest' hitem _ ih =>
    obtain ⟨vars', hnext, hget⟩ := h.complete (Keyed.get?_insert_self vars name item) hitem
    obtain ⟨vars'', hrest⟩ := ih vars'
    refine ⟨vars'', ?_⟩
    unfold eachItem?
    dsimp only
    rw [hnext]
    simp [hget, hrest]

theorem asArr?_eq_some_iff {v : Json} : (some v).bind Json.asArr? = some items ↔ v = .arr items := by
  cases v <;> simp [Json.asArr?]

/-- **A loop over a list of the document** puts the list there that it makes of the elements. -/
theorem Stmt.run?_each_iff {body : List Stmt} {source : Fields} (hfield : '.' ∉ field.toList)
    (h : ChangesItem name (fun inner => Stmt.runAll? inner body) scope R) :
    ((Stmt.each name (.field field) body).run? scope).map (·.source) = some source
      ↔ ∃ items items', valueAt scope.source field = .arr items ∧ List.Forall₂ R items items'
        ∧ source = Keyed.insert scope.source field (.arr items') := by
  constructor
  · intro hsource
    obtain ⟨after, hrun, hafter⟩ := Option.map_eq_some_iff.1 hsource
    unfold Stmt.run? at hrun
    obtain ⟨items, hitems, hrun⟩ := Option.bind_eq_some_iff.1 hrun
    obtain ⟨⟨last, items'⟩, hloop, hrun⟩ := Option.bind_eq_some_iff.1 hrun
    obtain ⟨⟨vars, rfl⟩, hR⟩ := forall₂_of_eachItem? h hloop
    rw [Expr.value?_field hfield] at hitems
    obtain ⟨-, hput⟩ := Option.ite_none_right_eq_some.1 hrun
    rw [Expr.put?_field hfield] at hput
    cases hput
    exact ⟨items, items', asArr?_eq_some_iff.1 hitems, hR, hafter.symm⟩
  · rintro ⟨items, items', hitems, hR, rfl⟩
    obtain ⟨vars, hloop⟩ := exists_eachItem? h hR scope.vars
    have hlist : ∀ inner : Scope, inner.source = scope.source →
        (Expr.field field).value? inner = some (.arr items) := by
      intro inner hinner
      rw [Expr.value?_field hfield, hinner, hitems]
    have hrun : (Stmt.each name (.field field) body).run? scope
        = some { scope with vars, source := Keyed.insert scope.source field (.arr items') } := by
      unfold Stmt.run?
      -- the body leaves the document alone, so the list is still there when it is put back
      simp only [hlist scope rfl, Json.asArr?, Option.bind_eq_bind, Option.bind_some, hloop,
        hlist { scope with vars } rfl, if_true, Expr.put?_field hfield]
    rw [hrun]
    rfl

/-! ## §4. Names that are moved. -/

namespace Expr

variable {x : Expr} {oldStart newStart text : String}

theorem run?_move_of_text (hx : x.value? scope = some (.str text))
    (hold : valueAt scope.params "oldParentFQN" = .str oldStart)
    (hnew : valueAt scope.params "newParentFQN" = .str newStart) :
    x.move.run? scope = if Name.AtOrBelow oldStart text
      then x.put? scope (.str (Name.replaceStart oldStart newStart text)) else some scope := by
  unfold move
  rw [Stmt.run?_when (value?_renameGuard hx hold)]
  by_cases h : Name.AtOrBelow oldStart text
  · rw [decide_eq_true h, if_pos rfl, if_pos h, Stmt.runAll?_singleton, Stmt.run?,
      value?_movedName hx hold hnew h, Option.bind_some]
  · rw [decide_eq_false h, if_neg Bool.false_ne_true, if_neg h]

/-- A name that is not there is left alone. -/
theorem run?_move_of_null (hx : x.value? scope = some .null) : x.move.run? scope = some scope := by
  have hguard : (x.isThere.both (.group x.underOldParent)).value? scope = some (.bool false) :=
    value?_both_of_false (value?_isThere hx)
  unfold move
  rw [Stmt.run?_when hguard, if_neg Bool.false_ne_true]

/-- What is there and is no text cannot be compared with a name. -/
theorem run?_move_of_other (htext : ∀ text, x.value? scope ≠ some (.str text))
    (hnull : x.value? scope ≠ some .null)
    (hold : valueAt scope.params "oldParentFQN" = .str oldStart) : x.move.run? scope = none := by
  have hparam : (Expr.param "oldParentFQN").value? scope = some (.str oldStart) := by
    simp [value?, hold]
  have hunder : x.underOldParent.value? scope = none := value?_atOrBelow_of_no_text hparam htext
  have hguard : (x.isThere.both (.group x.underOldParent)).value? scope = none := by
    cases hx : x.value? scope with
    | none =>
      unfold both value?
      rw [value?_isThere_of_none hx]
      rfl
    | some v =>
      have hv : v ≠ .null := fun h => hnull (by rw [hx, h])
      have hthere := value?_isThere hx
      rw [decide_eq_true hv] at hthere
      rw [value?_both_of_true hthere, value?, hunder]
      rfl
  unfold move Stmt.run?
  rw [hguard]
  rfl

/-- **What a rename does with one name**: it moves a name at or below the old one, leaves other names and
    names that are not there alone, and fails on anything else. -/
theorem run?_move_iff (hold : valueAt scope.params "oldParentFQN" = .str oldStart)
    (hnew : valueAt scope.params "newParentFQN" = .str newStart) :
    x.move.run? scope = some after
      ↔ (∃ text, x.value? scope = some (.str text) ∧ Name.AtOrBelow oldStart text
          ∧ x.put? scope (.str (Name.replaceStart oldStart newStart text)) = some after)
        ∨ (∃ text, x.value? scope = some (.str text) ∧ ¬ Name.AtOrBelow oldStart text ∧ after = scope)
        ∨ (x.value? scope = some .null ∧ after = scope) := by
  by_cases htext : ∃ text, x.value? scope = some (.str text)
  · obtain ⟨text, hx⟩ := htext
    rw [run?_move_of_text hx hold hnew]
    simp only [hx, Option.some.injEq, Json.str.injEq, exists_eq_left', reduceCtorEq, false_and, or_false]
    by_cases h : Name.AtOrBelow oldStart text
    · simp [h]
    · simp [h, eq_comm]
  · have hno := not_exists.1 htext
    by_cases hnull : x.value? scope = some .null
    · rw [run?_move_of_null hnull]
      simp [hnull, eq_comm]
    · rw [run?_move_of_other hno hnull hold]
      simp [hno, hnull]

end Expr

end Engine

/-- The document after a script. -/
def Script.runOn? (s : Script) (e : Engine) (source : Fields) : Option Fields :=
  (Engine.Stmt.runAll? { params := s.params, source } (s.ops.flatMap e.body)).map (·.source)

end CatalogIndex
