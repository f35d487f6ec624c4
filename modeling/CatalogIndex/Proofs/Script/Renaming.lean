/-
  CatalogIndex.Proofs.Script.Renaming — what a rename makes of a document.

  The script of a rename goes to one field of a document.  A field without dots holds a name; in a dotted
  one, what stands before the first dot is a list, and each of its elements has a name in the part behind
  it.  The script gives the new start to the names that begin with the segments of the old one, and leaves
  other names alone, as well as places where there is none.  It fails on everything else, and nothing beside
  these names is changed.

  ## Main definitions

    * `RenamedAt`, `FieldRenamed` — what becomes of a name, and of the names in a field;
    * `NameAt`, `NamesIn` — a name that can be read, and a field with such names only;
    * `renamedValue` — a value that is found in the field.

  ## Main results

    * `runOn?_renameScript_iff` — the script does what becomes of the document;
    * `exists_fieldRenamed_iff` — it succeeds exactly if the names in the field can be read;
    * `FieldRenamed.valuesAt` — what a query finds in the field afterwards.
-/
import CatalogIndex.Proofs.Cascade.Store
import CatalogIndex.Proofs.Outcome
import CatalogIndex.Proofs.Script.Run

namespace CatalogIndex

open Name

namespace Cluster

/-! ## §1. The parameters of the script. -/

theorem get?_renameScript_params (oldStart newStart field key : String) :
    Keyed.get? (renameScript oldStart newStart field).params key
      = Keyed.get? [("newParentFQN", .str newStart), ("oldParentFQN", .str oldStart)] key :=
  Keyed.get?_ofList _ key

theorem valueAt_oldParent (oldStart newStart field : String) :
    valueAt (renameScript oldStart newStart field).params "oldParentFQN" = .str oldStart := by
  unfold valueAt
  rw [get?_renameScript_params]
  simp [Keyed.get?, Json.orNull]

theorem valueAt_newParent (oldStart newStart field : String) :
    valueAt (renameScript oldStart newStart field).params "newParentFQN" = .str newStart := by
  unfold valueAt
  rw [get?_renameScript_params]
  simp [Keyed.get?, Json.orNull]

/-! ## §2. What becomes of a document. -/

/-- What becomes of the name at a path: a name whose segments begin with those of the old one is replaced
    by the new one and what is left without as many characters as the old one has; another name stays, and
    where there is none nothing changes. -/
inductive RenamedAt (oldStart newStart : String) (path : List String) : Json → Json → Prop
  | moved {v v' : Json} {name : String} (hname : Engine.valueAlong? v path = some (.str name))
      (hbelow : split oldStart <+: split name)
      (hput : Engine.putAlong?
        (.str (newStart ++ String.ofList (name.toList.drop oldStart.toList.length))) v path = some v') :
      RenamedAt oldStart newStart path v v'
  | other {v : Json} {name : String} (hname : Engine.valueAlong? v path = some (.str name))
      (hother : ¬ split oldStart <+: split name) : RenamedAt oldStart newStart path v v
  | absent {v : Json} (hname : Engine.valueAlong? v path = some .null) :
      RenamedAt oldStart newStart path v v

/-- What becomes of a document: a field without dots holds the name itself; before the first dot stands
    the list, and behind it the part of each element that holds a name. -/
inductive FieldRenamed (oldStart newStart field : String) : Fields → Fields → Prop
  | name {source source' : Fields} (hfield : '.' ∉ field.toList)
      (h : RenamedAt oldStart newStart [field] (.obj source) (.obj source')) :
      FieldRenamed oldStart newStart field source source'
  | list {source : Fields} {list leaf : String} {items items' : List Json} (hdot : '.' ∉ list.toList)
      (hfield : field = list ++ "." ++ leaf) (hlist : valueAt source list = .arr items)
      (h : List.Forall₂ (RenamedAt oldStart newStart (Text.split '.' leaf)) items items') :
      FieldRenamed oldStart newStart field source (Keyed.insert source list (.arr items'))
  | noList {source : Fields} {list leaf : String} (hdot : '.' ∉ list.toList)
      (hfield : field = list ++ "." ++ leaf) (hlist : valueAt source list = .null) :
      FieldRenamed oldStart newStart field source source

/-- There is a name at the path, or nothing. -/
def NameAt (path : List String) (v : Json) : Prop :=
  (∃ name, Engine.valueAlong? v path = some (.str name)) ∨ Engine.valueAlong? v path = some .null

/-- The names in a field of a document can be read. -/
inductive NamesIn (field : String) (source : Fields) : Prop
  | name (hfield : '.' ∉ field.toList) (h : NameAt [field] (.obj source))
  | list {list leaf : String} {items : List Json} (hdot : '.' ∉ list.toList)
      (hfield : field = list ++ "." ++ leaf) (hlist : valueAt source list = .arr items)
      (h : ∀ item ∈ items, NameAt (Text.split '.' leaf) item)
  | noList {list leaf : String} (hdot : '.' ∉ list.toList) (hfield : field = list ++ "." ++ leaf)
      (hlist : valueAt source list = .null)

section Fields

variable {oldStart newStart : String} {source source' : Fields}

theorem fieldRenamed_iff_of_field {field : String} (hfield : '.' ∉ field.toList) :
    FieldRenamed oldStart newStart field source source'
      ↔ RenamedAt oldStart newStart [field] (.obj source) (.obj source') := by
  refine ⟨?_, .name hfield⟩
  intro h
  cases h with
  | name _ h => exact h
  | list _ hdotted _ _ => exact absurd (by simp [hdotted]) hfield
  | noList _ hdotted _ => exact absurd (by simp [hdotted]) hfield

theorem fieldRenamed_iff_of_list {list leaf : String} (hdot : '.' ∉ list.toList) :
    FieldRenamed oldStart newStart (list ++ "." ++ leaf) source source'
      ↔ (valueAt source list = .null ∧ source' = source)
        ∨ ∃ items items', valueAt source list = .arr items
          ∧ List.Forall₂ (RenamedAt oldStart newStart (Text.split '.' leaf)) items items'
          ∧ source' = Keyed.insert source list (.arr items') := by
  constructor
  · intro h
    cases h with
    | name hfield _ => exact absurd (by simp) hfield
    | list hdot' hfield hlist h =>
      obtain ⟨rfl, rfl⟩ := Text.dotted_inj hdot hdot' hfield
      exact .inr ⟨_, _, hlist, h, rfl⟩
    | noList hdot' hfield hlist =>
      obtain ⟨rfl, rfl⟩ := Text.dotted_inj hdot hdot' hfield
      exact .inl ⟨hlist, rfl⟩
  · rintro (⟨hlist, rfl⟩ | ⟨items, items', hlist, h, rfl⟩)
    · exact .noList hdot rfl hlist
    · exact .list hdot rfl hlist h

/-- Something becomes of a name exactly if it can be read. -/
theorem exists_renamedAt_iff {path : List String} {v : Json} :
    (∃ v', RenamedAt oldStart newStart path v v') ↔ NameAt path v := by
  constructor
  · rintro ⟨v', h⟩
    cases h with
    | moved hname _ _ => exact .inl ⟨_, hname⟩
    | other hname _ => exact .inl ⟨_, hname⟩
    | absent hname => exact .inr hname
  · rintro (⟨name, hname⟩ | hname)
    · by_cases h : split oldStart <+: split name
      · obtain ⟨v', hput⟩ := Engine.exists_putAlong? _ hname
        exact ⟨v', .moved hname h hput⟩
      · exact ⟨v, .other hname h⟩
    · exact ⟨v, .absent hname⟩

/-- An object stays one, whatever becomes of a name in it. -/
theorem RenamedAt.exists_fields {path : List String} {v' : Json}
    (h : RenamedAt oldStart newStart path (.obj source) v') (hpath : path ≠ []) :
    ∃ fields, v' = .obj fields := by
  cases h with
  | moved _ _ hput => exact Engine.putAlong?_obj hput hpath
  | other _ _ => exact ⟨source, rfl⟩
  | absent _ => exact ⟨source, rfl⟩

/-- **Something becomes of a document exactly if the names in the field can be read.** -/
theorem exists_fieldRenamed_iff {field : String} :
    (∃ source', FieldRenamed oldStart newStart field source source') ↔ NamesIn field source := by
  constructor
  · rintro ⟨source', h⟩
    cases h with
    | name hfield h => exact .name hfield (exists_renamedAt_iff.1 ⟨_, h⟩)
    | list hdot hfield hlist h =>
      exact .list hdot hfield hlist
        fun item hitem => exists_renamedAt_iff.1 (Outcome.exists_forall₂_iff.1 ⟨_, h⟩ item hitem)
    | noList hdot hfield hlist => exact .noList hdot hfield hlist
  · intro h
    cases h with
    | name hfield h =>
      have hrenamed : ∃ v', RenamedAt oldStart newStart [field] (.obj source) v' := exists_renamedAt_iff.2 h
      obtain ⟨v', hv'⟩ := hrenamed
      obtain ⟨source', rfl⟩ := hv'.exists_fields (List.cons_ne_nil _ _)
      exact ⟨source', .name hfield hv'⟩
    | list hdot hfield hlist h =>
      obtain ⟨items', hrenamed⟩ :=
        Outcome.exists_forall₂_iff.2 fun item hitem => exists_renamedAt_iff.2 (h item hitem)
      exact ⟨_, .list hdot hfield hlist hrenamed⟩
    | noList hdot hfield hlist => exact ⟨source, .noList hdot hfield hlist⟩

end Fields

/-! ## §3. What the code makes of it. -/

section Code

open Engine

variable {oldStart newStart : String} (hold : oldStart ≠ "") (hquotes : Balanced oldStart)
  {scope : Scope} (hparent : valueAt scope.params "oldParentFQN" = .str oldStart)
  (hnewParent : valueAt scope.params "newParentFQN" = .str newStart)
  {x : Expr} {v v' : Json} {path : List String} {back? : Json → Option Scope}

include hold hquotes hparent hnewParent

/-- A run of the code for one name makes of the name what a rename makes of it. -/
theorem renamedAt_of_run?_move (hx : x.Reaches scope v path back?) {after : Scope}
    (hrun : x.move.run? scope = some after) :
    ∃ v', RenamedAt oldStart newStart path v v' ∧ (back? v' = some after ∨ v' = v ∧ after = scope) := by
  have hsegments := split_isPrefix_iff hold hquotes
  rcases (Expr.run?_move_iff hparent hnewParent).1 hrun with
    ⟨name, hname, hbelow, hmoved⟩ | ⟨name, hname, hother, rfl⟩ | ⟨hname, rfl⟩
  · rw [hx.put] at hmoved
    obtain ⟨v', hv', hback⟩ := Option.bind_eq_some_iff.1 hmoved
    exact ⟨v', .moved (hx.value ▸ hname) ((hsegments name).2 hbelow) hv', .inl hback⟩
  · exact ⟨v, .other (hx.value ▸ hname) (fun h => hother ((hsegments name).1 h)), .inr ⟨rfl, rfl⟩⟩
  · exact ⟨v, .absent (hx.value ▸ hname), .inr ⟨rfl, rfl⟩⟩

/-- Where a rename makes something of a name, there is such a run. -/
theorem exists_run?_move (hx : x.Reaches scope v path back?) (hback : ∃ after, back? v' = some after)
    (h : RenamedAt oldStart newStart path v v') :
    ∃ after, x.move.run? scope = some after ∧ (back? v' = some after ∨ v' = v ∧ after = scope) := by
  have hsegments := split_isPrefix_iff hold hquotes
  have hiff : ∀ after, x.move.run? scope = some after ↔ _ := fun _ => Expr.run?_move_iff hparent hnewParent
  cases h with
  | moved hname hbelow hput =>
    obtain ⟨after, hafter⟩ := hback
    have hmoved := (hx.put _).trans (Option.bind_eq_some_iff.2 ⟨v', hput, hafter⟩)
    exact ⟨after, (hiff after).2 (.inl ⟨_, hx.value ▸ hname, (hsegments _).1 hbelow, hmoved⟩), .inl hafter⟩
  | other hname hother =>
    have hno := fun h => hother ((hsegments _).2 h)
    exact ⟨scope, (hiff scope).2 (.inr (.inl ⟨_, hx.value ▸ hname, hno, rfl⟩)), .inr ⟨rfl, rfl⟩⟩
  | absent hname =>
    exact ⟨scope, (hiff scope).2 (.inr (.inr ⟨hx.value ▸ hname, rfl⟩)), .inr ⟨rfl, rfl⟩⟩

/-- The code for a name in a field. -/
theorem run?_move_field_iff {field : String} (hfield : '.' ∉ field.toList) {source : Fields} :
    ((Expr.field field).move.run? scope).map (·.source) = some source
      ↔ RenamedAt oldStart newStart [field] (.obj scope.source) (.obj source) := by
  have hx := Expr.reaches_field hfield scope
  constructor
  · intro hsource
    obtain ⟨after, hrun, rfl⟩ := Option.map_eq_some_iff.1 hsource
    obtain ⟨v', hrenamed, hback | ⟨rfl, rfl⟩⟩ :=
      renamedAt_of_run?_move hold hquotes hparent hnewParent hx hrun
    · obtain ⟨fields, hfields, rfl⟩ := Option.map_eq_some_iff.1 hback
      cases v' with
      | obj found =>
        cases hfields
        exact hrenamed
      | _ => cases hfields
    · exact hrenamed
  · intro hrenamed
    obtain ⟨after, hrun, hback | ⟨heq, rfl⟩⟩ :=
      exists_run?_move hold hquotes hparent hnewParent hx ⟨_, rfl⟩ hrenamed
    · cases hback
      rw [hrun]
      rfl
    · cases heq
      rw [hrun]
      rfl

/-- The code for the names in a list, element by element. -/
theorem changesItem_move (leaf : String) :
    ChangesItem "item" (fun inner => Stmt.runAll? inner [(Expr.member (.var "item") leaf).move]) scope
      (RenamedAt oldStart newStart (Text.split '.' leaf)) where
  sound := by
    intro vars item after hitem hrun
    let inner : Scope := { scope with vars }
    have hinner : valueAt inner.params "oldParentFQN" = .str oldStart := hparent
    rw [Stmt.runAll?_singleton] at hrun
    obtain ⟨item', hrenamed, hback | ⟨rfl, rfl⟩⟩ :=
      renamedAt_of_run?_move hold hquotes hinner hnewParent (Expr.reaches_member hitem scope leaf) hrun
    · cases hback
      exact ⟨_, item', rfl, Keyed.get?_insert_self _ _ _, hrenamed⟩
    · exact ⟨vars, item', rfl, hitem, hrenamed⟩
  complete := by
    intro vars item item' hitem hrenamed
    let inner : Scope := { scope with vars }
    have hinner : valueAt inner.params "oldParentFQN" = .str oldStart := hparent
    obtain ⟨after, hrun, hback | ⟨rfl, rfl⟩⟩ := exists_run?_move hold hquotes hinner hnewParent
      (Expr.reaches_member hitem scope leaf) ⟨_, rfl⟩ hrenamed
    · cases hback
      exact ⟨_, by rw [Stmt.runAll?_singleton, hrun], Keyed.get?_insert_self _ _ _⟩
    · exact ⟨vars, by rw [Stmt.runAll?_singleton, hrun], hitem⟩

end Code

/-- **The script of a rename makes of a document what becomes of it**, on both engines: it succeeds exactly
    on documents that have names, or nothing, in the field. -/
theorem runOn?_renameScript_iff (e : Engine) {oldStart newStart field : String} (hold : oldStart ≠ "")
    (hquotes : Balanced oldStart) {source source' : Fields} :
    (renameScript oldStart newStart field).runOn? e source = some source'
      ↔ FieldRenamed oldStart newStart field source source' := by
  have hcode : (renameScript oldStart newStart field).ops.flatMap e.body = e.body (.renameStart field) :=
    List.flatMap_singleton e.body (.renameStart field)
  have hparent := valueAt_oldParent oldStart newStart field
  have hnewParent := valueAt_newParent oldStart newStart field
  unfold Script.runOn?
  rw [hcode]
  by_cases hfield : '.' ∈ field.toList
  · obtain ⟨list, leaf, hdot, rfl⟩ := Text.exists_dotted hfield
    rw [fieldRenamed_iff_of_list hdot, Engine.body_renameStart_of_list e hdot,
      Engine.Stmt.runAll?_singleton, Engine.Stmt.run?_when (Engine.Expr.value?_isThere_field hdot)]
    by_cases hnull : valueAt source list = .null
    · -- without a list there is nothing to go through
      simp [hnull, eq_comm]
    · rw [decide_eq_true hnull, if_pos rfl, Engine.Stmt.runAll?_singleton,
        Engine.Stmt.run?_each_iff hdot (changesItem_move hold hquotes hparent hnewParent leaf)]
      simp [hnull]
  · rw [fieldRenamed_iff_of_field hfield, Engine.body_renameStart_of_field e hfield,
      Engine.Stmt.runAll?_singleton, run?_move_field_iff hold hquotes hparent hnewParent hfield]

/-! ## §4. Names that are found afterwards. -/

/-- A value that is found in the field, after a rename. -/
def renamedValue (oldStart newStart : String) : Json → Json
  | .str name =>
    .str (if split oldStart <+: split name
      then newStart ++ String.ofList (name.toList.drop oldStart.toList.length) else name)
  | v => v

/-- A text that is reached through objects is what is found. -/
theorem valuesAt_of_text {v : Json} {path : List String} {text : String}
    (h : Engine.valueAlong? v path = some (.str text)) : v.valuesAt path = [.str text] := by
  induction path generalizing v with
  | nil =>
    simp only [Engine.valueAlong?, Option.some.injEq] at h
    rw [h]
    rfl
  | cons key rest ih =>
    cases v with
    | obj fields =>
      change Engine.valueAlong? (valueAt fields key) rest = _ at h
      have hthere : valueAt fields key ≠ .null := by
        intro hnull
        rw [hnull] at h
        cases rest <;> cases h
      rw [Json.valuesAt_of_get?_eq_some (get?_of_valueAt hthere), ih h]
    | _ => cases h

/-- Below `null` nothing else is found. -/
theorem eq_null_of_mem_valuesAt_null {w : Json} {path : List String} (hw : w ∈ Json.null.valuesAt path) :
    w = .null := by
  cases path with
  | nil => exact List.mem_singleton.1 hw
  | cons key rest => cases hw

/-- Where a field reads as `null`, nothing else is found in it. -/
theorem eq_null_of_mem_valuesAt_field {fields : Fields} {key : String} {w : Json} {path : List String}
    (h : valueAt fields key = .null) (hw : w ∈ (Json.obj fields).valuesAt (key :: path)) : w = .null := by
  cases hget : Keyed.get? fields key with
  | none =>
    rw [Json.valuesAt_of_get?_eq_none hget] at hw
    cases hw
  | some v =>
    rw [valueAt, hget] at h
    change v = .null at h
    rw [Json.valuesAt_of_get?_eq_some hget, h] at hw
    exact eq_null_of_mem_valuesAt_null hw

/-- Where a script finds nothing, a query finds nothing but `null`. -/
theorem eq_null_of_mem_valuesAt {v w : Json} {path : List String}
    (h : Engine.valueAlong? v path = some .null) (hw : w ∈ v.valuesAt path) : w = .null := by
  induction path generalizing v with
  | nil =>
    simp only [Engine.valueAlong?, Option.some.injEq] at h
    rw [h] at hw
    exact eq_null_of_mem_valuesAt_null hw
  | cons key rest ih =>
    cases v with
    | obj fields =>
      change Engine.valueAlong? (valueAt fields key) rest = _ at h
      by_cases hnull : valueAt fields key = .null
      · exact eq_null_of_mem_valuesAt_field hnull hw
      · rw [Json.valuesAt_of_get?_eq_some (get?_of_valueAt hnull)] at hw
        exact ih h hw
    | _ => cases h

section Found

variable {oldStart newStart : String}

theorem map_renamedValue_of_null {vs : List Json} (h : ∀ v ∈ vs, v = .null) :
    vs.map (renamedValue oldStart newStart) = vs := by
  conv_rhs => rw [← List.map_id vs]
  refine List.map_congr_left fun v hv => ?_
  rw [h v hv]
  rfl

/-- What is found of one name. -/
theorem RenamedAt.valuesAt {path : List String} {v v' : Json} (h : RenamedAt oldStart newStart path v v') :
    v'.valuesAt path = (v.valuesAt path).map (renamedValue oldStart newStart) := by
  cases h with
  | moved hname hbelow hput =>
    rw [valuesAt_of_text hname, valuesAt_of_text (Engine.valueAlong?_putAlong? hput), List.map_singleton,
      renamedValue, if_pos hbelow]
  | other hname hother =>
    rw [valuesAt_of_text hname, List.map_singleton, renamedValue, if_neg hother]
  | absent hname => exact (map_renamedValue_of_null fun w hw => eq_null_of_mem_valuesAt hname hw).symm

/-- What is found of the names in a list. -/
theorem valuesInItems_renamed {path : List String} {items items' : List Json}
    (h : List.Forall₂ (RenamedAt oldStart newStart path) items items') :
    Json.valuesInItems items' path = (Json.valuesInItems items path).map (renamedValue oldStart newStart) := by
  induction h with
  | nil => simp [Json.valuesInItems]
  | cons hitem _ ih => rw [Json.valuesInItems, Json.valuesInItems, List.map_append, hitem.valuesAt, ih]

/-- **A query finds the names that were there before, each of them renamed.** -/
theorem FieldRenamed.valuesAt {field : String} {source source' : Fields}
    (h : FieldRenamed oldStart newStart field source source') :
    (Json.obj source').valuesAt (Text.split '.' field)
      = ((Json.obj source).valuesAt (Text.split '.' field)).map (renamedValue oldStart newStart) := by
  cases h with
  | name hfield h =>
    rw [Text.split_of_notMem hfield]
    exact h.valuesAt
  | list hdot hfield hlist h =>
    rename_i list leaf items items'
    have hitems : Keyed.get? source list = some (.arr items) := by
      rw [← hlist]
      exact get?_of_valueAt (by simp [hlist])
    rw [hfield, Text.split_dotted hdot, Json.valuesAt_of_get?_eq_some hitems,
      Json.valuesAt_of_get?_eq_some (Keyed.get?_insert_self _ _ _)]
    exact valuesInItems_renamed h
  | noList hdot hfield hlist =>
    rw [hfield, Text.split_dotted hdot]
    exact (map_renamedValue_of_null fun w hw => eq_null_of_mem_valuesAt_field hlist hw).symm

end Found

end Cluster

end CatalogIndex
