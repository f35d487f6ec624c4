/-
  CatalogIndex.Proofs.Script.Certification — what a certification makes of a document.

  A certified document keeps a copy of the label of the tag that certifies it.  The script of a certification
  goes to that copy: it sets the name, the description, the full name and the style, and leaves everything
  else alone.  A document without a certification, or without a label in it, stays as it is, and the script
  fails where something else stands in these places.

  ## Main definitions

    * `labelledWith?` — a document with new parts in the label;
    * `Script.SetsLabel` — a script that sets parts of the label.

  ## Main results

    * `runAll?_labelParts` — assignments to the label, one after the other;
    * `Script.setsLabel_updateCertification` — the script of a certification;
    * `Script.SetsLabel.exists_part` — what is found in the label afterwards.
-/
import CatalogIndex.Proofs.Script.Closed
import CatalogIndex.Proofs.Script.Run

namespace CatalogIndex

/-! ## §1. Documents with a label. -/

/-- The document with a label in its certification. -/
def withLabel (source certification : Fields) (label : Json) : Fields :=
  Keyed.insert source "certification" (.obj (Keyed.insert certification "tagLabel" label))

/-- The document with new parts in the label of its certification. -/
def labelledWith? (parts : List (String × Json)) (source : Fields) : Option Fields :=
  match valueAt source "certification" with
  | .null => some source
  | .obj certification =>
    match valueAt certification "tagLabel" with
    | .null => some source
    | .obj label => some (withLabel source certification (.obj (Keyed.layer label parts)))
    | _ => none
  | _ => none

/-- On both engines, the script sets parts of the label in a certification, and nothing else. -/
def Script.SetsLabel (s : Script) (parts : List (String × Json)) : Prop :=
  ∀ (e : Engine) (source : Fields), s.runOn? e source = labelledWith? parts source

section Label

variable (source certification : Fields) (label : Json)

theorem valueAt_withLabel : valueAt (withLabel source certification label) "certification"
    = .obj (Keyed.insert certification "tagLabel" label) :=
  valueAt_insert_self _ _ _

/-- The last label counts. -/
theorem withLabel_withLabel (other : Json) :
    withLabel (withLabel source certification label) (Keyed.insert certification "tagLabel" label) other
      = withLabel source certification other := by
  simp only [withLabel, Keyed.insert_insert]

end Label

/-! ## §2. Assignments to the label. -/

namespace Engine

/-- Assigns a part of the label. -/
def labelPart (key : String) : Stmt :=
  .assign (.member (.field "certification.tagLabel") key) (.param key)

variable {scope : Scope} {certification : Fields}

theorem split_labelPath : Text.split '.' "certification.tagLabel" = ["certification", "tagLabel"] := by
  decide

section Certified

variable (hcertification : valueAt scope.source "certification" = .obj certification)

include hcertification

theorem value?_label :
    (Expr.field "certification.tagLabel").value? scope = some (valueAt certification "tagLabel") := by
  simp [Expr.value?, split_labelPath, valueAlong?, hcertification]

theorem put?_label (label : Json) : (Expr.field "certification.tagLabel").put? scope label
    = some { scope with source := withLabel scope.source certification label } := by
  simp [Expr.put?, split_labelPath, putAlong?, hcertification, Json.asObj?, withLabel]

/-- An assignment changes the label, if there are parts in it. -/
theorem run?_labelPart {key : String} (hkey : '.' ∉ key.toList) : (labelPart key).run? scope
    = (putAlong? (valueAt scope.params key) (valueAt certification "tagLabel") [key]).map
      fun label => { scope with source := withLabel scope.source certification label } := by
  have hput := Expr.put?_member (value?_label hcertification) key (valueAt scope.params key)
  rw [Text.split_of_notMem hkey] at hput
  show (Expr.member _ key).put? scope (valueAt scope.params key) = _
  rw [hput, funext (put?_label hcertification), Option.map_eq_bind]
  rfl

theorem run?_labelPart_of_label {label : Fields} (hlabel : valueAt certification "tagLabel" = .obj label)
    {key : String} (hkey : '.' ∉ key.toList) : (labelPart key).run? scope = some { scope with
      source := withLabel scope.source certification
        (.obj (Keyed.insert label key (valueAt scope.params key))) } := by
  rw [run?_labelPart hcertification hkey, hlabel]
  simp [putAlong?]

/-- Nothing is assigned to what is no label. -/
theorem run?_labelPart_of_other (hother : ∀ label, valueAt certification "tagLabel" ≠ .obj label)
    {key : String} (hkey : '.' ∉ key.toList) : (labelPart key).run? scope = none := by
  rw [run?_labelPart hcertification hkey]
  cases h : valueAt certification "tagLabel" with
  | obj label => exact absurd h (hother label)
  | _ => rfl

end Certified

/-- **Assignments to a label, one after the other**, lay their parts over it. -/
theorem runAll?_labelParts {label : Fields} {key : String} {keys : List String}
    (hcertification : valueAt scope.source "certification" = .obj certification)
    (hlabel : valueAt certification "tagLabel" = .obj label) (hkeys : ∀ k ∈ key :: keys, '.' ∉ k.toList) :
    Stmt.runAll? scope ((key :: keys).map labelPart) = some { scope with
      source := withLabel scope.source certification
        (.obj (Keyed.layer label ((key :: keys).map fun k => (k, valueAt scope.params k)))) } := by
  induction keys generalizing scope certification label key with
  | nil =>
    rw [List.map_singleton, Stmt.runAll?_singleton]
    exact run?_labelPart_of_label hcertification hlabel (hkeys key List.mem_cons_self)
  | cons next rest ih =>
    -- the label that the first assignment leaves is the one that the others find
    let changed : Fields := Keyed.insert label key (valueAt scope.params key)
    let after : Scope := { scope with source := withLabel scope.source certification (.obj changed) }
    have hfirst : (labelPart key).run? scope = some after :=
      run?_labelPart_of_label hcertification hlabel (hkeys key List.mem_cons_self)
    have hthere : valueAt after.source "certification"
        = .obj (Keyed.insert certification "tagLabel" (.obj changed)) := valueAt_withLabel _ _ _
    have hrest := ih hthere (valueAt_insert_self _ _ _) fun k hk => hkeys k (List.mem_cons_of_mem _ hk)
    rw [List.map_cons, Stmt.runAll?, hfirst, Option.bind_some, hrest, withLabel_withLabel]
    rfl

/-- Without parts in the label, assignments to it fail. -/
theorem runAll?_labelParts_of_other {key : String} {keys : List String}
    (hcertification : valueAt scope.source "certification" = .obj certification)
    (hother : ∀ label, valueAt certification "tagLabel" ≠ .obj label) (hkey : '.' ∉ key.toList) :
    Stmt.runAll? scope ((key :: keys).map labelPart) = none := by
  rw [List.map_cons, Stmt.runAll?, run?_labelPart_of_other hcertification hother hkey]
  rfl

/-! ## §3. The code of a certification. -/

/-- The condition of a certification. -/
def hasLabel : Expr := (Expr.field "certification").isThere.both (Expr.field "certification.tagLabel").isThere

theorem value?_certified (scope : Scope) : (Expr.field "certification").isThere.value? scope
    = some (.bool (decide (valueAt scope.source "certification" ≠ .null))) :=
  Expr.value?_isThere_field (by decide)

theorem value?_hasLabel (hcertification : valueAt scope.source "certification" = .obj certification) :
    hasLabel.value? scope = some (.bool (decide (valueAt certification "tagLabel" ≠ .null))) := by
  have hfirst := value?_certified scope
  rw [hcertification] at hfirst
  unfold hasLabel
  rw [Expr.value?_both_of_true hfirst, Expr.value?_isThere (value?_label hcertification)]
  rfl

theorem value?_hasLabel_of_uncertified (h : valueAt scope.source "certification" = .null) :
    hasLabel.value? scope = some (.bool false) := by
  have hfirst := value?_certified scope
  rw [h] at hfirst
  exact Expr.value?_both_of_false hfirst

/-- There is no looking for a label in what has no fields. -/
theorem value?_hasLabel_of_other (hthere : valueAt scope.source "certification" ≠ .null)
    (hother : ∀ fields, valueAt scope.source "certification" ≠ .obj fields) :
    hasLabel.value? scope = none := by
  have hfirst := value?_certified scope
  rw [decide_eq_true hthere] at hfirst
  have hlabel : (Expr.field "certification.tagLabel").value? scope = none := by
    simp only [Expr.value?, split_labelPath, valueAlong?]
  unfold hasLabel
  rw [Expr.value?_both_of_true hfirst, Expr.value?_isThere_of_none hlabel]
  rfl

/-- **Guarded assignments to the label** set its parts. -/
theorem run?_when_hasLabel {key : String} {keys : List String} (hkeys : ∀ k ∈ key :: keys, '.' ∉ k.toList) :
    ((Stmt.when hasLabel ((key :: keys).map labelPart)).run? scope).map (·.source)
      = labelledWith? ((key :: keys).map fun k => (k, valueAt scope.params k)) scope.source := by
  unfold labelledWith?
  cases hcertification : valueAt scope.source "certification" with
  | null =>
    rw [Stmt.run?_when (value?_hasLabel_of_uncertified hcertification), if_neg Bool.false_ne_true]
    rfl
  | obj certification =>
    rw [Stmt.run?_when (value?_hasLabel hcertification)]
    cases hlabel : valueAt certification "tagLabel" with
    | null => simp [hlabel]
    | obj label => simp [hlabel, -List.map_cons, runAll?_labelParts hcertification hlabel hkeys]
    | _ =>
      have hnone : Stmt.runAll? scope ((key :: keys).map labelPart) = none :=
        runAll?_labelParts_of_other hcertification (by simp [hlabel]) (hkeys key List.mem_cons_self)
      simp [hlabel, -List.map_cons, hnone]
  | _ =>
    have hnone : hasLabel.value? scope = none :=
      value?_hasLabel_of_other (by simp [hcertification]) (by simp [hcertification])
    simp [Stmt.run?, hnone]

end Engine

/-! ## §4. Scripts. -/

theorem Script.runOn?_updateCertification (params : List (String × Json)) (e : Engine) (source : Fields) :
    (Script.of .updateCertification params).runOn? e source
      = labelledWith? (ScriptOp.updateCertification.paramNames.map fun key =>
          (key, valueAt (Keyed.ofList params) key)) source := by
  have hkeys : ∀ key ∈ ScriptOp.updateCertification.paramNames, '.' ∉ key.toList := by decide
  have hrun : ((Engine.Stmt.when _ _).run? { params := Keyed.ofList params, source }).map (·.source) = _ :=
    Engine.run?_when_hasLabel hkeys
  rw [← Engine.Stmt.runAll?_singleton] at hrun
  exact hrun

/-- **The script of a certification sets the parts of the label that it has parameters for.** -/
theorem Script.setsLabel_updateCertification (name description tagFqn style : Json) :
    (Script.of .updateCertification
      [("name", name), ("description", description), ("tagFQN", tagFqn), ("style", style)]).SetsLabel
      [("name", name), ("description", description), ("tagFQN", tagFqn), ("style", style)] := by
  intro e source
  rw [Script.runOn?_updateCertification]
  simp [valueAt, Keyed.get?_ofList, ScriptOp.paramNames, Keyed.get?, Json.orNull]

/-- **In a document with a label, the part is found afterwards.** -/
theorem Script.SetsLabel.exists_part {s : Script} {parts : List (String × Json)} (h : s.SetsLabel parts)
    {part : String} {value : Json} (hpart : Keyed.get? parts.reverse part = some value) (e : Engine)
    {source label : Fields}
    (hlabel : Engine.valueAlong? (.obj source) ["certification", "tagLabel"] = some (.obj label)) :
    ∃ source', s.runOn? e source = some source'
      ∧ Engine.valueAlong? (.obj source') ["certification", "tagLabel", part] = some value := by
  have hthere : ∃ certification, valueAt source "certification" = .obj certification
      ∧ valueAt certification "tagLabel" = .obj label := by
    change Engine.valueAlong? (valueAt source "certification") ["tagLabel"] = _ at hlabel
    cases hcertification : valueAt source "certification" with
    | obj certification =>
      rw [hcertification] at hlabel
      exact ⟨certification, rfl, Option.some.inj hlabel⟩
    | _ =>
      rw [hcertification] at hlabel
      cases hlabel
  obtain ⟨certification, hcertification, htagLabel⟩ := hthere
  refine ⟨withLabel source certification (.obj (Keyed.layer label parts)), ?_, ?_⟩
  · rw [h e source, labelledWith?, hcertification]
    simp only [htagLabel]
  · have hvalue : valueAt (Keyed.layer label parts) part = value := by
      rw [valueAt, Keyed.get?_layer, hpart]
      rfl
    simp [Engine.valueAlong?, valueAt_withLabel, valueAt_insert_self, hvalue]

end CatalogIndex
