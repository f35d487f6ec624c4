/-
  CatalogIndex.Proofs.Script.Value — values of expressions in scripts.

  The code of a script is a tree, and a script compares and builds names by the expressions in it.
  Here is what they are worth: for constants, variables, parameters, fields, comparisons, and for the
  methods of a text.  A text is counted in units of 16 bits, as the engines count it, so a character
  outside the first plane counts twice; a cut in the middle of such a character leaves no text.

  ## Main definitions

    * `Text.unitLength`, `Text.dropUnits?` — the length of a text, and the text behind a position;
    * `Expr.value?` — the value of an expression;
    * `Expr.move` — what a rename does with one name.

  ## Main results

    * `dropUnits?_append` — behind the length of its start, the rest of a text begins;
    * `value?_atOrBelow`, `value?_atOrBelow_of_no_text` — a name is compared with another one by whole
      segments, and what is no name with none;
    * `value?_renameGuard` — the condition of a rename compares a name with the old one;
    * `value?_movedName` — what a rename assigns is the name with another start;
    * `body_renameStart_of_field`, `body_renameStart_of_list` — a rename moves the name in a field, or in a
      part of each element of a list.
-/
import CatalogIndex.Engine.Script
import CatalogIndex.Proofs.Name.Segments
import CatalogIndex.Proofs.Script.Effect
import CatalogIndex.Proofs.Text.Pieces

namespace CatalogIndex

/-! ## §1. Units of 16 bits. -/

namespace Text

/-- How many units a character takes. -/
def units (c : Char) : Nat := if c.toNat < 0x10000 then 1 else 2

/-- How many units a text takes. -/
def unitLength : List Char → Nat
  | [] => 0
  | c :: cs => units c + unitLength cs

/-- The text behind a number of units; `none` if it is too short or a character would be cut. -/
def dropUnits? : Nat → List Char → Option (List Char)
  | 0, cs => some cs
  | _ + 1, [] => none
  | n + 1, c :: cs => if units c ≤ n + 1 then dropUnits? (n + 1 - units c) cs else none

theorem units_pos (c : Char) : 0 < units c := by
  unfold units
  split <;> omega

/-- **Behind the length of its start, the rest of a text begins.** -/
theorem dropUnits?_append (as bs : List Char) : dropUnits? (unitLength as) (as ++ bs) = some bs := by
  induction as with
  | nil =>
    show dropUnits? 0 bs = some bs
    cases bs <;> rfl
  | cons c rest ih =>
    have hpos := units_pos c
    obtain ⟨n, hn⟩ : ∃ n, unitLength (c :: rest) = n + 1 := by
      refine ⟨units c + unitLength rest - 1, ?_⟩
      show units c + unitLength rest = _
      omega
    have hlength : units c + unitLength rest = n + 1 := hn
    have hrest : n + 1 - units c = unitLength rest := by omega
    rw [hn]
    show (if units c ≤ n + 1 then dropUnits? (n + 1 - units c) (rest ++ bs) else none) = some bs
    rw [if_pos (by omega), hrest, ih]

end Text

/-! ## §2. Values. -/

namespace Engine

/-- What an expression can refer to. -/
structure Scope where
  params : Fields
  vars : Keyed Json := []
  source : Fields := []

/-- The value at a path of names; a field that is not there is `null`, and nothing can be reached
    through a value without fields. -/
def valueAlong? : Json → List String → Option Json
  | v, [] => some v
  | .obj fields, key :: rest => valueAlong? (valueAt fields key) rest
  | _, _ :: _ => none

/-- What a method without arguments gives. -/
def callValue? (method : String) : Json → Option Json
  | .str s => if method = "length" then some (.nat (Text.unitLength s.toList)) else none
  | _ => none

/-- What a method with an argument gives. -/
def callWithValue? (method : String) : Json → Json → Option Json
  | .str s, .str start =>
    if method = "startsWith" then some (.bool (Text.startsWith s start)) else none
  | .str s, .num (.int n) =>
    if method = "substring" ∧ 0 ≤ n then
      (Text.dropUnits? n.toNat s.toList).map fun cs => .str (String.ofList cs)
    else none
  | _, _ => none

/-- The value of a symbol between two operands; the right one of a condition is looked at only when
    the left one does not decide. -/
def BinaryOp.value? (symbol : BinaryOp) (left : Json) (right : Option Json) : Option Json :=
  match symbol, left, right with
  | .and, .bool false, _ => some (.bool false)
  | .and, .bool true, some (.bool b) => some (.bool b)
  | .or, .bool true, _ => some (.bool true)
  | .or, .bool false, some (.bool b) => some (.bool b)
  | .eq, a, some b => some (.bool (a = b))
  | .ne, a, some b => some (.bool (a ≠ b))
  | .plus, .str a, some (.str b) => some (.str (a ++ b))
  | _, _, _ => none

namespace Expr

/-- The value of an expression; `none` if a script fails there, or if it is not told here. -/
def value? (scope : Scope) : Expr → Option Json
  | .null => some .null
  | .bool b => some (.bool b)
  | .number n => some (.nat n)
  | .text s => some (.str s)
  | .var name => Keyed.get? scope.vars name
  | .document => some (.obj scope.source)
  | .field path => valueAlong? (.obj scope.source) (Text.split '.' path)
  | .params => some (.obj scope.params)
  | .param name | .paramOf name => some (valueAt scope.params name)
  | .member inner name => (inner.value? scope).bind fun v => valueAlong? v (Text.split '.' name)
  | .call inner method => (inner.value? scope).bind (callValue? method)
  | .callWith inner method arg =>
    (inner.value? scope).bind fun v => (arg.value? scope).bind (callWithValue? method v)
  | .not inner => (inner.value? scope).bind fun v => v.asBool?.map fun b => .bool (!b)
  | .op symbol left right => (left.value? scope).bind fun a => symbol.value? a (right.value? scope)
  | .group inner => inner.value? scope
  | _ => none

/-! ## §3. Conditions. -/

variable {scope : Scope} {x y : Expr}

theorem value?_isThere {v : Json} (h : x.value? scope = some v) :
    x.isThere.value? scope = some (.bool (decide (v ≠ .null))) := by
  simp [isThere, differs, value?, BinaryOp.value?, h]

theorem value?_isThere_of_none (h : x.value? scope = none) : x.isThere.value? scope = none := by
  simp [isThere, differs, value?, h]

/-- What a condition excludes need not be looked at any further. -/
theorem value?_both_of_false (h : x.value? scope = some (.bool false)) :
    (x.both y).value? scope = some (.bool false) := by
  simp [both, value?, BinaryOp.value?, h]

theorem value?_both_of_true (h : x.value? scope = some (.bool true)) :
    (x.both y).value? scope = ((y.value? scope).bind Json.asBool?).map .bool := by
  cases hy : y.value? scope with
  | none => simp [both, value?, BinaryOp.value?, h, hy]
  | some v => cases v <;> simp [both, value?, BinaryOp.value?, Json.asBool?, h, hy]

/-! ## §4. Names that are compared and moved. -/

variable {name : Expr} {oldStart newStart text : String}

/-- **A name is compared with another one and a dot behind it.** -/
theorem value?_atOrBelow {start : Expr} {startText : String} (hname : name.value? scope = some (.str text))
    (hstart : start.value? scope = some (.str startText)) :
    ((name.equal start).oneOf (.callWith name "startsWith" (.op .plus start (.text ".")))).value? scope
      = some (.bool (decide (Name.AtOrBelow startText text))) := by
  have hdotted : (Expr.op .plus start (.text ".")).value? scope = some (.str (startText ++ ".")) := by
    simp [value?, BinaryOp.value?, hstart]
  have hequal : (name.equal start).value? scope = some (.bool (decide (text = startText))) := by
    simp [Expr.equal, value?, BinaryOp.value?, hname, hstart]
  have hbelow : (Expr.callWith name "startsWith" (.op .plus start (.text "."))).value? scope
      = some (.bool (Text.startsWith text (startText ++ "."))) := by
    unfold value?
    rw [hname, hdotted]
    rfl
  unfold oneOf value?
  rw [hequal, hbelow]
  by_cases h : text = startText
  · simp [BinaryOp.value?, h, Name.AtOrBelow]
  · simp [BinaryOp.value?, h, Name.AtOrBelow]

/-- Nothing but a text can be compared with the start of a name. -/
theorem value?_atOrBelow_of_no_text {start : Expr} {startText : String}
    (hstart : start.value? scope = some (.str startText))
    (hname : ∀ text, name.value? scope ≠ some (.str text)) :
    ((name.equal start).oneOf (.callWith name "startsWith" (.op .plus start (.text ".")))).value? scope
      = none := by
  unfold oneOf equal
  cases hvalue : name.value? scope with
  | none => simp [value?, hvalue]
  | some v =>
    have hdiffers : v ≠ .str startText := fun h => hname startText (by rw [hvalue, h])
    have hcall : callWithValue? "startsWith" v (.str (startText ++ ".")) = none := by
      cases v with
      | str text => exact absurd hvalue (hname text)
      | _ => rfl
    simp [value?, BinaryOp.value?, hvalue, hstart, hdiffers, hcall]

theorem value?_underOldParent (hname : name.value? scope = some (.str text))
    (hold : valueAt scope.params "oldParentFQN" = .str oldStart) :
    name.underOldParent.value? scope = some (.bool (decide (Name.AtOrBelow oldStart text))) := by
  have hparam : (Expr.param "oldParentFQN").value? scope = some (.str oldStart) := by
    simp [value?, hold]
  exact value?_atOrBelow hname hparam

/-- **A rename changes exactly the names at or below the old one.** -/
theorem value?_renameGuard (hname : name.value? scope = some (.str text))
    (hold : valueAt scope.params "oldParentFQN" = .str oldStart) :
    (name.isThere.both (.group name.underOldParent)).value? scope
      = some (.bool (decide (Name.AtOrBelow oldStart text))) := by
  have hthere : name.isThere.value? scope = some (.bool true) := value?_isThere hname
  rw [value?_both_of_true hthere, value?, value?_underOldParent hname hold]
  rfl

/-- **What a rename assigns is the name with another start.** -/
theorem value?_movedName (hname : name.value? scope = some (.str text))
    (hold : valueAt scope.params "oldParentFQN" = .str oldStart)
    (hnew : valueAt scope.params "newParentFQN" = .str newStart)
    (h : Name.AtOrBelow oldStart text) :
    name.movedName.value? scope = some (.str (Name.replaceStart oldStart newStart text)) := by
  -- the text begins with the old name, so the cut by units is the cut by characters
  obtain ⟨rest, hrest⟩ : ∃ rest, text.toList = oldStart.toList ++ rest := by
    rcases Name.atOrBelow_iff.1 h with rfl | ⟨rest, rfl⟩
    · exact ⟨[], (List.append_nil _).symm⟩
    · exact ⟨'.' :: rest.toList, by simp⟩
  have hlength : (Expr.call (.param "oldParentFQN") "length").value? scope
      = some (.nat (Text.unitLength oldStart.toList)) := by
    simp [value?, hold, callValue?]
  have hcut : (Expr.callWith name "substring" (.call (.param "oldParentFQN") "length")).value? scope
      = some (.str (String.ofList rest)) := by
    have hdrop := Text.dropUnits?_append oldStart.toList rest
    unfold value?
    rw [hname, hlength]
    simp [callWithValue?, Json.nat, hrest, hdrop]
  have hmoved : Name.replaceStart oldStart newStart text = newStart ++ String.ofList rest := by
    simp [Name.replaceStart, hrest]
  unfold movedName value?
  rw [hcut, hmoved]
  simp [value?, hnew, BinaryOp.value?]

/-- The statement of a rename for one name. -/
def move (name : Expr) : Stmt :=
  .when (name.isThere.both (.group name.underOldParent)) [.assign name name.movedName]

end Expr

/-- A rename moves the name in a field. -/
theorem body_renameStart_of_field (e : Engine) {field : String} (h : '.' ∉ field.toList) :
    e.body (.renameStart field) = [(Expr.field field).move] := by
  show renameStart field = _
  unfold renameStart
  rw [Text.cutFirst?_eq_none_iff.2 h]
  rfl

/-- In a list, it moves the name in a part of every element. -/
theorem body_renameStart_of_list (e : Engine) {list : String} (h : '.' ∉ list.toList) (leaf : String) :
    e.body (.renameStart (list ++ "." ++ leaf))
      = [.when (Expr.field list).isThere
          [.each "item" (.field list) [(Expr.member (.var "item") leaf).move]]] := by
  show renameStart (list ++ "." ++ leaf) = _
  unfold renameStart
  rw [Text.cutFirst?_dotted h leaf, ← String.ofList_toList (s := list), ← String.ofList_toList (s := leaf)]
  simp only [String.ofList_toList]
  rfl

end Engine

end CatalogIndex
