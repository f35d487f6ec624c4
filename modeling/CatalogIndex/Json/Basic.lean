/-
  CatalogIndex.Json.Basic — free-form values.

  Attributes of entities, old and new values of a change, parameters of a script, bodies that go to
  and come from the cluster: whatever has no fixed shape is a `Json`.  The fields of an object are a
  `Keyed` collection, so two objects with the same fields are the same value; `object` builds one
  from fields in any order.
-/
import CatalogIndex.Keyed
import CatalogIndex.Decimal.Literal

namespace CatalogIndex

/-- A free-form value. -/
inductive Json where
  | null
  | bool (b : Bool)
  | num (n : Number)
  | str (s : String)
  | arr (items : List Json)
  /-- Fields in ascending order of their keys. -/
  | obj (fields : List (String × Json))
  deriving Inhabited

/-- The fields of an object. -/
abbrev Fields := Keyed Json

namespace Json

/-! ## §1. Equality. -/

mutual

/-- Equality of values can be decided. -/
protected def decEq : (a b : Json) → Decidable (a = b)
  | .null, .null => isTrue rfl
  | .bool a, .bool b => if h : a = b then isTrue (by rw [h]) else isFalse (by simpa using h)
  | .num a, .num b => if h : a = b then isTrue (by rw [h]) else isFalse (by simpa using h)
  | .str a, .str b => if h : a = b then isTrue (by rw [h]) else isFalse (by simpa using h)
  | .arr a, .arr b =>
    match Json.decEqItems a b with
    | isTrue h => isTrue (by rw [h])
    | isFalse h => isFalse (by simpa using h)
  | .obj a, .obj b =>
    match Json.decEqFields a b with
    | isTrue h => isTrue (by rw [h])
    | isFalse h => isFalse (by simpa using h)
  | .null, .bool _ | .null, .num _ | .null, .str _ | .null, .arr _ | .null, .obj _
  | .bool _, .null | .bool _, .num _ | .bool _, .str _ | .bool _, .arr _ | .bool _, .obj _
  | .num _, .null | .num _, .bool _ | .num _, .str _ | .num _, .arr _ | .num _, .obj _
  | .str _, .null | .str _, .bool _ | .str _, .num _ | .str _, .arr _ | .str _, .obj _
  | .arr _, .null | .arr _, .bool _ | .arr _, .num _ | .arr _, .str _ | .arr _, .obj _
  | .obj _, .null | .obj _, .bool _ | .obj _, .num _ | .obj _, .str _ | .obj _, .arr _ =>
    isFalse (by simp)

protected def decEqItems : (a b : List Json) → Decidable (a = b)
  | [], [] => isTrue rfl
  | [], _ :: _ => isFalse (by simp)
  | _ :: _, [] => isFalse (by simp)
  | x :: xs, y :: ys =>
    match Json.decEq x y, Json.decEqItems xs ys with
    | isTrue h, isTrue t => isTrue (by rw [h, t])
    | isFalse h, _ => isFalse (by simp [h])
    | _, isFalse t => isFalse (by simp [t])

protected def decEqFields : (a b : List (String × Json)) → Decidable (a = b)
  | [], [] => isTrue rfl
  | [], _ :: _ => isFalse (by simp)
  | _ :: _, [] => isFalse (by simp)
  | (k, x) :: xs, (l, y) :: ys =>
    match decEq k l, Json.decEq x y, Json.decEqFields xs ys with
    | isTrue e, isTrue h, isTrue t => isTrue (by rw [e, h, t])
    | isFalse e, _, _ => isFalse (by simp [e])
    | _, isFalse h, _ => isFalse (by simp [h])
    | _, _, isFalse t => isFalse (by simp [t])

end

instance : DecidableEq Json := Json.decEq

/-! ## §2. Building values. -/

/-- The object with the given fields; of two fields of one key the later counts. -/
def object (fields : List (String × Json)) : Json := .obj (Keyed.ofList fields)

/-- An integer. -/
def int (n : Int) : Json := .num (.int n)

/-- A natural number. -/
def nat (n : Nat) : Json := .num (.int n)

/-- A double. -/
def double (d : Double) : Json := .num (.double d)

/-- A list of texts. -/
def strings (texts : List String) : Json := .arr (texts.map .str)

/-- The field `key` if there is a value for it, and no field otherwise. -/
def present (key : String) (value : Option Json) : List (String × Json) :=
  match value with
  | some v => [(key, v)]
  | none => []

/-- `null` for nothing, and the value itself otherwise. -/
def orNull : Option Json → Json := (·.getD .null)

/-! ## §3. Looking into values. -/

/-- The field `key` of an object; other values have no fields. -/
def field? : Json → String → Option Json
  | .obj fields, key => Keyed.get? fields key
  | _, _ => none

/-- The value reached through the named fields, one after the other. -/
def path? (v : Json) : List String → Option Json
  | [] => some v
  | key :: rest => (v.field? key).bind fun inner => inner.path? rest

def asStr? : Json → Option String
  | .str s => some s
  | _ => none

def asBool? : Json → Option Bool
  | .bool b => some b
  | _ => none

def asArr? : Json → Option (List Json)
  | .arr items => some items
  | _ => none

def asObj? : Json → Option Fields
  | .obj fields => some fields
  | _ => none

/-- A natural number; a double is none, even when it is whole. -/
def asNat? : Json → Option Nat
  | .num (.int n) => if 0 ≤ n then some n.toNat else none
  | _ => none

/-- A number as a double. -/
def asDouble? : Json → Option Double
  | .num (.double d) => some d
  | .num (.int n) => Double.ofInt? n
  | _ => none

/-! ## §4. Measures and the order of fields. -/

mutual

/-- How many arrays and objects lie inside one another. -/
def depth : Json → Nat
  | .arr items => depthItems items + 1
  | .obj fields => depthFields fields + 1
  | _ => 0

def depthItems : List Json → Nat
  | [] => 0
  | v :: rest => max v.depth (depthItems rest)

def depthFields : List (String × Json) → Nat
  | [] => 0
  | (_, v) :: rest => max v.depth (depthFields rest)

end

mutual

/-- Every object in the value has its fields in ascending order, each key once. -/
def Canonical : Json → Prop
  | .arr items => CanonicalItems items
  | .obj fields => Keyed.Ascending fields ∧ CanonicalFields fields
  | _ => True

def CanonicalItems : List Json → Prop
  | [] => True
  | v :: rest => v.Canonical ∧ CanonicalItems rest

def CanonicalFields : List (String × Json) → Prop
  | [] => True
  | (_, v) :: rest => v.Canonical ∧ CanonicalFields rest

end

end Json

end CatalogIndex
