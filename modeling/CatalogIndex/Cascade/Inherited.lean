/-
  CatalogIndex.Cascade.Inherited — fields that children copy from their parent.

  A change of owners, domain, display name and a few more has to reach the documents of all
  children.  Each changed field adds one operation to a script.  Which one depends on the values of
  the change: pointers are compared by id, so that a child keeps a value of its own, and whatever is
  not a pointer is assigned as it is.  A value that cannot be read never stops the rest.

  ## Main definitions

    * `InheritedUpdate` — the script, and the fields that it is about;
    * `InheritedUpdate.of` — the update that a change asks for.
-/
import CatalogIndex.Entity.Record
import CatalogIndex.Script.Basic

namespace CatalogIndex

/-- A script for the documents of children, and the fields that made it necessary. -/
structure InheritedUpdate where
  script : Script := {}
  /-- In ascending order, each once. -/
  fields : List String := []

/-- Where a child keeps its copy of a field of its parent. -/
def fieldPath (entityType field : String) : String :=
  if isServiceType entityType then "service." ++ field else entityType ++ "." ++ field

/-- The owners of an entity, marked as copies. -/
def inheritedOwners (e : Entity) : Json :=
  .arr (e.owners.map fun owner => owner.asInherited.toJson)

/-- A value of a change: a text as the JSON it holds if it holds some, and anything else, or no
    value, as it is. -/
def plainValue (v : Option Json) : Json :=
  match v with
  | some v =>
    match readValue Source.json? v with
    | .ok inner => inner
    | .error _ => v
  | none => .null

/-- The list without elements that are equal to the one before them. -/
def dropRepeats {α : Type} [DecidableEq α] : List α → List α
  | [] => []
  | [a] => [a]
  | a :: b :: rest => if a = b then dropRepeats (b :: rest) else a :: dropRepeats (b :: rest)

namespace InheritedUpdate

/-! ## §1. One field. -/

/-- Assigns the new value of a field that is not a pointer. -/
def assign (entityType : String) (s : Script) (f : FieldChange) : Script :=
  if f.name = "testSuites" then
    (s.push .propagateTestSuites).setParam "testSuites" (plainValue f.newValue)
  else if f.name = "displayName" then
    (s.push (.propagateNested (fieldPath entityType f.name) f.name)).setParam f.name
      (Json.orNull (f.newText?.map .str))
  else (s.push (.propagateField f.name)).setParam f.name (plainValue f.newValue)

/-- Lets the children have the owners of the entity. -/
def setOwners (e : Entity) (s : Script) : Script :=
  (s.push .addOwners).setParam "updatedOwners" (inheritedOwners e)

/-- The script extended by a deleted field. -/
def deleted (e : Entity) (s : Script) (f : FieldChange) : Script :=
  if f.name = "owners" then
    let gone := match f.oldAs (Source.listOf? EntityReference.decode?) with
      | .ok owners => owners
      | .error _ => []
    ((s.push .removeOwners).setParam "deletedOwners"
      (.arr (gone.map EntityReference.toJson))).setParam "remainingOwners" (inheritedOwners e)
  else
    match f.oldAs EntityReference.decode? with
    | .ok reference => (s.push (.removePropagatedReference f.name)).setParam f.name reference.toJson
    | .error _ => s.push (.removePropagatedField f.name)

/-- The script extended by an updated field. -/
def updated (e : Entity) (s : Script) (f : FieldChange) : Script :=
  if f.name = "owners" then setOwners e s
  else
    match f.oldAs EntityReference.decode?, f.newAs EntityReference.decode? with
    | .ok before, .ok after =>
      ((s.push (.updatePropagatedReference f.name)).setParam (f.name ++ "BeforeUpdate")
        before.toJson).setParam f.name after.asInherited.toJson
    | _, _ => assign e.entityType s f

/-- The script extended by an added field. -/
def added (e : Entity) (s : Script) (f : FieldChange) : Script :=
  if f.name = "owners" then setOwners e s
  else
    match f.newAs EntityReference.decode? with
    | .ok reference =>
      (s.push (.propagateReference f.name)).setParam f.name reference.asInherited.toJson
    | .error _ => assign e.entityType s f

/-! ## §2. All fields. -/

/-- The changed fields that children copy. -/
def relevant (fields : List FieldChange) : List FieldChange :=
  fields.filter fun f => isInheritable f.name

/-- The update that a change asks for: deleted fields first, then updated and added ones.  Owners
    that are both updated and added ask for one operation only. -/
def of (c : ChangeDescription) (e : Entity) : InheritedUpdate :=
  let s := (relevant c.fieldsDeleted).foldl (deleted e) {}
  let s := (relevant c.fieldsUpdated).foldl (updated e) s
  let s := (relevant c.fieldsAdded).foldl (added e) s
  { script := { s with ops := dropRepeats s.ops }
    fields := Keyed.distinct ((relevant c.all).map (·.name)) }

/-- Whether nothing is to be done. -/
def isEmpty (u : InheritedUpdate) : Bool := u.script.isEmpty

/-- Whether the update is about `field`. -/
def touches (u : InheritedUpdate) (field : String) : Bool := u.fields.contains field

end InheritedUpdate

end CatalogIndex
