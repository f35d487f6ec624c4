/-
  CatalogIndex.Proofs.Cascade.InheritedFields — which fields go to children, and where they are kept.

  A change can hold anything: fields that nobody knows, values that are missing or cannot be read, a field
  several times.  Each field that children copy adds exactly one operation to the script, whatever its
  values are, and this operation is about that field.  So the script and the recorded fields always agree.

  Children are selected by the id of their parent, which stands in the object that holds their copy of
  the parent.  Where that object is, is decided once for the selection and once for the operation that
  writes a display name into it.  Both decisions come to the same object.

  ## Main definitions

    * `ScriptOp.field?` — the field that an operation is about;
    * `PassesOn` — what one changed field adds to a script;
    * `outerPath?` — the object that a dotted path leads into.

  ## Main results

    * `passesOn_foldl` — a run over changed fields adds one operation for each;
    * `keeps_collected` — what each field keeps, the script keeps;
    * `inherited_ops_match_fields` — the operations and the fields of an update agree;
    * `Engine.body_propagateNested` — a value is written where the object is that its path leads into;
    * `inherited_fields_same_object` — children are selected by the object that is written to.
-/
import CatalogIndex.Cascade.Update
import CatalogIndex.Engine.Script
import CatalogIndex.Proofs.Cascade.Planned
import CatalogIndex.Proofs.Keyed
import CatalogIndex.Proofs.Text.Pieces

namespace CatalogIndex

/-! ## §1. Operations about fields. -/

/-- The field that an operation names, or that it is made for. -/
def ScriptOp.field? : ScriptOp → Option String
  | .replaceField field | .propagateField field | .removePropagatedField field
  | .propagateReference field | .updatePropagatedReference field | .removePropagatedReference field
  | .renameStart field => some field
  | .propagateNested _ param => some param
  | .propagateTestSuites => some "testSuites"
  | .addOwners | .removeOwners => some "owners"
  | _ => none

/-- If the operation writes inside of an object, it writes the display name. -/
def ScriptOp.NestsDisplayName (entityType : String) (op : ScriptOp) : Prop :=
  ∀ path param, op = .propagateNested path param →
    path = fieldPath entityType "displayName" ∧ param = "displayName"

namespace InheritedUpdate

/-- One operation more, which is about the given field. -/
def PassesOn (entityType : String) (f : FieldChange) (s s' : Script) : Prop :=
  ∃ op : ScriptOp, s'.ops = s.ops ++ [op] ∧ op.field? = some f.name ∧ op.NestsDisplayName entityType

variable {e : Entity} {s : Script} {f : FieldChange}

/-- Parameters do not matter. -/
theorem PassesOn.of_push {entityType : String} {op : ScriptOp} {s' : Script}
    (hops : s'.ops = (s.push op).ops) (hfield : op.field? = some f.name)
    (hflat : ∀ path param, op ≠ .propagateNested path param) : PassesOn entityType f s s' :=
  ⟨op, hops, hfield, fun path param hnested => absurd hnested (hflat path param)⟩

theorem passesOn_assign (entityType : String) (s : Script) (f : FieldChange) :
    PassesOn entityType f s (assign entityType s f) := by
  unfold assign
  by_cases hsuites : f.name = "testSuites"
  · rw [if_pos hsuites]
    refine .of_push rfl ?_ (by simp)
    rw [hsuites]
    rfl
  · rw [if_neg hsuites]
    by_cases hshown : f.name = "displayName"
    · rw [if_pos hshown]
      refine ⟨.propagateNested (fieldPath entityType f.name) f.name, rfl, rfl, ?_⟩
      intro path param hnested
      cases hnested
      rw [hshown]
      exact ⟨rfl, rfl⟩
    · rw [if_neg hshown]
      exact .of_push rfl rfl (by simp)

theorem passesOn_setOwners (entityType : String) (hname : f.name = "owners") :
    PassesOn entityType f s (setOwners e s) := by
  refine .of_push rfl ?_ (by simp)
  rw [hname]
  rfl

/-- A deleted field adds one operation, whether its old value can be read or not. -/
theorem passesOn_deleted (e : Entity) (s : Script) (f : FieldChange) :
    PassesOn e.entityType f s (deleted e s f) := by
  unfold deleted
  by_cases hname : f.name = "owners"
  · rw [if_pos hname]
    refine .of_push rfl ?_ (by simp)
    rw [hname]
    rfl
  · rw [if_neg hname]
    cases f.oldAs EntityReference.decode? with
    | ok reference => exact .of_push rfl rfl (by simp)
    | error _ => exact .of_push rfl rfl (by simp)

/-- An updated field adds one operation; if one of its values cannot be read, it is assigned as a whole. -/
theorem passesOn_updated (e : Entity) (s : Script) (f : FieldChange) :
    PassesOn e.entityType f s (updated e s f) := by
  unfold updated
  by_cases hname : f.name = "owners"
  · rw [if_pos hname]
    exact passesOn_setOwners _ hname
  · rw [if_neg hname]
    cases f.oldAs EntityReference.decode? with
    | error _ => exact passesOn_assign _ s f
    | ok before =>
      cases f.newAs EntityReference.decode? with
      | error _ => exact passesOn_assign _ s f
      | ok after => exact .of_push rfl rfl (by simp)

/-- So does an added field. -/
theorem passesOn_added (e : Entity) (s : Script) (f : FieldChange) :
    PassesOn e.entityType f s (added e s f) := by
  unfold added
  by_cases hname : f.name = "owners"
  · rw [if_pos hname]
    exact passesOn_setOwners _ hname
  · rw [if_neg hname]
    cases f.newAs EntityReference.decode? with
    | error _ => exact passesOn_assign _ s f
    | ok reference => exact .of_push rfl rfl (by simp)

/-! ## §2. All fields of a change. -/

/-- **A run over changed fields adds one operation for each of them**, in their order. -/
theorem passesOn_foldl {entityType : String} {step : Script → FieldChange → Script}
    (hstep : ∀ s f, PassesOn entityType f s (step s f)) (fields : List FieldChange) (s : Script) :
    ∃ ops : List ScriptOp, (fields.foldl step s).ops = s.ops ++ ops
      ∧ ops.map ScriptOp.field? = fields.map (some ·.name)
      ∧ ∀ op ∈ ops, op.NestsDisplayName entityType := by
  induction fields generalizing s with
  | nil => exact ⟨[], by simp, rfl, by simp⟩
  | cons f rest ih =>
    obtain ⟨op, hop, hfield, hnested⟩ := hstep s f
    obtain ⟨ops, hops, hfields, hall⟩ := ih (step s f)
    refine ⟨op :: ops, ?_, ?_, ?_⟩
    · rw [List.foldl_cons, hops, hop, List.append_assoc]
      rfl
    · rw [List.map_cons, List.map_cons, hfield, hfields]
    · simpa using ⟨hnested, hall⟩

/-- Dropping repeated neighbours drops no element for good. -/
theorem mem_dropRepeats {α : Type} [DecidableEq α] {as : List α} {a : α} :
    a ∈ dropRepeats as ↔ a ∈ as := by
  induction as using dropRepeats.induct with
  | case1 => rfl
  | case2 => rfl
  | case3 x rest ih =>
    unfold dropRepeats
    rw [if_pos rfl, ih]
    simp
  | case4 x y rest hne ih =>
    unfold dropRepeats
    rw [if_neg hne, List.mem_cons, ih]
    exact List.mem_cons.symm

variable {c : ChangeDescription} {field : String} {op : ScriptOp}

/-- The changed fields that children copy, in the order in which the script deals with them. -/
def inOrder (c : ChangeDescription) : List FieldChange :=
  relevant c.fieldsDeleted ++ relevant c.fieldsUpdated ++ relevant c.fieldsAdded

theorem mem_inOrder : f ∈ inOrder c ↔ f ∈ c.all ∧ isInheritable f.name = true := by
  simp only [inOrder, relevant, ChangeDescription.all, List.mem_append, List.mem_filter]
  grind

/-- The script of an update before neighbours that are the same become one. -/
def collected (c : ChangeDescription) (e : Entity) : Script :=
  (relevant c.fieldsAdded).foldl (added e)
    ((relevant c.fieldsUpdated).foldl (updated e) ((relevant c.fieldsDeleted).foldl (deleted e) {}))

theorem script_of (c : ChangeDescription) (e : Entity) :
    (of c e).script = { collected c e with ops := dropRepeats (collected c e).ops } := rfl

/-- Only fields that children copy take part in a run. -/
theorem keeps_foldl {P : Script → Prop} {step : Script → FieldChange → Script}
    (hstep : ∀ s f, isInheritable f.name = true → P s → P (step s f)) (fields : List FieldChange)
    {s : Script} (hs : P s) : P ((relevant fields).foldl step s) := by
  refine List.foldlRecOn (motive := P) (relevant fields) step hs ?_
  intro s' hs' f hf
  exact hstep s' f (List.mem_filter.1 hf).2 hs'

/-- **What every field that children copy keeps, the whole script keeps.** -/
theorem keeps_collected {P : Script → Prop} (hstart : P {})
    (hdeleted : ∀ s f, isInheritable f.name = true → P s → P (deleted e s f))
    (hupdated : ∀ s f, isInheritable f.name = true → P s → P (updated e s f))
    (hadded : ∀ s f, isInheritable f.name = true → P s → P (added e s f)) : P (collected c e) := by
  have hgone := keeps_foldl hdeleted c.fieldsDeleted hstart
  have hchanged := keeps_foldl hupdated c.fieldsUpdated hgone
  exact keeps_foldl hadded c.fieldsAdded hchanged

/-- The operations of an update, before neighbours that are the same become one. -/
theorem exists_ops_of (c : ChangeDescription) (e : Entity) :
    ∃ ops : List ScriptOp, (of c e).script.ops = dropRepeats ops
      ∧ ops.map ScriptOp.field? = (inOrder c).map (some ·.name)
      ∧ ∀ op ∈ ops, op.NestsDisplayName e.entityType := by
  obtain ⟨gone, hgone, hgoneFields, hgoneNested⟩ :=
    passesOn_foldl (passesOn_deleted e) (relevant c.fieldsDeleted) {}
  obtain ⟨changed, hchanged, hchangedFields, hchangedNested⟩ :=
    passesOn_foldl (passesOn_updated e) (relevant c.fieldsUpdated)
      ((relevant c.fieldsDeleted).foldl (deleted e) {})
  obtain ⟨new, hnew, hnewFields, hnewNested⟩ :=
    passesOn_foldl (passesOn_added e) (relevant c.fieldsAdded)
      ((relevant c.fieldsUpdated).foldl (updated e) ((relevant c.fieldsDeleted).foldl (deleted e) {}))
  refine ⟨gone ++ changed ++ new, ?_, ?_, ?_⟩
  · rw [script_of]
    show dropRepeats (collected c e).ops = _
    unfold collected
    rw [hnew, hchanged, hgone]
    rfl
  · simp only [inOrder, List.map_append, hgoneFields, hchangedFields, hnewFields]
  · intro op hop
    rcases List.mem_append.1 hop with hop | hop
    · rcases List.mem_append.1 hop with hop | hop
      · exact hgoneNested op hop
      · exact hchangedNested op hop
    · exact hnewNested op hop

/-- The fields of an update are the fields that children copy, as far as the change names them. -/
theorem mem_fields_of : field ∈ (of c e).fields ↔ isInheritable field = true ∧ ∃ f ∈ c.all, f.name = field := by
  show field ∈ Keyed.distinct _ ↔ _
  rw [Keyed.mem_distinct]
  simp only [relevant, List.mem_map, List.mem_filter]
  constructor
  · intro h
    obtain ⟨f, ⟨hf, hinheritable⟩, hname⟩ := h
    rw [hname] at hinheritable
    exact ⟨hinheritable, f, hf, hname⟩
  · intro h
    obtain ⟨hinheritable, f, hf, hname⟩ := h
    rw [← hname] at hinheritable
    exact ⟨f, ⟨hf, hinheritable⟩, hname⟩

/-- Every operation of an update is about one of its fields. -/
theorem field?_of_mem (hop : op ∈ (of c e).script.ops) :
    ∃ field ∈ (of c e).fields, op.field? = some field := by
  obtain ⟨ops, hops, hfields, -⟩ := exists_ops_of c e
  rw [hops, mem_dropRepeats] at hop
  have hmem : op.field? ∈ (inOrder c).map (some ·.name) := by
    rw [← hfields]
    exact List.mem_map_of_mem hop
  obtain ⟨f, hf, hfield⟩ := List.mem_map.1 hmem
  obtain ⟨hall, hinheritable⟩ := mem_inOrder.1 hf
  exact ⟨f.name, mem_fields_of.2 ⟨hinheritable, f, hall, rfl⟩, hfield.symm⟩

/-- Every field of an update has an operation that is about it. -/
theorem exists_op_of_mem_fields (hfield : field ∈ (of c e).fields) :
    ∃ op ∈ (of c e).script.ops, op.field? = some field := by
  obtain ⟨ops, hops, hfields, -⟩ := exists_ops_of c e
  obtain ⟨hinheritable, f, hf, hname⟩ := mem_fields_of.1 hfield
  subst hname
  have hmem : some f.name ∈ ops.map ScriptOp.field? := by
    rw [hfields]
    exact List.mem_map_of_mem (f := fun f => some f.name) (mem_inOrder.2 ⟨hf, hinheritable⟩)
  obtain ⟨op, hop, hopField⟩ := List.mem_map.1 hmem
  refine ⟨op, ?_, hopField⟩
  rw [hops, mem_dropRepeats]
  exact hop

/-- There is something to do exactly if there is a field. -/
theorem isEmpty_of_iff : (of c e).isEmpty = true ↔ (of c e).fields = [] := by
  show (of c e).script.ops.isEmpty = true ↔ _
  rw [List.isEmpty_iff, List.eq_nil_iff_forall_not_mem, List.eq_nil_iff_forall_not_mem]
  constructor
  · intro hops field hfield
    obtain ⟨op, hop, -⟩ := exists_op_of_mem_fields hfield
    exact hops op hop
  · intro hfields op hop
    obtain ⟨field, hfield, -⟩ := field?_of_mem hop
    exact hfields field hfield

/-- A value is written inside of an object only if the display name changed, and it is written there. -/
theorem displayName_of_nested {path param : String}
    (hop : .propagateNested path param ∈ (of c e).script.ops) :
    path = fieldPath e.entityType "displayName" ∧ c.touches "displayName" = true := by
  obtain ⟨ops, hops, -, hnested⟩ := exists_ops_of c e
  have hmem := hop
  rw [hops, mem_dropRepeats] at hmem
  obtain ⟨hpath, hparam⟩ := hnested _ hmem path param rfl
  -- the operation is about its parameter, so the change names it
  obtain ⟨field, hfield, habout⟩ := field?_of_mem hop
  cases habout
  rw [hparam] at hfield
  obtain ⟨-, f, hf, hname⟩ := mem_fields_of.1 hfield
  refine ⟨hpath, ?_⟩
  unfold ChangeDescription.touches
  simp only [List.any_eq_true, beq_iff_eq]
  exact ⟨f, hf, hname⟩

theorem touches_of (hinheritable : isInheritable field = true) :
    (of c e).touches field = c.touches field := by
  refine Bool.eq_iff_iff.2 ?_
  show List.contains _ _ = true ↔ List.any _ _ = true
  rw [List.contains_iff_mem, mem_fields_of]
  simp [hinheritable]

end InheritedUpdate

open InheritedUpdate

/-- **Values that cannot be read never stop the other fields.**  There is an update for every change of
    every entity, whatever fields it names, how often, in which lists and with which values.  Its fields
    are those of the change that children copy, each once; its script is empty exactly if there is none;
    every operation is about one of them, and each of them has an operation. -/
theorem inherited_ops_match_fields (c : ChangeDescription) (e : Entity) :
    (∀ field, field ∈ (InheritedUpdate.of c e).fields
        ↔ isInheritable field = true ∧ ∃ f ∈ c.all, f.name = field)
      ∧ (InheritedUpdate.of c e).fields.Pairwise (· < ·)
      ∧ ((InheritedUpdate.of c e).isEmpty = true ↔ (InheritedUpdate.of c e).fields = [])
      ∧ (∀ op ∈ (InheritedUpdate.of c e).script.ops,
          ∃ field ∈ (InheritedUpdate.of c e).fields, op.field? = some field)
      ∧ ∀ field ∈ (InheritedUpdate.of c e).fields,
          ∃ op ∈ (InheritedUpdate.of c e).script.ops, op.field? = some field := by
  refine ⟨fun field => mem_fields_of, ?_, isEmpty_of_iff, fun op hop => field?_of_mem hop, ?_⟩
  · exact Keyed.pairwise_distinct _
  · intro field hfield
    exact exists_op_of_mem_fields hfield

/-! ## §3. The object that children keep their copy in. -/

/-- The object that a dotted path leads into. -/
def outerPath? (path : String) : Option String :=
  (Text.cutLast? '.' path.toList).map fun cut => String.ofList cut.1

theorem outerPath?_append (outer : String) {leaf : List Char} (h : '.' ∉ leaf) :
    outerPath? (outer ++ String.ofList ('.' :: leaf)) = some outer := by
  unfold outerPath?
  rw [String.toList_append, String.toList_ofList, Text.cutLast?_append h]
  simp

/-- A value is written at a path where the object is that the path leads into. -/
theorem Engine.body_propagateNested (e : Engine) {path outer : String} (param : String)
    (h : outerPath? path = some outer) :
    e.body (.propagateNested path param)
      = [.when (Expr.field outer).isThere [.assign (.field path) (.paramOf param)]] := by
  obtain ⟨cut, hcut, houter⟩ := Option.map_eq_some_iff.1 h
  show propagateNested path param = _
  unfold propagateNested
  rw [hcut, ← houter]

/-- The object in which children keep their copy of an entity of the type. -/
def copyObject (entityType : String) : String :=
  if isServiceType entityType then "service" else entityType

theorem outerPath?_fieldPath (entityType : String) :
    outerPath? (fieldPath entityType "displayName") = some (copyObject entityType) := by
  have hleaf : '.' ∉ "displayName".toList := by decide
  unfold fieldPath copyObject
  by_cases hservice : isServiceType entityType = true
  · rw [if_pos hservice, if_pos hservice]
    exact outerPath?_append "service" hleaf
  · rw [if_neg hservice, if_neg hservice]
    have happend : entityType ++ "." ++ "displayName"
        = entityType ++ String.ofList ('.' :: "displayName".toList) := by
      rw [String.append_assoc]
      rfl
    rw [happend]
    exact outerPath?_append entityType hleaf

namespace Mutation

variable {m : Mutation} {c : ChangeDescription}

/-- The object by whose id the children are selected: `service` for a service whose domain or display name
    changed, and the one named like the type otherwise. -/
def matchedObject (m : Mutation) (c : ChangeDescription) : String :=
  if isServiceType m.entity.entityType = true ∧ (c.touches "domain" = true ∨ c.touches "displayName" = true)
  then "service" else m.entity.entityType

/-- A changed display name is written into the object that selects the children. -/
theorem matchedObject_of_displayName (h : c.touches "displayName" = true) :
    m.matchedObject c = copyObject m.entity.entityType := by
  unfold matchedObject copyObject
  simp [h]

theorem inheritedFields_of_no_children (h : m.mapping.childAliases = []) : m.inheritedFields = [] := by
  have hchildren : m.children.isEmpty = true := by
    show (m.mapping.childAliases.map _).isEmpty = true
    rw [h]
    rfl
  unfold inheritedFields
  cases m.change with
  | none => rfl
  | some c => simp [hchildren]

/-- With children, and a field that they copy, one update is planned. -/
theorem inheritedFields_of_children (hc : m.change = some c)
    (hchanged : ∃ f ∈ c.all, isInheritable f.name = true) (h : m.mapping.childAliases ≠ []) :
    m.inheritedFields = [.update { target := .aliases m.children
                                   matcher := m.idMatch (m.matchedObject c ++ ".id")
                                   script := (InheritedUpdate.of c m.entity).script }] := by
  have hchildren : m.children.isEmpty = false := by
    show (m.mapping.childAliases.map _).isEmpty = false
    simp [h]
  have hsome : (InheritedUpdate.of c m.entity).isEmpty = false := by
    obtain ⟨f, hf, hinheritable⟩ := hchanged
    have hmem : f.name ∈ (InheritedUpdate.of c m.entity).fields :=
      mem_fields_of.2 ⟨hinheritable, f, hf, rfl⟩
    refine Bool.eq_false_iff.2 fun hempty => ?_
    rw [isEmpty_of_iff.1 hempty] at hmem
    cases hmem
  have hdomain : (InheritedUpdate.of c m.entity).touches "domain" = c.touches "domain" :=
    touches_of (by decide)
  have hshown : (InheritedUpdate.of c m.entity).touches "displayName" = c.touches "displayName" :=
    touches_of (by decide)
  unfold inheritedFields matchedObject
  rw [hc]
  simp only [hsome, hchildren, hdomain, hshown, Bool.or_self, Bool.and_eq_true, Bool.or_eq_true]
  rw [if_neg Bool.false_ne_true]
  by_cases hservice : (c.touches "domain" = true ∨ c.touches "displayName" = true)
      ∧ isServiceType m.entity.entityType = true
  · rw [if_pos hservice, if_pos hservice.symm]
    rfl
  · rw [if_neg hservice, if_neg fun hback => hservice hback.symm]
    rfl

end Mutation

open Mutation

/-- **Children are selected by the object that is written to.**  If a change names a field that children
    copy, one update goes to all of them, or nothing if there are none.  It selects them by the id of the
    entity in one object, and every value that it writes inside of an object goes into the same one. -/
theorem inherited_fields_same_object {m : Mutation} {c : ChangeDescription} (hc : m.change = some c)
    (hchanged : ∃ f ∈ c.all, isInheritable f.name = true) :
    (m.mapping.childAliases = [] → UpdateCascade.inheritedFields.plan m = .ok [])
      ∧ (m.mapping.childAliases ≠ [] →
          UpdateCascade.inheritedFields.plan m = .ok [.update
            { target := .aliases (m.mapping.childAliases.map (withClusterAlias m.registry.clusterAlias))
              matcher := ⟨m.matchedObject c ++ ".id", m.entity.id.toText⟩
              script := (InheritedUpdate.of c m.entity).script }])
      ∧ ∀ path param, .propagateNested path param ∈ (InheritedUpdate.of c m.entity).script.ops →
          outerPath? path = some (m.matchedObject c)
            ∧ outerPath? (m.matchedObject c ++ ".id") = some (m.matchedObject c) := by
  refine ⟨fun hnone => ?_, fun hsome => ?_, ?_⟩
  · exact congrArg Except.ok (inheritedFields_of_no_children hnone)
  · exact congrArg Except.ok (inheritedFields_of_children hc hchanged hsome)
  · intro path param hop
    obtain ⟨hpath, htouches⟩ := displayName_of_nested hop
    refine ⟨?_, outerPath?_append _ (show '.' ∉ "id".toList by decide)⟩
    rw [hpath, outerPath?_fieldPath, matchedObject_of_displayName htouches]

/-- A service with children in a shared cluster, its type in other letters, and a new display name. -/
def renamedService : Mutation where
  registry := { mappings := [], clusterAlias := "acme", language := "en", schemaRoot := "" }
  mapping :=
    { indexName := "database_service_search_index", childAliases := ["database", "table"]
      indexMappingFile := "" }
  entity :=
    { id := .nil, entityType := "DatabaseService", name := "mysql", fullyQualifiedName := "mysql"
      version := .zero, updatedAt := 1 }
  change := some
    { fieldsUpdated := [{ name := "displayName", oldValue := some .null, newValue := some (.str "MySQL") }] }

/-- Its display name goes into `service`, and `service` selects the children. -/
theorem inherited_fields_same_object_service :
    UpdateCascade.inheritedFields.plan renamedService = .ok [.update
        { target := .aliases ["acme_database", "acme_table"]
          matcher := ⟨"service.id", "00000000-0000-0000-0000-000000000000"⟩
          script :=
            { ops := [.propagateNested "service.displayName" "displayName"]
              params := [("displayName", .str "MySQL")] } }]
      ∧ outerPath? "service.displayName" = some "service" := by
  have hsame := inherited_fields_same_object (m := renamedService) rfl
    ⟨_, List.mem_singleton_self _, by decide⟩
  refine ⟨(hsame.2.1 (by decide)).trans (by decide +kernel), ?_⟩
  exact (hsame.2.2 "service.displayName" "displayName" (by decide +kernel)).1.trans (by decide +kernel)

end CatalogIndex
