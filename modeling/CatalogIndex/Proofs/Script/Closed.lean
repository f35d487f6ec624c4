/-
  CatalogIndex.Proofs.Script.Closed — scripts without data in their code.

  The code of a script is made from its operations alone, and the parameters are sent beside it.  A script
  is closed for a type of entities if each of its operations is one of a finite list that depends on the
  type only, so that nothing of a mutation can become part of the code, and if every parameter that the
  code reads is there.

  Scripts are put together operation by operation, each with its parameters, and each of these steps keeps
  a script closed.

  ## Main definitions

    * `ScriptOp.paramNames` — the parameters that an operation reads;
    * `scriptOps` — the operations of scripts for entities of a type;
    * `Script.Closed` — a script that is closed for a type.

  ## Main results

    * `Engine.mem_readsAll_body` — the code of an operation reads its parameters, on both engines;
    * `Engine.source_encodeScript` — the source of a script is the code of its operations;
    * `Script.Closed.push`, `Script.Closed.setParam`, `Script.closed_of` — building scripts.
-/
import CatalogIndex.Cascade.Inherited
import CatalogIndex.Document.Write
import CatalogIndex.Engine.Script
import CatalogIndex.Proofs.Keyed

namespace CatalogIndex

/-! ## §1. The parameters of an operation. -/

/-- The names of the parameters that an operation reads. -/
def ScriptOp.paramNames : ScriptOp → List String
  | .setUpdatedAt => ["updatedAt"]
  | .addFollowers => ["followers"]
  | .removeFollowers => ["removedFollowers"]
  | .replaceField field | .propagateField field | .propagateReference field
  | .removePropagatedReference field => [field]
  | .updatePropagatedReference field => [field ++ "BeforeUpdate", field]
  | .propagateNested _ param => [param]
  | .propagateTestSuites => ["testSuites"]
  | .addOwners => ["updatedOwners"]
  | .removeOwners => ["deletedOwners", "remainingOwners"]
  | .updateCertification => ["name", "description", "tagFQN", "style"]
  | .updateDerivedTags => ["tagAdded", "tagDeleted"]
  | .updateTags => ["tagFQN", "updates"]
  | .endMembership => ["dashboardId"]
  | .removeDataProduct | .removeTags => ["fqn"]
  | .removeTestSuite => ["testSuiteId"]
  | .renameStart _ => ["oldParentFQN", "newParentFQN"]
  | .mergeFields | .removePropagatedField _ | .setDeleted _ | .flagSoleMember _ | .removeDomain => []

namespace Engine

/-- Dropping elements of a list reads what the list and the condition read. -/
theorem mem_reads_removeWhere (e : Engine) (list : Expr) (element : String) (condition : Expr)
    (name : String) :
    name ∈ (removeWhere e list element condition).reads ↔ name ∈ list.reads ∨ name ∈ condition.reads := by
  cases e with
  | elasticsearch =>
    simp [removeWhere, Stmt.reads, Stmt.readsAll, Expr.reads, Expr.isThere, Expr.differs]
  | opensearch =>
    simp [removeWhere, Stmt.reads, Stmt.readsAll, Expr.reads, Expr.isThere, Expr.differs]

/-- **The code of an operation reads the parameters of the operation**, and no others. -/
theorem mem_readsAll_body (e : Engine) (op : ScriptOp) (name : String) :
    name ∈ Stmt.readsAll (e.body op) ↔ name ∈ op.paramNames := by
  cases op with
  | propagateNested path param =>
    show name ∈ Stmt.readsAll (propagateNested path param) ↔ _
    unfold propagateNested
    split <;> simp [ScriptOp.paramNames, Stmt.reads, Stmt.readsAll, Expr.reads, Expr.isThere, Expr.differs]
  | renameStart field =>
    show name ∈ Stmt.readsAll (renameStart field) ↔ _
    unfold renameStart
    -- whether the names stand in the field itself or in a list, a name is compared and moved
    split
    all_goals
      simp only [ScriptOp.paramNames, Stmt.reads, Stmt.readsAll, Expr.reads, Expr.isThere, Expr.differs,
        Expr.both, Expr.oneOf, Expr.equal, Expr.underOldParent, Expr.movedName, List.append_nil,
        List.nil_append, List.mem_append, List.mem_cons, List.not_mem_nil, or_false]
      grind
  | updateDerivedTags =>
    simp [body, ScriptOp.paramNames, updateDerivedTags, ensureList, mem_reads_removeWhere, Stmt.reads,
      Stmt.readsAll, Expr.reads, Expr.isNull, Expr.isThere, Expr.differs, Expr.both, Expr.equal]
    grind
  | _ =>
    simp [body, ScriptOp.paramNames, addOwners, removeOwners, updateCertification, updateTags, ensureList,
      dropField, mem_reads_removeWhere, Stmt.reads, Stmt.readsAll, Expr.reads, Expr.isNull, Expr.isThere,
      Expr.differs, Expr.both, Expr.oneOf, Expr.equal]

end Engine

/-! ## §2. The operations for a type. -/

/-- The operations for a field that children copy. -/
def inheritedOps (field : String) : List ScriptOp :=
  [.propagateField field, .removePropagatedField field, .propagateReference field,
    .updatePropagatedReference field, .removePropagatedReference field]

/-- The operations of scripts for entities of a type.  Besides the names of fields that are fixed, the
    type is all that they hold. -/
def scriptOps (entityType : String) : List ScriptOp :=
  [.setUpdatedAt, .addFollowers, .removeFollowers, .mergeFields]
    ++ (copiedFields ++ if entityType = "query" then ["queryUsedIn"] else []).map .replaceField
    ++ inheritableFields.flatMap inheritedOps
    ++ [.addOwners, .removeOwners, .propagateTestSuites,
      .propagateNested (fieldPath entityType "displayName") "displayName"]
    ++ [.updateDerivedTags, .updateCertification, .updateTags, .renameStart "tags.tagFQN",
      .renameStart "fullyQualifiedName"]
    ++ [.removeDomain, .removeDataProduct, .removeTags, .endMembership, .removeTestSuite]
    ++ [.setDeleted true, .setDeleted false, .flagSoleMember true, .flagSoleMember false]

theorem mem_scriptOps_of_inheritable {field entityType : String} (h : isInheritable field = true)
    {op : ScriptOp} (hop : op ∈ inheritedOps field) : op ∈ scriptOps entityType := by
  have hfield : op ∈ inheritableFields.flatMap inheritedOps :=
    List.mem_flatMap.2 ⟨field, List.contains_iff_mem.1 h, hop⟩
  simp only [scriptOps, List.mem_append]
  grind

theorem mem_scriptOps_of_copied {field entityType : String} (h : isCopied entityType field = true) :
    .replaceField field ∈ scriptOps entityType := by
  have hfield : field ∈ copiedFields ++ if entityType = "query" then ["queryUsedIn"] else [] := by
    rcases (Bool.or_eq_true _ _).mp h with hcopied | hquery
    · exact List.mem_append_left _ (List.contains_iff_mem.1 hcopied)
    · simp only [Bool.and_eq_true, beq_iff_eq] at hquery
      rw [if_pos hquery.2, hquery.1]
      exact List.mem_append_right _ List.mem_cons_self
  have hop := List.mem_map_of_mem (f := ScriptOp.replaceField) hfield
  simp only [scriptOps, List.mem_append]
  grind

/-! ## §3. Closed scripts. -/

/-- **The source of a script is the code of its operations**, one after the other; the parameters have no
    part in it. -/
theorem Engine.source_encodeScript (e : Engine) (s : Script) :
    (e.encodeScript s).field? "source" = some (.str (Stmt.textAll e (s.ops.flatMap e.body))) :=
  Json.field?_object ..

namespace Script

/-- The operations are among those for the type, and the parameters that their code reads are there. -/
structure Closed (entityType : String) (s : Script) : Prop where
  ops : ∀ op ∈ s.ops, op ∈ scriptOps entityType
  params : ∀ (e : Engine), ∀ op ∈ s.ops, ∀ name ∈ Engine.Stmt.readsAll (e.body op),
    Keyed.contains s.params name = true

variable {entityType : String} {s : Script}

/-- A script without operations reads nothing. -/
theorem closed_start (entityType : String) (params : Fields) :
    ({ params } : Script).Closed entityType := by
  refine ⟨?_, ?_⟩
  · intro op hop
    cases hop
  · intro e op hop
    cases hop

/-- More parameters do no harm. -/
theorem Closed.setParam (h : s.Closed entityType) (key : String) (value : Json) :
    (s.setParam key value).Closed entityType := by
  refine ⟨h.ops, ?_⟩
  intro e op hop name hname
  exact (Keyed.contains_insert _ _ _ _).2 (Or.inr (h.params e op hop name hname))

/-- One more operation of the type, with its parameters in place. -/
theorem Closed.push (h : s.Closed entityType) {op : ScriptOp} (hop : op ∈ scriptOps entityType)
    (hparams : ∀ name ∈ op.paramNames, Keyed.contains s.params name = true) :
    (s.push op).Closed entityType := by
  refine ⟨?_, ?_⟩
  · intro op' hop'
    rcases List.mem_append.1 hop' with hold | hnew
    · exact h.ops op' hold
    · rw [List.mem_singleton.1 hnew]
      exact hop
  · intro e op' hop' name hname
    rcases List.mem_append.1 hop' with hold | hnew
    · exact h.params e op' hold name hname
    · rw [List.mem_singleton.1 hnew] at hname
      exact hparams name ((Engine.mem_readsAll_body e op name).1 hname)

/-- An operation that reads nothing. -/
theorem Closed.push_of_reads_nothing (h : s.Closed entityType) {op : ScriptOp}
    (hop : op ∈ scriptOps entityType) (hnone : op.paramNames = []) :
    (s.push op).Closed entityType := by
  refine h.push hop fun name hname => ?_
  rw [hnone] at hname
  cases hname

/-- An operation that reads one parameter, and the parameter. -/
theorem Closed.pushWith (h : s.Closed entityType) {op : ScriptOp} {key : String}
    (hop : op ∈ scriptOps entityType) (hparams : op.paramNames = [key]) (value : Json) :
    ((s.push op).setParam key value).Closed entityType := by
  show ((s.setParam key value).push op).Closed entityType
  refine (h.setParam key value).push hop fun name hname => ?_
  rw [hparams, List.mem_singleton] at hname
  exact (Keyed.contains_insert _ _ _ _).2 (Or.inl hname)

/-- An operation that reads two parameters, and the parameters. -/
theorem Closed.pushWith₂ (h : s.Closed entityType) {op : ScriptOp} {key key' : String}
    (hop : op ∈ scriptOps entityType) (hparams : op.paramNames = [key, key']) (value value' : Json) :
    (((s.push op).setParam key value).setParam key' value').Closed entityType := by
  show (((s.setParam key value).setParam key' value').push op).Closed entityType
  refine ((h.setParam key value).setParam key' value').push hop fun name hname => ?_
  rw [hparams] at hname
  refine (Keyed.contains_insert _ _ _ _).2 ?_
  rcases List.mem_cons.1 hname with rfl | hname
  · exact Or.inr ((Keyed.contains_insert _ _ _ _).2 (Or.inl rfl))
  · exact Or.inl (List.mem_singleton.1 hname)

/-- Fewer operations read fewer parameters. -/
theorem Closed.of_subset (h : s.Closed entityType) {ops : List ScriptOp} (hops : ∀ op ∈ ops, op ∈ s.ops) :
    ({ s with ops } : Script).Closed entityType :=
  ⟨fun op hop => h.ops op (hops op hop), fun e op hop => h.params e op (hops op hop)⟩

/-- A script of one operation, with its parameters among the given ones. -/
theorem closed_of {op : ScriptOp} (hop : op ∈ scriptOps entityType) {params : List (String × Json)}
    (hparams : ∀ name ∈ op.paramNames, name ∈ params.map (·.1)) :
    (Script.of op params).Closed entityType := by
  refine (closed_start entityType (Keyed.ofList params)).push hop fun name hname => ?_
  exact (Keyed.contains_layer _ _ _).2 (Or.inl (hparams name hname))

end Script

end CatalogIndex
