/-
  CatalogIndex.Proofs.Cascade.Reach — how far the writes for a removal can reach.

  A removal is meant to touch what belongs to the entity, or mentions it, and nothing else.  Every rule
  plans writes of five forms (`RemovalWrite`), each of which goes somewhere and selects by one field
  that has to have the id of the entity, or its name where a tag is taken off.  Documents are deleted or
  flagged under the aliases of the children only, so such a write goes to all documents exactly where
  the mapping itself names the alias of all documents among those of its children.

  ## Main definitions

    * `Mutation.RemovalWrite` — the forms of the writes that a rule plans;
    * `Request.query?` — the query that a request carries.

  ## Main results

    * `removalWrite_planDelete`, `flag_of_mem_planFlag` — every rule plans writes of these forms;
    * `removal_reach` — what each of them goes to, selects by and sends;
    * `all_deleted_with_children` — a mapping under which a deletion goes to all documents.
-/
import CatalogIndex.Proofs.Cascade.Planned
import CatalogIndex.Proofs.Index.Names
import CatalogIndex.Proofs.Keyed

namespace CatalogIndex

/-! ## §1. Selections and queries. -/

/-- The write only runs a script on what it selects: nothing is deleted or flagged. -/
def CascadeOp.isUpdate : CascadeOp → Bool
  | .update _ => true
  | _ => false

/-- The query that a request carries. -/
def Request.query? (r : Request) : Option Json :=
  match r.body with
  | some (.json v) => v.field? "query"
  | _ => none

namespace Cluster

theorem query?_updateByQueryRequest (e : Engine) (aliases : List String) (q : Query) (s : Script) :
    (updateByQueryRequest e aliases q s).query? = some (e.encodeQuery q) := by
  show (Json.object [("query", e.encodeQuery q), ("script", e.encodeScript s)]).field? "query" = _
  rw [Json.field?_object]
  simp [Keyed.get?]

theorem query?_deleteByQueryRequest (e : Engine) (aliases : List String) (q : Query) :
    (deleteByQueryRequest e aliases q).query? = some (e.encodeQuery q) := by
  show (Json.object [("query", e.encodeQuery q)]).field? "query" = _
  rw [Json.field?_object]
  simp [Keyed.get?]

end Cluster

/-- A write that selects by one field sends the comparison of that field. -/
theorem CascadeOp.query?_request (e : Engine) (r : Registry) {op : CascadeOp} {matcher : FieldMatch}
    (h : op.matchers = [matcher]) :
    (op.request e r).query? = some (e.encodeTerm matcher.field (.str matcher.value)) := by
  cases op with
  | update u =>
    cases h
    exact Cluster.query?_updateByQueryRequest ..
  | deleteMatching aliases ms =>
    cases h
    exact Cluster.query?_deleteByQueryRequest ..
  | flagMatching aliases ms script =>
    cases h
    exact Cluster.query?_updateByQueryRequest ..
  | rename index oldStart newStart field => cases h

/-- No comparison of a field selects everything. -/
theorem Engine.encodeTerm_ne_matchAll (e : Engine) (field : String) (value : Json) :
    e.encodeTerm field value ≠ e.encodeQuery .matchAll := by
  intro heq
  -- the two differ in a member that only one of them has
  have hterm : (e.encodeTerm field value).field? "match_all" = none := by
    cases e <;> simp [Engine.encodeTerm, Engine.keyed, Json.field?_object, Keyed.get?]
  have hall : (e.encodeQuery .matchAll).field? "match_all" = some (.obj []) := by
    simp [Engine.encodeQuery, Json.field?_object, Keyed.get?]
  rw [heq, hall] at hterm
  cases hterm

namespace Mutation

/-! ## §2. The forms of the writes. -/

/-- The writes that rules plan when an entity is removed. -/
inductive RemovalWrite (rs : DeleteRules) (m : Mutation) : CascadeOp → Prop where
  /-- A tag is taken off all documents that carry it. -/
  | strip (script : Script) (hrule : rs.rule m.entity.entityType = .tag) :
    RemovalWrite rs m (updateEverywhere "tags.tagFQN" m.entity.fullyQualifiedName script)
  /-- The entity is taken off all documents that refer to it. -/
  | detach (field : String) (script : Script) :
    RemovalWrite rs m (.update { target := .everywhere, matcher := m.idMatch field, script })
  /-- The entity is taken off its children. -/
  | detachChildren (field : String) (script : Script) (hchildren : m.children ≠ []) :
    RemovalWrite rs m (.update { target := .aliases m.children, matcher := m.idMatch field, script })
  /-- The children are deleted. -/
  | delete (field : String) (hchildren : m.children ≠ []) :
    RemovalWrite rs m (.deleteMatching m.children [m.idMatch field])
  /-- The children are flagged. -/
  | flag (field : String) (script : Script) (hchildren : m.children ≠ []) :
    RemovalWrite rs m (.flagMatching m.children [m.idMatch field] script)

variable {rs : DeleteRules} {m : Mutation} {op : CascadeOp}

theorem removalWrite_deleteChildren {field : String} (h : op ∈ m.deleteChildren (m.idMatch field)) :
    RemovalWrite rs m op := by
  unfold deleteChildren at h
  split at h
  · cases h
  · rename_i hchildren
    rw [List.mem_singleton.1 h]
    exact .delete field fun hnil => hchildren (List.isEmpty_iff.2 hnil)

theorem flag_of_mem_flagChildren {field : String} {script : Script}
    (h : op ∈ m.flagChildren (m.idMatch field) script) :
    m.children ≠ [] ∧ ∃ field script, op = .flagMatching m.children [m.idMatch field] script := by
  unfold flagChildren at h
  split at h
  · cases h
  · rename_i hchildren
    exact ⟨fun hnil => hchildren (List.isEmpty_iff.2 hnil), field, script, List.mem_singleton.1 h⟩

theorem removalWrite_deleteTestSuite (h : op ∈ m.deleteTestSuite) : RemovalWrite rs m op := by
  unfold deleteTestSuite at h
  dsimp only at h
  split at h
  · exact removalWrite_deleteChildren h
  · split at h
    · cases h
    · rename_i hchildren
      rw [List.mem_singleton.1 h]
      exact .detachChildren _ _ fun hnil => hchildren (List.isEmpty_iff.2 hnil)

end Mutation

namespace DeleteRules

open Mutation

/-- Only tags and glossary terms are taken off by name. -/
theorem entityType_of_rule_tag {entityType : String} (h : standard.rule entityType = .tag) :
    entityType = "tag" ∨ entityType = "glossaryTerm" := by
  unfold rule standard Keyed.ofList at h
  rw [Keyed.get?_layer] at h
  cases hget : Keyed.get? _ entityType with
  | none =>
    -- a type without a rule gets the one by parent
    rw [hget] at h
    cases h
  | some found =>
    rw [hget] at h
    cases h
    have hentry := Keyed.mem_of_get?_eq_some hget
    simpa [serviceTypes, or_comm] using hentry

/-- **A rule plans nothing else when an entity is deleted.** -/
theorem removalWrite_planDelete {rs : DeleteRules} {m : Mutation} {op : CascadeOp}
    (h : op ∈ rs.planDelete m) : RemovalWrite rs m op := by
  unfold planDelete at h
  cases hrule : rs.rule m.entity.entityType with
  | byParent =>
    rw [hrule] at h
    exact removalWrite_deleteChildren h
  | domain =>
    -- the domain is taken off everywhere, and its children are deleted
    rw [hrule] at h
    rcases List.mem_cons.1 h with rfl | h
    · exact .detach _ _
    · exact removalWrite_deleteChildren h
  | dataProduct =>
    rw [hrule] at h
    rw [List.mem_singleton.1 h]
    exact .detach _ _
  | tag =>
    rw [hrule] at h
    rw [List.mem_singleton.1 h]
    exact .strip _ hrule
  | dashboard =>
    rw [hrule] at h
    obtain ⟨hchildren, field, script, rfl⟩ := flag_of_mem_flagChildren h
    exact .flag field script hchildren
  | testSuite =>
    rw [hrule] at h
    exact removalWrite_deleteTestSuite h
  | service =>
    rw [hrule] at h
    exact removalWrite_deleteChildren h

/-- **A rule plans nothing but flags when an entity is flagged.** -/
theorem flag_of_mem_planFlag {rs : DeleteRules} {m : Mutation} {op : CascadeOp} {deleted : Bool}
    (h : op ∈ rs.planFlag m deleted) :
    m.children ≠ [] ∧ ∃ field script, op = .flagMatching m.children [m.idMatch field] script := by
  unfold planFlag at h
  -- every rule flags children, and only the match and the script differ
  cases hrule : rs.rule m.entity.entityType <;> rw [hrule] at h
  all_goals exact flag_of_mem_flagChildren h

end DeleteRules

/-! ## §3. How far they reach. -/

namespace Mutation.RemovalWrite

variable {rs : DeleteRules} {m : Mutation} {op : CascadeOp}

theorem targets_ne_nil (h : RemovalWrite rs m op) : op.targets m.registry ≠ [] := by
  cases h with
  | strip script hrule => exact List.cons_ne_nil _ _
  | detach field script => exact List.cons_ne_nil _ _
  | detachChildren field script hchildren => exact hchildren
  | delete field hchildren => exact hchildren
  | flag field script hchildren => exact hchildren

/-- What is selected has the id of the entity in some field, or its name among its tags. -/
theorem matchers_eq (h : RemovalWrite rs m op) :
    ∃ matcher, op.matchers = [matcher] ∧ (matcher.value = m.entity.id.toText
      ∨ (rs.rule m.entity.entityType = .tag
        ∧ ∃ script, op = updateEverywhere "tags.tagFQN" m.entity.fullyQualifiedName script)) := by
  cases h with
  | strip script hrule => exact ⟨_, rfl, Or.inr ⟨hrule, script, rfl⟩⟩
  | detach field script => exact ⟨_, rfl, Or.inl rfl⟩
  | detachChildren field script hchildren => exact ⟨_, rfl, Or.inl rfl⟩
  | delete field hchildren => exact ⟨_, rfl, Or.inl rfl⟩
  | flag field script hchildren => exact ⟨_, rfl, Or.inl rfl⟩

/-- What is deleted or flagged is under the aliases of the children. -/
theorem targets_of_not_update (h : RemovalWrite rs m op) (hkind : op.isUpdate = false) :
    op.targets m.registry = m.children := by
  cases h with
  | strip script hrule => cases hkind
  | detach field script => cases hkind
  | detachChildren field script hchildren => cases hkind
  | delete field hchildren => rfl
  | flag field script hchildren => rfl

end Mutation.RemovalWrite

open Mutation DeleteRules

/-- **How far a removal reaches.**  Each of its writes goes somewhere and sends one request, the query of
    which compares one field: with the id of the entity, or with its name where a deleted tag or term is
    taken off the documents that carry it.  What is not an update goes to the aliases of the children
    only; it reaches all documents exactly where the mapping names their alias among those. -/
theorem removal_reach {m : Mutation} {op : CascadeOp}
    (h : op ∈ standard.planDelete m ∨ ∃ deleted, op ∈ standard.planFlag m deleted) (e : Engine)
    (σ : Type) :
    op.targets m.registry ≠ []
      ∧ (∃ matcher, op.matchers = [matcher]
        ∧ (matcher.value = m.entity.id.toText
          ∨ (op ∈ standard.planDelete m
            ∧ (m.entity.entityType = "tag" ∨ m.entity.entityType = "glossaryTerm")
            ∧ ∃ script, op = updateEverywhere "tags.tagFQN" m.entity.fullyQualifiedName script))
        ∧ (op.request e m.registry).query?
          = some (e.encodeTerm matcher.field (.str matcher.value)))
      ∧ (op.request e m.registry).query? ≠ some (e.encodeQuery .matchAll)
      ∧ AsksOnce (σ := σ) (Cluster.applyCascade e m.registry op) (op.request e m.registry)
        Response.isSuccess
      ∧ (op.isUpdate = false →
        op.targets m.registry = m.mapping.childAliases.map (withClusterAlias m.registry.clusterAlias)
          ∧ (m.registry.globalAlias ∈ op.targets m.registry ↔ globalName ∈ m.mapping.childAliases)) := by
  -- the form of the write says all but what it sends
  have hwrite : RemovalWrite standard m op := by
    rcases h with h | ⟨deleted, h⟩
    · exact removalWrite_planDelete h
    · obtain ⟨hchildren, field, script, rfl⟩ := flag_of_mem_planFlag h
      exact .flag field script hchildren
  have hsendable : op.Sendable m.registry := by
    rcases h with h | ⟨deleted, h⟩
    · exact sendable_planDelete _ m op h
    · exact sendable_planFlag _ m deleted op h
  obtain ⟨matcher, hmatchers, hvalue⟩ := hwrite.matchers_eq
  have hquery := CascadeOp.query?_request e m.registry hmatchers
  refine ⟨hwrite.targets_ne_nil, ⟨matcher, hmatchers, ?_, hquery⟩, ?_,
    Cluster.asksOnce_applyCascade e hsendable, fun hkind => ?_⟩
  · rcases hvalue with hid | ⟨hrule, script, hop⟩
    · exact Or.inl hid
    · rcases h with h | ⟨deleted, h⟩
      · exact Or.inr ⟨h, entityType_of_rule_tag hrule, script, hop⟩
      · -- a flag is no update
        obtain ⟨-, field, script', hflag⟩ := flag_of_mem_planFlag h
        rw [hop] at hflag
        cases hflag
  · rw [hquery]
    exact fun heq => e.encodeTerm_ne_matchAll _ _ (Option.some.inj heq)
  · rw [hwrite.targets_of_not_update hkind]
    exact ⟨rfl, m.registry.globalAlias_mem_children_iff m.mapping⟩

/-- The index of the tables, with the given aliases of their children. -/
def tableMapping (childAliases : List String) : IndexMapping :=
  { indexName := "table_search_index", aliasName := "table", childAliases
    indexMappingFile := "table.json" }

/-- The removal of a table. -/
def tableRemoval (childAliases : List String) : Mutation where
  registry :=
    { mappings := [("table", tableMapping childAliases)], clusterAlias := "", language := "en"
      schemaRoot := "" }
  mapping := tableMapping childAliases
  entity :=
    { id := .nil, entityType := "table", name := "orders", fullyQualifiedName := "db.orders"
      version := .zero, updatedAt := 1 }
  change := none

/-- What is below a table goes with it. -/
theorem planDelete_tableRemoval (childAliases : List String) :
    standard.planDelete (tableRemoval childAliases)
      = (tableRemoval childAliases).deleteChildren ⟨"table.id", Uuid.nil.toText⟩ := by
  have hrule : standard.rule (tableRemoval childAliases).entity.entityType = .byParent := by
    show standard.rule "table" = _
    decide
  unfold planDelete
  rw [hrule]
  rfl

/-- The columns of a table are deleted by its id, and nothing else is. -/
theorem removal_reach_columns :
    CascadeOp.deleteMatching ["column"] [⟨"table.id", Uuid.nil.toText⟩]
        ∈ standard.planDelete (tableRemoval ["column"])
      ∧ (tableRemoval ["column"]).registry.globalAlias ∉ ["column"] := by
  have hplanned : CascadeOp.deleteMatching ["column"] [⟨"table.id", Uuid.nil.toText⟩]
      ∈ standard.planDelete (tableRemoval ["column"]) := by
    rw [planDelete_tableRemoval]
    exact List.mem_singleton_self _
  obtain ⟨-, -, -, -, hreach⟩ := removal_reach (Or.inl hplanned) .elasticsearch Unit
  refine ⟨hplanned, fun hglobal => ?_⟩
  have hchild : globalName ∈ ["column"] := (hreach rfl).2.1 hglobal
  revert hchild
  decide

/-- **A mapping can hand all documents to a deletion**: where it names their alias among those of the
    children, a write that deletes goes there. -/
theorem all_deleted_with_children :
    ∃ op ∈ standard.planDelete (tableRemoval ["all"]),
      op.isUpdate = false
        ∧ (tableRemoval ["all"]).registry.globalAlias ∈ op.targets (tableRemoval ["all"]).registry := by
  refine ⟨.deleteMatching ["all"] [⟨"table.id", Uuid.nil.toText⟩], ?_, rfl, by decide⟩
  rw [planDelete_tableRemoval]
  exact List.mem_singleton_self _

end CatalogIndex
