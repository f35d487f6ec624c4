/-
  CatalogIndex.Proofs.Cascade.DomainRemoval — what is left when a domain is deleted.

  The plan for a deleted domain first takes the domain from every document of the deployment, and
  then deletes the children that have it.  Where the children are among the documents of the
  deployment, the first step leaves nothing for the second one to find: all references to the domain
  go, and every document stays.

  ## Main results

    * `storeAfter_planDelete_domain` — the documents after the plan;
    * `domain_removal` — references vanish, and children vanish only if there were none;
    * `dataProduct_survives` — a data product that outlives its domain.
-/
import CatalogIndex.Cascade.Delete
import CatalogIndex.Proofs.Cascade.Store

namespace CatalogIndex

namespace Mutation

variable {m : Mutation}

/-! ## §1. Documents without a domain. -/

/-- A document without its domain. -/
def withoutDomain (d : Stored) : Stored :=
  { d with doc := { d.doc with fields := Keyed.erase d.doc.fields "domain" } }

/-- The script that a deleted domain is taken away with drops one field. -/
theorem patchStored?_removeDomain (d : Stored) :
    CascadeOp.patchStored? (Script.of .removeDomain) d = some (withoutDomain d) := by
  rfl

/-- The field in which children keep the id of their domain. -/
theorem parentMatch_field (h : m.entity.entityType = "domain") :
    Text.split '.' m.parentMatch.field = ["domain", "id"] := by
  show Text.split '.' (m.entity.entityType ++ ".id") = _
  rw [h]
  decide

/-- Without its domain, a document does not match any domain. -/
theorem parentMatch_withoutDomain (h : m.entity.entityType = "domain") (d : Stored) :
    m.parentMatch.holds (withoutDomain d).doc = false := by
  have hnone : (withoutDomain d).doc.source.valuesAt ["domain", "id"] = [] :=
    Json.valuesAt_of_get?_eq_none (Keyed.get?_erase_self d.doc.fields "domain") ["id"]
  unfold FieldMatch.holds
  rw [parentMatch_field h, hnone]
  rfl

/-! ## §2. The plan. -/

/-- The first step of the plan: the domain goes from every document. -/
def stripDomain (m : Mutation) : CascadeOp :=
  .update { target := .everywhere, matcher := m.parentMatch, script := Script.of .removeDomain }

theorem planDelete_domain (h : m.entity.entityType = "domain") :
    DeleteRules.standard.planDelete m = m.stripDomain :: m.deleteChildren m.parentMatch := by
  have hrule : DeleteRules.standard.rule m.entity.entityType = .domain := by
    rw [h]
    decide
  unfold DeleteRules.planDelete
  rw [hrule]
  rfl

/-- A document after the first step. -/
def stripped (m : Mutation) (d : Stored) : Stored :=
  if m.stripDomain.selects m.registry d then withoutDomain d else d

theorem stripped_key (d : Stored) : (m.stripped d).key = d.key := by
  unfold stripped
  split <;> rfl

theorem stripped_isUnder (d : Stored) (names : List String) :
    (m.stripped d).isUnder names = d.isUnder names := by
  unfold stripped
  split <;> rfl

/-- After the first step, no document of the deployment has the domain. -/
theorem parentMatch_stripped (h : m.entity.entityType = "domain") {d : Stored}
    (hglobal : d.isUnder [m.registry.globalAlias] = true) :
    m.parentMatch.holds (m.stripped d).doc = false := by
  unfold stripped
  by_cases hselects : m.stripDomain.selects m.registry d
  · rw [if_pos hselects]
    exact parentMatch_withoutDomain h d
  · -- it is not selected although it is under the alias, so it did not have the domain
    rw [if_neg hselects]
    have hselects' : (d.isUnder [m.registry.globalAlias] && m.parentMatch.holds d.doc) = false :=
      Bool.eq_false_iff.2 hselects
    rwa [hglobal, Bool.true_and] at hselects'

/-- **The plan takes the domain from every document, and deletes none.** -/
theorem storeAfter_planDelete_domain (h : m.entity.entityType = "domain") {store : List Stored}
    (hchildren : ∀ d ∈ store, d.isUnder m.children = true →
      d.isUnder [m.registry.globalAlias] = true) :
    CascadeOp.storeAfterAll? m.registry (DeleteRules.standard.planDelete m) store
      = some (store.map m.stripped) := by
  have hfirst : m.stripDomain.storeAfter? m.registry store = some (store.map m.stripped) :=
    CascadeOp.storeAfter?_of_script rfl fun d _ => patchStored?_removeDomain d
  rw [planDelete_domain h, CascadeOp.storeAfterAll?_cons hfirst]
  unfold deleteChildren
  split
  · rfl
  · -- the second step finds no child that still has the domain
    have hnone : ∀ d ∈ store.map m.stripped,
        (CascadeOp.deleteMatching m.children [m.parentMatch]).selects m.registry d = false := by
      intro d hd
      obtain ⟨d₀, hd₀, rfl⟩ := List.mem_map.1 hd
      show ((m.stripped d₀).isUnder m.children
        && (m.parentMatch.holds (m.stripped d₀).doc && true)) = false
      rw [stripped_isUnder]
      cases hchild : d₀.isUnder m.children with
      | false => rfl
      | true =>
        rw [parentMatch_stripped h (hchildren d₀ hd₀ hchild)]
        rfl
    rw [CascadeOp.storeAfterAll?_cons (CascadeOp.storeAfter?_of_none_selected rfl hnone)]
    rfl

end Mutation

/-! ## §3. What the deletion of a domain achieves. -/

open Mutation

/-- **References to a deleted domain vanish, but its children do not.**  After the plan, no document
    of the deployment has the domain, and every document is still there.  So the children that had
    the domain are gone only if there were none. -/
theorem domain_removal {m : Mutation} (h : m.entity.entityType = "domain") {store : List Stored}
    (hchildren : ∀ d ∈ store, d.isUnder m.children = true →
      d.isUnder [m.registry.globalAlias] = true) :
    ∃ after, CascadeOp.storeAfterAll? m.registry (DeleteRules.standard.planDelete m) store
        = some after
      ∧ after.map Stored.key = store.map Stored.key
      ∧ (∀ d ∈ after, d.isUnder [m.registry.globalAlias] = true →
          m.parentMatch.holds d.doc = false)
      ∧ ((∀ d ∈ store, d.isUnder m.children = true → m.parentMatch.holds d.doc = true →
            d.key ∉ after.map Stored.key)
          ↔ ∀ d ∈ store, d.isUnder m.children = true → m.parentMatch.holds d.doc = false) := by
  have hkeys : (store.map m.stripped).map Stored.key = store.map Stored.key := by
    rw [List.map_map]
    exact List.map_congr_left fun d _ => stripped_key d
  refine ⟨store.map m.stripped, storeAfter_planDelete_domain h hchildren, hkeys, ?_, ?_⟩
  · intro d hd hglobal
    obtain ⟨d₀, -, rfl⟩ := List.mem_map.1 hd
    rw [stripped_isUnder] at hglobal
    exact parentMatch_stripped h hglobal
  · rw [hkeys]
    constructor
    · intro hgone d hd hchild
      cases hholds : m.parentMatch.holds d.doc with
      | false => rfl
      | true => exact absurd (List.mem_map_of_mem hd) (hgone d hd hchild hholds)
    · intro hnone d hd hchild hholds
      rw [hnone d hd hchild] at hholds
      cases hholds

/-- The deletion of a domain whose children are data products. -/
def salesRemoval : Mutation where
  registry := { mappings := [], clusterAlias := "", language := "en", schemaRoot := "" }
  mapping :=
    { indexName := "domain_search_index", aliasName := "domain", parentAliases := ["all"]
      childAliases := ["dataProduct"], indexMappingFile := "" }
  entity :=
    { id := .nil, entityType := "domain", name := "sales", fullyQualifiedName := "sales"
      version := .zero, updatedAt := 1 }
  change := none

/-- A data product of the domain. -/
def ordersProduct : Stored where
  index := "data_product_search_index"
  aliases := ["dataProduct", "domain", "all"]
  doc :=
    { id := "orders"
      fields := [("domain", .obj [("id", .str "00000000-0000-0000-0000-000000000000")]),
        ("name", .str "orders")] }

theorem ordersProduct_deployed : ∀ d ∈ [ordersProduct], d.isUnder salesRemoval.children = true →
    d.isUnder [salesRemoval.registry.globalAlias] = true := by
  decide

/-- The children of the domain belong to the deployment, and the product is left without a domain. -/
theorem domain_removal_sales :
    ∃ after, CascadeOp.storeAfterAll? salesRemoval.registry
        (DeleteRules.standard.planDelete salesRemoval) [ordersProduct] = some after
      ∧ after.map Stored.key = [ordersProduct.key]
      ∧ ∀ d ∈ after, d.isUnder [salesRemoval.registry.globalAlias] = true →
          salesRemoval.parentMatch.holds d.doc = false := by
  obtain ⟨after, hafter, hkeys, hvanish, -⟩ := domain_removal (m := salesRemoval) rfl
    ordersProduct_deployed
  exact ⟨after, hafter, hkeys, hvanish⟩

/-- **A data product outlives its domain**: it had the domain before, and it is there after. -/
theorem dataProduct_survives :
    (∀ d ∈ [ordersProduct], d.isUnder salesRemoval.children = true →
        d.isUnder [salesRemoval.registry.globalAlias] = true)
      ∧ ordersProduct.isUnder salesRemoval.children = true
      ∧ salesRemoval.parentMatch.holds ordersProduct.doc = true
      ∧ ∃ after, CascadeOp.storeAfterAll? salesRemoval.registry
            (DeleteRules.standard.planDelete salesRemoval) [ordersProduct] = some after
          ∧ ordersProduct.key ∈ after.map Stored.key := by
  refine ⟨ordersProduct_deployed, by decide, by decide +kernel, [salesRemoval.stripped ordersProduct],
    storeAfter_planDelete_domain rfl ordersProduct_deployed, ?_⟩
  show ordersProduct.key ∈ [(salesRemoval.stripped ordersProduct).key]
  rw [stripped_key]
  exact List.mem_singleton_self _

end CatalogIndex
