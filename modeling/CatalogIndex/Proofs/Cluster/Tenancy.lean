/-
  CatalogIndex.Proofs.Cluster.Tenancy — requests to the indexes of one deployment.

  Deployments that share a cluster are kept apart by the names of their indexes and aliases: all of
  them begin with the alias of the deployment.  A request names indexes in its path, in the actions on
  aliases and in the lines of a bulk request.  It belongs to a deployment if all the names in it do.

  Whatever talks to the cluster is given the names it needs.  So each exchange is shown to send only
  requests of the deployment, if the names that it is given are of the deployment.

  ## Main definitions

    * `Request.names` — the indexes and aliases that a request names;
    * `Request.Tenanted` — a request that names those of one deployment only.

  ## Main results

    * `tenanted_of_isUnder` — a request whose path is under names of the deployment;
    * `keeps_createDocuments`, `keeps_createAliases` — names in bodies;
    * `keeps_applyCascade` — cascades with targets of the deployment.
-/
import CatalogIndex.Cluster.Admin
import CatalogIndex.Cluster.Search
import CatalogIndex.Proofs.Cluster.Sends
import CatalogIndex.Proofs.Index.Names
import CatalogIndex.Proofs.Keyed

namespace CatalogIndex

/-! ## §1. The names in a request. -/

/-- The lines of a bulk request that say where a document goes: every other one. -/
def actionLines : List Json → List Json
  | [] => []
  | [line] => [line]
  | line :: _ :: rest => line :: actionLines rest

/-- A text under names inside a value. -/
def textAt (v : Json) (path : List String) : Option String := (v.path? path).bind Json.asStr?

namespace Request

/-- The indexes and aliases that the actions on aliases name. -/
def aliasNames : Option Body → List (Option String)
  | some (.json v) => (((v.field? "actions").bind Json.asArr?).getD []).flatMap fun action =>
    [textAt action ["add", "index"], textAt action ["add", "alias"]]
  | _ => []

/-- The indexes that the lines of a bulk request name. -/
def bulkNames : Option Body → List (Option String)
  | some (.lines vs) => (actionLines vs).map (textAt · ["index", "_index"])
  | _ => []

/-- The indexes and aliases that a request names: in its body, where the path is that of the actions on
    aliases or of bulk requests, and in its path otherwise.  Where a name should be and is not, there is
    none. -/
def names (r : Request) : List (Option String) :=
  if r.path = "_aliases" then aliasNames r.body
  else if r.path = "_bulk?refresh=true" then bulkNames r.body
  else (pathNames r.path).map some

/-- A request of one deployment: it names indexes or aliases, and all of them begin with the alias of
    the deployment and an underscore. -/
def Tenanted (clusterAlias : String) (r : Request) : Prop :=
  r.names ≠ [] ∧ ∀ name ∈ r.names, ∃ rest, name = some (clusterAlias ++ aliasSeparator ++ rest)

end Request

open Request Sender

/-- The alias of a deployment that shares a cluster with others: it is no part of a list or a path. -/
structure SharedAlias (clusterAlias : String) : Prop where
  ne_empty : clusterAlias ≠ ""
  no_comma : ',' ∉ clusterAlias.toList
  no_slash : '/' ∉ clusterAlias.toList

variable {c : String}

/-- A path that begins with the alias of the deployment is none of those that begin with an
    underscore. -/
theorem SharedAlias.path_ne (hc : SharedAlias c) {path : String} (word : String) {rest : List Char}
    (hpath : path.toList = (c ++ aliasSeparator).toList ++ rest) (hword : '_' ∉ word.toList) :
    path ≠ "_" ++ word := by
  rintro rfl
  have hseparator : aliasSeparator.toList = ['_'] := rfl
  rw [String.toList_append, String.toList_append, hseparator] at hpath
  -- the alias is not empty, so its underscore is not the first character
  cases hchars : c.toList with
  | nil => exact hc.ne_empty (String.toList_injective hchars)
  | cons first others =>
    rw [hchars] at hpath
    have hrest : word.toList = others ++ ['_'] ++ rest := (List.cons.inj hpath).2
    apply hword
    rw [hrest]
    simp

/-- **A request whose path is under names of the deployment is one of its requests.** -/
theorem tenanted_of_isUnder (hc : SharedAlias c) {text path : String} (htext : Addressed c text)
    (hpath : IsUnder text path) (method : Method) (body : Option Body) :
    Tenanted c { method, path, body } := by
  obtain ⟨tail, hchars, -⟩ := hpath.exists_rest
  obtain ⟨more, hmore⟩ := htext.exists_append hc.ne_empty
  -- the two paths with names in the body begin with an underscore, and this one does not
  rw [hmore, String.toList_append, List.append_assoc] at hchars
  have haliases : path ≠ "_aliases" := hc.path_ne "aliases" hchars (by decide)
  have hbulk : path ≠ "_bulk?refresh=true" := hc.path_ne "bulk?refresh=true" hchars (by decide)
  have hnames : Request.names { method, path, body } = (pathNames path).map some := by
    unfold Request.names
    rw [if_neg haliases, if_neg hbulk]
  unfold Tenanted
  rw [hnames]
  refine ⟨?_, fun name hname => ?_⟩
  · rw [Ne, List.map_eq_nil_iff]
    exact pathNames_ne_nil path
  · obtain ⟨own, hown, rfl⟩ := List.mem_map.1 hname
    have hstart := startsWith_of_mem_pathNames hc.ne_empty hc.no_comma hc.no_slash htext hpath own hown
    obtain ⟨rest, rfl⟩ := Text.startsWith_iff.1 hstart
    exact ⟨rest, rfl⟩

/-- A request of which all names are known is one of the deployment if they are. -/
theorem tenanted_of_names (hc : SharedAlias c) {r : Request} {names : List String} (hnil : names ≠ [])
    (hnames : r.names = names.map some) (howned : ∀ name ∈ names, OwnName c name) : Tenanted c r := by
  unfold Tenanted
  rw [hnames]
  refine ⟨by rwa [Ne, List.map_eq_nil_iff], fun name hname => ?_⟩
  obtain ⟨own, hown, rfl⟩ := List.mem_map.1 hname
  obtain ⟨bare, rfl, -⟩ := howned own hown
  exact ⟨bare, by rw [withClusterAlias_of_ne hc.ne_empty]⟩

namespace Cluster

theorem textAt_addAlias (index name : String) :
    textAt (addAlias index name) ["add", "index"] = some index
      ∧ textAt (addAlias index name) ["add", "alias"] = some name := by
  simp [textAt, addAlias, Json.path?, Json.field?_object, Keyed.get?, Json.asStr?]

/-- The actions on aliases name the index and the aliases. -/
theorem aliasNames_addAlias (index : String) (names : List String) :
    aliasNames (some (.json (.object [("actions", .arr (names.map (addAlias index)))])))
      = (names.flatMap fun name => [index, name]).map some := by
  have hactions : (Json.object [("actions", .arr (names.map (addAlias index)))]).field? "actions"
      = some (.arr (names.map (addAlias index))) := by
    rw [Json.field?_object]
    simp [Keyed.get?]
  unfold aliasNames
  dsimp only
  rw [hactions]
  show (names.map (addAlias index)).flatMap _ = _
  simp only [List.flatMap_map, List.map_flatMap, textAt_addAlias, List.map_cons, List.map_nil]

theorem textAt_bulkLine (index id : String) :
    textAt (.object [("index", .object [("_index", .str index), ("_id", .str id)])]) ["index", "_index"]
      = some index := by
  simp [textAt, Json.path?, Json.field?_object, Keyed.get?, Json.asStr?]

/-- The lines of a bulk request name the index once for each document. -/
theorem bulkNames_bulkLines (index : String) (ds : List Document) :
    bulkNames (some (.lines (ds.flatMap (bulkLines index)))) = (ds.map fun _ => index).map some := by
  show (actionLines (ds.flatMap (bulkLines index))).map _ = _
  induction ds with
  | nil => rfl
  | cons d rest ih =>
    show textAt _ _ :: (actionLines (rest.flatMap (bulkLines index))).map _ = _
    rw [ih, textAt_bulkLine]
    rfl

variable {σ : Type} {b : Backend σ} (hc : SharedAlias c)

include hc

/-! ## §2. Indexes and documents. -/

section Index

variable {index : String} (hindex : OwnName c index)

include hindex

theorem keeps_indexExists : Keeps b (Tenanted c) (indexExists index) fun _ => True :=
  sends_indexExists (tenanted_of_isUnder hc hindex.addressed (Or.inl rfl) .head none)

theorem keeps_createIndex (schema : String) :
    Keeps b (Tenanted c) (createIndex index schema) fun _ => True :=
  sends_createIndex schema fun _ => tenanted_of_isUnder hc hindex.addressed (Or.inl rfl) .put _

theorem keeps_updateIndex (schema : String) :
    Keeps b (Tenanted c) (updateIndex index schema) fun _ => True :=
  sends_updateIndex schema fun _ =>
    tenanted_of_isUnder hc hindex.addressed (Or.inr (isBelow_segment index "/_mapping" rfl)) .put _

theorem keeps_deleteIndex : Keeps b (Tenanted c) (deleteIndex index) fun _ => True :=
  sends_deleteIndex (tenanted_of_isUnder hc hindex.addressed (Or.inl rfl) .delete none)

/-- The index joins aliases of the deployment. -/
theorem keeps_createAliases {names : List String} (hnames : ∀ name ∈ names, OwnName c name) :
    Keeps b (Tenanted c) (createAliases index names) fun _ => True := by
  refine sends_createAliases fun hnil => ?_
  have hsome : (names.flatMap fun name => [index, name]) ≠ [] := by
    obtain ⟨name, hname⟩ := List.exists_mem_of_ne_nil names hnil
    exact List.ne_nil_of_mem (List.mem_flatMap.2 ⟨name, hname, List.mem_cons_self⟩)
  refine tenanted_of_names hc hsome (aliasNames_addAlias index names) fun name hname => ?_
  -- an action names the index and one of the aliases
  obtain ⟨own, hown, hmem⟩ := List.mem_flatMap.1 hname
  rcases List.mem_cons.1 hmem with rfl | hmem
  · exact hindex
  · rw [List.mem_singleton.1 hmem]
    exact hnames own hown

theorem keeps_putDocument (action : String) (d : Document) :
    Keeps b (Tenanted c) (putDocument action index d) fun _ => True := by
  have hpath := ((isBelow_segment index "/_doc/" rfl).append d.id).append "?refresh=true"
  exact sends_putDocument action (tenanted_of_isUnder hc hindex.addressed (Or.inr hpath) .put _)

theorem keeps_patchDocument (e : Engine) (id : String) (s : Script) :
    Keeps b (Tenanted c) (patchDocument e index id s) fun _ => True := by
  have hpath := ((isBelow_segment index "/_update/" rfl).append id).append "?refresh=true"
  exact sends_patchDocument (tenanted_of_isUnder hc hindex.addressed (Or.inr hpath) .post _)

theorem keeps_deleteDocument (id : String) :
    Keeps b (Tenanted c) (deleteDocument index id) fun _ => True := by
  have hpath := ((isBelow_segment index "/_doc/" rfl).append id).append "?refresh=true"
  exact sends_deleteDocument (tenanted_of_isUnder hc hindex.addressed (Or.inr hpath) .delete none)

theorem keeps_documentById (id : String) :
    Keeps b (Tenanted c) (documentById index id) fun _ => True := by
  have hpath := (isBelow_segment index "/_doc/" rfl).append id
  exact sends_documentById (tenanted_of_isUnder hc hindex.addressed (Or.inr hpath) .get none)

/-- Many documents go to one index. -/
theorem keeps_createDocuments (ds : List Document) :
    Keeps b (Tenanted c) (createDocuments index ds) fun _ => True := by
  refine sends_createDocuments fun hnil => ?_
  refine tenanted_of_names hc (by simpa using hnil) (bulkNames_bulkLines index ds) fun name hname => ?_
  obtain ⟨_, -, rfl⟩ := List.mem_map.1 hname
  exact hindex

end Index

/-! ## §3. Searches. -/

section Search

variable {index : String} (hindex : Addressed c index)

include hindex

theorem keeps_runSearch (body : Json) : Keeps b (Tenanted c) (runSearch index body) fun _ => True :=
  sends_runSearch
    (tenanted_of_isUnder hc hindex (Or.inr (isBelow_segment index "/_search" rfl)) .post _)

theorem keeps_suggest {r : SuggestRequest} :
    Keeps b (Tenanted c) (suggest { r with index }) fun _ => True :=
  sends_suggest (tenanted_of_isUnder hc hindex (Or.inr (isBelow_segment index "/_search" rfl)) .post _)

theorem keeps_fetchSources (e : Engine) (q : Query) :
    Keeps b (Tenanted c) (fetchSources e index q) fun _ => True :=
  keeps_bind (keeps_runSearch hc hindex _) fun _ _ => keeps_pure trivial

end Search

/-! ## §4. Writes by query. -/

section ByQuery

variable (e : Engine) {aliases : List String} (haliases : ∀ name ∈ aliases, OwnName c name)

include haliases

/-- A write by query goes to the names that it is given. -/
theorem tenanted_byQueryPath (hnil : aliases ≠ []) (verb : String) (body : Option Body) :
    Tenanted c { method := .post, path := byQueryPath aliases verb, body } := by
  have hpath := ((isBelow_segment (Text.join "," aliases) "/" rfl).append verb).append
    "?conflicts=proceed&refresh=true"
  exact tenanted_of_isUnder hc ⟨aliases, hnil, haliases, rfl⟩ (Or.inr hpath) .post body

theorem keeps_deleteByQuery (q : Query) :
    Keeps b (Tenanted c) (deleteByQuery e aliases q) fun _ => True :=
  sends_deleteByQuery fun hnil => tenanted_byQueryPath hc haliases hnil _ _

end ByQuery

/-- **A cascade to names of the deployment stays among them.** -/
theorem keeps_applyCascade (e : Engine) {r : Registry} {op : CascadeOp}
    (htargets : ∀ name ∈ op.targets r, OwnName c name) :
    Keeps b (Tenanted c) (applyCascade e r op) fun _ => True := by
  refine sends_applyCascade fun hnil => ?_
  -- each kind of cascade is a write by query to its targets
  cases op with
  | update u => exact tenanted_byQueryPath hc htargets hnil _ _
  | deleteMatching aliases ms => exact tenanted_byQueryPath hc htargets hnil _ _
  | flagMatching aliases ms s => exact tenanted_byQueryPath hc htargets hnil _ _
  | rename index oldStart newStart field => exact tenanted_byQueryPath hc htargets hnil _ _

end Cluster

end CatalogIndex
