/-
  CatalogIndex.Index.Mapping — where documents live.

  Each type of entity has an index of its own, with an alias; it joins the aliases of its parents,
  so that a search over a service finds what is inside it, and names the aliases of its children,
  whose documents hold copies of its fields.  Where several deployments share a cluster, every name
  starts with the alias of the deployment and an underscore.
-/
import CatalogIndex.Json.Source
import CatalogIndex.Text.Lowercase

namespace CatalogIndex

/-- What stands between the alias of a deployment and a name. -/
def aliasSeparator : String := "_"

/-- A name as the cluster knows it; the empty alias stands for a cluster of one's own. -/
def withClusterAlias (clusterAlias name : String) : String :=
  if clusterAlias.isEmpty then name else clusterAlias ++ aliasSeparator ++ name

/-- The index of a type of entities. -/
structure IndexMapping where
  indexName : String
  aliasName : String := ""
  parentAliases : List String := []
  childAliases : List String := []
  /-- The path of the schema; `%s` stands for the language. -/
  indexMappingFile : String
  deriving DecidableEq

namespace IndexMapping

/-! ## §1. Names in the cluster. -/

/-- The name of the index. -/
def index (m : IndexMapping) (clusterAlias : String) : String :=
  withClusterAlias clusterAlias m.indexName

/-- The name of the alias. -/
def ownAlias (m : IndexMapping) (clusterAlias : String) : String :=
  withClusterAlias clusterAlias m.aliasName

/-- The aliases of the parents. -/
def parents (m : IndexMapping) (clusterAlias : String) : List String :=
  m.parentAliases.map (withClusterAlias clusterAlias)

/-- The aliases of the children. -/
def children (m : IndexMapping) (clusterAlias : String) : List String :=
  m.childAliases.map (withClusterAlias clusterAlias)

/-- The aliases that the index belongs to: its own, if it has one, and those of the parents. -/
def allAliases (m : IndexMapping) (clusterAlias : String) : List String :=
  (if m.aliasName.isEmpty then [] else [m.ownAlias clusterAlias]) ++ m.parents clusterAlias

/-! ## §2. The schema. -/

/-- The text with every `%s` replaced. -/
def fillLanguage (language : List Char) : List Char → List Char
  | '%' :: 's' :: rest => language ++ fillLanguage language rest
  | c :: rest => c :: fillLanguage language rest
  | [] => []

/-- The path of the schema for a language, which is written in lower case. -/
def schemaFile (m : IndexMapping) (language : String) : String :=
  String.ofList (fillLanguage (Text.lowercase language).toList m.indexMappingFile.toList)

/-! ## §3. JSON. -/

/-- The JSON form. -/
def toJson (m : IndexMapping) : Json :=
  .object
    [("indexName", .str m.indexName), ("alias", .str m.aliasName),
      ("parentAliases", Json.strings m.parentAliases),
      ("childAliases", Json.strings m.childAliases),
      ("indexMappingFile", .str m.indexMappingFile)]

/-- The fields in the order of their declaration. -/
def fieldNames : List String :=
  ["indexName", "alias", "parentAliases", "childAliases", "indexMappingFile"]

/-- A mapping from a source. -/
def decode? {ν : Type} [Source ν] (x : ν) : Option IndexMapping := do
  let p ← Source.parts? fieldNames x
  let indexName ← p.required "indexName" Source.text?
  let aliasName ← p.defaulted "alias" Source.text? ""
  let parentAliases ← p.defaulted "parentAliases" (Source.listOf? Source.text?) []
  let childAliases ← p.defaulted "childAliases" (Source.listOf? Source.text?) []
  let indexMappingFile ← p.required "indexMappingFile" Source.text?
  some { indexName, aliasName, parentAliases, childAliases, indexMappingFile }

end IndexMapping

end CatalogIndex
