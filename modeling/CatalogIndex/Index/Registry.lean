/-
  CatalogIndex.Index.Registry — the indexes of a deployment.

  The registry knows the index mapping of every type, and qualifies names by the alias of the
  deployment.  Its mappings come in two layers: a base, which has to be sound, and an extension,
  which replaces entries of the base but counts only if all of it is sound.

  ## Main definitions

    * `Layer.read?` — one layer from a JSON text;
    * `Registry.ofLayers` — a registry from the texts of its layers;
    * `Registry.load` — a registry by the settings;
    * `resolve`, `unresolve` — names as callers write them, and as the cluster knows them.
-/
import CatalogIndex.Config.Basic
import CatalogIndex.Files.Tree
import CatalogIndex.Index.Bundled

namespace CatalogIndex

/-- The alias that every index for searching belongs to. -/
def globalName : String := "all"

/-- Index mappings by type. -/
abbrev Layer := Keyed IndexMapping

/-- A layer from the values of its entries. -/
def Layer.ofFields? (fields : Fields) : Option Layer :=
  fields.mapM fun (entityType, v) => (IndexMapping.decode? v).map (entityType, ·)

/-- A layer from a JSON text: an object in which every entry is a mapping. -/
def Layer.read? (text : String) : Option Layer :=
  ((Json.parse? text).bind Json.asObj?).bind Layer.ofFields?

/-- The index mappings of a deployment, and what is needed to name and create its indexes. -/
structure Registry where
  mappings : Layer
  clusterAlias : String
  language : String
  schemaRoot : String

namespace Registry

/-! ## §1. Loading. -/

/-- The registry with the given layers.  An extension that is not sound is left out. -/
def ofLayers (base : String) (extension : Option String)
    (clusterAlias language schemaRoot : String) : Outcome Registry :=
  match Layer.read? base with
  | none => .error .malformedBase
  | some mappings =>
    let upper := (extension.bind Layer.read?).getD []
    .ok { mappings := Keyed.layer mappings upper, clusterAlias, language, schemaRoot }

/-- The registry that the settings ask for.  Without a file of its own a deployment has the bundled
    mappings; an extension that cannot be read is left out. -/
def load (fileText : String → Option String) (c : Config) : Outcome Registry :=
  let extension := c.extensionMappingFile.bind fileText
  match c.indexMappingFile with
  | none =>
    ofLayers Bundled.mappingsJson.compact extension c.clusterAlias c.mappingLanguage
      c.mappingSchemaRoot
  | some path =>
    match fileText path with
    | some base => ofLayers base extension c.clusterAlias c.mappingLanguage c.mappingSchemaRoot
    | none => .error (.unreadableMapping path)

/-! ## §2. Mappings. -/

/-- The mapping of a type. -/
def mapping? (r : Registry) (entityType : String) : Option IndexMapping :=
  Keyed.get? r.mappings entityType

/-- The mapping of a type that has to have one. -/
def require (r : Registry) (entityType : String) : Outcome IndexMapping :=
  match r.mapping? entityType with
  | some m => .ok m
  | none => .error (.noMapping entityType)

/-- The types that have an index. -/
def entityTypes (r : Registry) : List String := Keyed.keys r.mappings

/-- The name of the index of a type. -/
def index (r : Registry) (entityType : String) : Outcome String :=
  (r.require entityType).map (·.index r.clusterAlias)

/-- The aliases of the children of a mapping. -/
def children (r : Registry) (m : IndexMapping) : List String := m.children r.clusterAlias

/-! ## §3. Names. -/

/-- The names of a list with commas, each as the cluster knows it. -/
def resolve (r : Registry) (names : String) : String :=
  if r.clusterAlias.isEmpty then names
  else Text.join "," <|
    (Text.split ',' names).map fun name => r.clusterAlias ++ aliasSeparator ++ Text.trim name

/-- The name behind the alias of the deployment, if it has that in front. -/
def unresolve (r : Registry) (name : String) : String :=
  if r.clusterAlias.isEmpty then name
  else (Text.dropStart? (r.clusterAlias ++ aliasSeparator) name).getD name

/-- The alias of all documents of the deployment. -/
def globalAlias (r : Registry) : String := r.resolve globalName

/-! ## §4. Schemas. -/

/-- The text of the schema of a mapping, in the language of the deployment. -/
def readSchema (r : Registry) (fileText : String → Option String) (m : IndexMapping) :
    Outcome String :=
  let relative := String.ofList ((m.schemaFile r.language).toList.dropWhile (· = '/'))
  let path := joinPath r.schemaRoot relative
  match fileText path with
  | some text => .ok text
  | none => .error (.unreadableSchema path)

end Registry

end CatalogIndex
