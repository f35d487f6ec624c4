/-
  CatalogIndex.Config.Basic — how the program finds its cluster.

  A configuration names the engine, the address of the cluster, and where mappings and schemas are
  kept.  Every setting has a default.
-/
import CatalogIndex.Engine.Basic
import CatalogIndex.Error
import CatalogIndex.Json.Source
import CatalogIndex.Text.Blank

namespace CatalogIndex

/-- The settings of the program. -/
structure Config where
  searchType : Engine := .elasticsearch
  scheme : String := "http"
  host : String := "localhost"
  portNumber : Nat := 9200
  username : Option String := none
  password : Option String := none
  /-- The start of every name of an index or alias, where deployments share a cluster. -/
  clusterAlias : String := ""
  mappingLanguage : String := "en"
  indexMappingFile : Option String := none
  extensionMappingFile : Option String := none
  mappingSchemaRoot : String := "./resources/elasticsearch"
  connectionTimeoutSecs : Nat := 5
  socketTimeoutSecs : Nat := 60
  batchSize : Nat := 100

namespace Config

/-- The address of the cluster. -/
def baseUrl (c : Config) : String := s!"{c.scheme}://{c.host}:{c.portNumber}"

/-- The settings, if they make sense. -/
def validate (c : Config) : Outcome Config :=
  if Text.isAllBlank c.host then .error .emptyHost
  else if c.batchSize = 0 then .error .zeroBatch
  else if Text.isAllBlank c.mappingLanguage then .error .emptyLanguage
  else .ok c

/-! ## §1. Reading and writing. -/

/-- The JSON form; missing texts are `null`. -/
def toJson (c : Config) : Json :=
  let text (t : Option String) := Json.orNull (t.map .str)
  .object
    [("searchType", .str c.searchType.word), ("scheme", .str c.scheme), ("host", .str c.host),
      ("port", .nat c.portNumber), ("username", text c.username), ("password", text c.password),
      ("clusterAlias", .str c.clusterAlias), ("mappingLanguage", .str c.mappingLanguage),
      ("indexMappingFile", text c.indexMappingFile),
      ("extensionMappingFile", text c.extensionMappingFile),
      ("mappingSchemaRoot", .str c.mappingSchemaRoot),
      ("connectionTimeoutSecs", .nat c.connectionTimeoutSecs),
      ("socketTimeoutSecs", .nat c.socketTimeoutSecs), ("batchSize", .nat c.batchSize)]

/-- The settings in the order of their declaration. -/
def fieldNames : List String :=
  ["searchType", "scheme", "host", "port", "username", "password", "clusterAlias",
    "mappingLanguage", "indexMappingFile", "extensionMappingFile", "mappingSchemaRoot",
    "connectionTimeoutSecs", "socketTimeoutSecs", "batchSize"]

/-- Settings from a source; ports have 16 bits. -/
def decode? {ν : Type} [Source ν] (x : ν) : Option Config := do
  let p ← Source.parts? fieldNames x
  let d : Config := {}
  let searchType ←
    p.defaulted "searchType" (fun x => (Source.bare? x).bind Engine.ofWord?) d.searchType
  let scheme ← p.defaulted "scheme" Source.text? d.scheme
  let host ← p.defaulted "host" Source.text? d.host
  let portNumber ← p.defaulted "port" (Source.natBelow? (Nat.pow 2 16)) d.portNumber
  let username ← p.optional "username" Source.text?
  let password ← p.optional "password" Source.text?
  let clusterAlias ← p.defaulted "clusterAlias" Source.text? d.clusterAlias
  let mappingLanguage ← p.defaulted "mappingLanguage" Source.text? d.mappingLanguage
  let indexMappingFile ← p.optional "indexMappingFile" Source.text?
  let extensionMappingFile ← p.optional "extensionMappingFile" Source.text?
  let mappingSchemaRoot ← p.defaulted "mappingSchemaRoot" Source.text? d.mappingSchemaRoot
  let connectionTimeoutSecs ←
    p.defaulted "connectionTimeoutSecs" Source.nat? d.connectionTimeoutSecs
  let socketTimeoutSecs ← p.defaulted "socketTimeoutSecs" Source.nat? d.socketTimeoutSecs
  let batchSize ← p.defaulted "batchSize" Source.nat? d.batchSize
  some
    { searchType, scheme, host, portNumber, username, password, clusterAlias, mappingLanguage
      indexMappingFile, extensionMappingFile, mappingSchemaRoot, connectionTimeoutSecs
      socketTimeoutSecs, batchSize }

/-- Settings from a JSON text. -/
def ofJsonText (text : String) : Outcome Config :=
  match (Written.read? text).bind fun tree => decode? (TextNode.root tree) with
  | some c => c.validate
  | none => .error .malformedConfig

end Config

end CatalogIndex
