/-
  CatalogIndex.Entity.Record — the things that are indexed.

  An entity has an identity (id, type, name, fully qualified name), a version, owners, the record of
  its latest changes and free-form attributes.  A time series record, such as a test result, has an
  id, a type, a time and attributes.  The JSON form of either is its attributes with the fields of
  the identity laid over them.
-/
import CatalogIndex.Entity.Reference
import CatalogIndex.Entity.Change
import CatalogIndex.Text.Basic

namespace CatalogIndex

/-! ## §1. Types and fields with a special part. -/

/-- The types of services; everything inside a service keeps a copy of it under `service`. -/
def serviceTypes : List String :=
  ["databaseService", "dashboardService", "messagingService", "pipelineService", "mlmodelService",
    "storageService", "searchService", "apiService"]

/-- Whether a type is that of a service, in any letter case. -/
def isServiceType (entityType : String) : Bool := serviceTypes.any (Text.sameName · entityType)

/-- The fields that the documents of children copy from their parent. -/
def inheritableFields : List String := ["owners", "domain", "disabled", "testSuites", "displayName"]

/-- Whether children copy the field. -/
def isInheritable (field : String) : Bool := inheritableFields.contains field

/-! ## §2. Entities. -/

/-- An entity as the store holds it. -/
structure Entity where
  id : Uuid
  entityType : String
  name : String
  fullyQualifiedName : String
  version : Double
  updatedAt : Int
  owners : List EntityReference := []
  /-- The changes since creation or the last major version. -/
  change : Option ChangeDescription := none
  /-- The changes since the version that was indexed last. -/
  incremental : Option ChangeDescription := none
  attributes : Fields := []

namespace Entity

/-- The fields of the JSON form: the identity lies over the attributes. -/
def toFields (e : Entity) : Fields :=
  Keyed.layer e.attributes <|
    [("id", e.id.toJson), ("name", .str e.name),
      ("fullyQualifiedName", .str e.fullyQualifiedName), ("version", .double e.version),
      ("updatedAt", .int e.updatedAt)]
      ++ (if e.owners.isEmpty then [] else [("owners", .arr (e.owners.map EntityReference.toJson))])
      ++ Json.present "changeDescription" (e.change.map ChangeDescription.toJson)
      ++ Json.present "incrementalChangeDescription" (e.incremental.map ChangeDescription.toJson)

/-- The pointer to the entity. -/
def reference (e : Entity) : EntityReference :=
  { id := e.id, entityType := e.entityType, name := some e.name
    fullyQualifiedName := some e.fullyQualifiedName }

/-- Whether the entity has the given type, in any letter case. -/
def hasType (e : Entity) (entityType : String) : Bool := Text.sameName e.entityType entityType

/-- The change that counts for the index: the incremental one if it holds anything, and the full
    one otherwise. -/
def selectedChange? (e : Entity) : Option ChangeDescription :=
  match e.incremental with
  | some c => if c.isEmpty then e.change else some c
  | none => e.change

end Entity

/-! ## §3. Time series. -/

/-- One record of a time series. -/
structure TimeSeriesRecord where
  id : Uuid
  entityType : String
  timestamp : Int
  attributes : Fields := []

/-- The fields of the JSON form. -/
def TimeSeriesRecord.toFields (r : TimeSeriesRecord) : Fields :=
  Keyed.layer r.attributes [("id", r.id.toJson), ("timestamp", .int r.timestamp)]

end CatalogIndex
