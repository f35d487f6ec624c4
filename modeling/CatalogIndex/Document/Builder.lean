/-
  CatalogIndex.Document.Builder — from an entity to its document.

  The document of an entity is its JSON form, brought into the shape the index expects: owners carry
  a display name, followers are bare ids, the history of changes and what else must not be found is
  left out, and suggestions are added.  What differs between types of entities is only which fields
  are left out and which suggestions are added, so a type is described by data (`Builder`).

  ## Main definitions

    * `Indexable` — an entity or record, ready to become a document;
    * `Enrichment` — one kind of added suggestions;
    * `Builder.build` — the document of an indexable thing;
    * `standardBuilders` — the builders of all known types.
-/
import CatalogIndex.Document.Basic
import CatalogIndex.Document.Suggest
import CatalogIndex.Entity.Record

namespace CatalogIndex

/-! ## §1. What is indexed. -/

/-- The JSON form of an entity or record, with the parts of its identity. -/
structure Indexable where
  entityType : String
  id : String
  name : String
  fullyQualifiedName : String
  body : Fields
  /-- A record of a time series gets no suggestions of its own. -/
  timeSeries : Bool

/-- An entity, ready to become a document. -/
def Entity.indexable (e : Entity) : Indexable :=
  { entityType := e.entityType, id := e.id.toText, name := e.name
    fullyQualifiedName := e.fullyQualifiedName, body := e.toFields, timeSeries := false }

/-- A record, ready to become a document. -/
def TimeSeriesRecord.indexable (r : TimeSeriesRecord) : Indexable :=
  let text (key : String) : String := ((Keyed.get? r.toFields key).bind Json.asStr?).getD ""
  { entityType := r.entityType, id := r.id.toText, name := text "name"
    fullyQualifiedName := text "fullyQualifiedName", body := r.toFields, timeSeries := true }

/-! ## §2. The shape of owners and followers. -/

/-- The value with `f` applied to the field `key`, if there is one. -/
def adjust (fields : Fields) (key : String) (f : Json → Json) : Fields :=
  match Keyed.get? fields key with
  | some v => Keyed.insert fields key (f v)
  | none => fields

/-- An owner with a display name: its own unless that is empty, and else its name. -/
def namedOwner : Json → Json
  | .obj fields =>
    match Keyed.get? fields "displayName" with
    | some (.str shown) =>
      if shown.isEmpty then .obj (takeName fields) else .obj fields
    | _ => .obj (takeName fields)
  | v => v
where
  takeName (fields : Fields) : Fields :=
    match Keyed.get? fields "name" with
    | some name => Keyed.insert fields "displayName" name
    | none => fields

/-- A list of owners, each with a display name. -/
def namedOwners : Json → Json
  | .arr owners => .arr (owners.map namedOwner)
  | v => v

/-- The id of a follower, who is an id already or carries one. -/
def followerId? : Json → Option Json
  | .str id => some (.str id)
  | v => v.field? "id"

/-- A list of followers as bare ids. -/
def bareFollowers : Json → Json
  | .arr followers => .arr (followers.filterMap followerId?)
  | v => v

/-! ## §3. Builders. -/

/-- Suggestions that documents of a type get besides those of their names. -/
inductive Enrichment where
  /-- Under `key`, the names in the trees found at the given paths. -/
  | children (key : String) (paths : List (List String))
  /-- Under `key`, the name of what the field points to. -/
  | pointed (key field : String)
  /-- The synonyms of the entity complete like its name does. -/
  | synonyms
  deriving DecidableEq

/-- How the documents of one type are built. -/
structure Builder where
  entityType : String
  /-- Fields that must not be found. -/
  excluded : List String := []
  enrichments : List Enrichment := []

/-- The history of changes never reaches the index. -/
def alwaysExcluded : List String := ["changeDescription", "incrementalChangeDescription"]

/-- Stores suggestions under `key`, unless there are none. -/
def putSuggestions (fields : Fields) (key : String) (suggestions : List Suggestion) : Fields :=
  if suggestions.isEmpty then fields
  else Keyed.insert fields key (Suggestion.listToJson suggestions)

namespace Enrichment

/-- The given suggestions, followed by those of `more` that are not there yet. -/
def merged (suggestions more : List Suggestion) : List Suggestion :=
  more.foldl (fun acc s => if s ∈ acc then acc else acc ++ [s]) suggestions

/-- The synonyms of an entity, if it has a list of them. -/
def synonyms? (body : Fields) : Option (List Suggestion) :=
  ((Keyed.get? body "synonyms").bind Json.asArr?).map fun items =>
    (items.filterMap Json.asStr?).map (⟨·, Suggestion.childWeight⟩)

/-- Adds the suggestions to the fields of a document; what they say comes from the body. -/
def apply (body fields : Fields) : Enrichment → Outcome Fields
  | .children key paths =>
    .ok <| putSuggestions fields key <|
      paths.foldl (fun acc path => merged acc (Suggestion.forChildren ((Json.obj body).path? path))) []
  | .pointed key field =>
    let name := ((Json.obj body).path? [field, "name"]).bind Json.asStr?
    .ok (putSuggestions fields key (name.toList.map (⟨·, Suggestion.childWeight⟩)))
  | .synonyms =>
    match synonyms? body with
    | none => .ok fields
    | some more =>
      match Keyed.get? fields "suggest" with
      | none => .ok (putSuggestions fields "suggest" (merged [] more))
      | some v =>
        match Source.listOf? Suggestion.decode? v with
        | some known => .ok (putSuggestions fields "suggest" (merged known more))
        | none => .error .malformedJson

end Enrichment

namespace Builder

/-- The suggestions and measures that follow from the names of an entity. -/
def nameFields (x : Indexable) : List (String × Json) :=
  let suggestions := Suggestion.forEntity x.name x.fullyQualifiedName
  [("suggest", Suggestion.listToJson suggestions),
    ("fqnParts", Json.strings (Suggestion.nameParts x.fullyQualifiedName suggestions)),
    ("fqnDepth", .nat (Name.split x.fullyQualifiedName).length)]

/-- The fields before the enrichments. -/
def plainFields (b : Builder) (x : Indexable) : Fields :=
  let shaped := adjust (adjust x.body "owners" namedOwners) "followers" bareFollowers
  let kept := (alwaysExcluded ++ b.excluded).foldl Keyed.erase shaped
  if x.timeSeries then kept else Keyed.layer kept (nameFields x)

/-- The document of `x`. -/
def build (b : Builder) (x : Indexable) : Outcome Document := do
  let fields ← b.enrichments.foldlM (fun fields e => e.apply x.body fields) (b.plainFields x)
  return { id := x.id, fields := Keyed.insert fields "entityType" (.str b.entityType) }

end Builder

/-! ## §4. Builders of many types. -/

/-- Builders by the type they are for. -/
abbrev Builders := Keyed Builder

namespace Builders

/-- The given builders; of two for one type the later counts. -/
def ofList (builders : List Builder) : Builders :=
  Keyed.ofList (builders.map fun b => (b.entityType, b))

/-- The document of `x`, by the builder of its type. -/
def build (bs : Builders) (x : Indexable) : Outcome Document :=
  match Keyed.get? bs x.entityType with
  | some b => b.build x
  | none => .error (.noBuilder x.entityType)

end Builders

/-- The service of an entity, as a suggestion. -/
def serviceName : Enrichment := .pointed "serviceSuggest" "service"

/-- The builders of types with fields to leave out or suggestions to add. -/
def specialBuilders : List Builder :=
  [{ entityType := "table", excluded := ["sampleData", "tableProfile", "joins"]
     enrichments := [.children "columnSuggest" [["columns"]],
       .pointed "schemaSuggest" "databaseSchema", .pointed "databaseSuggest" "database",
       serviceName] },
    { entityType := "dashboard"
      enrichments := [.children "chartSuggest" [["charts"]],
        .children "dataModelSuggest" [["dataModels"]], serviceName] },
    { entityType := "dashboardDataModel"
      enrichments := [.children "columnSuggest" [["columns"]], serviceName] },
    { entityType := "pipeline"
      enrichments := [.children "taskSuggest" [["tasks"]], serviceName] },
    { entityType := "topic", excluded := ["sampleData"]
      enrichments := [.children "fieldSuggest" [["messageSchema", "schemaFields"]], serviceName] },
    { entityType := "searchIndex", excluded := ["sampleData"]
      enrichments := [.children "fieldSuggest" [["fields"]], serviceName] },
    { entityType := "container"
      enrichments := [.children "columnSuggest" [["dataModel", "columns"]], serviceName] },
    { entityType := "mlmodel"
      enrichments := [.children "mlFeatureSuggest" [["mlFeatures"]], serviceName] },
    { entityType := "apiEndpoint"
      enrichments := [.children "fieldSuggest"
        [["requestSchema", "schemaFields"], ["responseSchema", "schemaFields"]], serviceName] },
    { entityType := "glossaryTerm", enrichments := [.synonyms] },
    { entityType := "user", excluded := ["authenticationMechanism"] }]

/-- Types of entities whose documents need nothing special. -/
def plainTypes : List String :=
  ["database", "databaseSchema", "storedProcedure", "chart", "apiCollection", "metric", "query",
    "glossary", "classification", "tag", "domain", "dataProduct", "testCase", "testSuite", "page",
    "team"]

/-- Types of time series. -/
def timeSeriesTypes : List String :=
  ["testCaseResult", "testCaseResolutionStatus", "entityReportData",
    "webAnalyticEntityViewReportData", "webAnalyticUserActivityReportData",
    "rawCostAnalysisReportData", "aggregatedCostAnalysisReportData"]

/-- The builders of all known types. -/
def standardBuilders : Builders :=
  Builders.ofList <|
    specialBuilders ++ plainTypes.map ({ entityType := · })
      ++ serviceTypes.map ({ entityType := ·, excluded := ["connection"] })
      ++ timeSeriesTypes.map ({ entityType := · })

end CatalogIndex
