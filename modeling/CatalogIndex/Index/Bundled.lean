/-
  CatalogIndex.Index.Bundled — the indexes that come with the program.

  One index for each known type of entity, with its place among the others, and the two schemas that
  these indexes are created with: one for entities, one for records of time series.
-/
import CatalogIndex.Document.Builder
import CatalogIndex.Files.Tree
import CatalogIndex.Index.Mapping
import CatalogIndex.Json.Printer

namespace CatalogIndex

namespace Bundled

/-! ## §1. Mappings. -/

/-- A mapping whose index and schema are named after `stem`, and whose alias is the type. -/
def ofStem (entityType stem : String) (parents children : List String) : String × IndexMapping :=
  (entityType,
    { indexName := stem ++ "_search_index", aliasName := entityType, parentAliases := parents
      childAliases := children, indexMappingFile := "%s/" ++ stem ++ "_index_mapping.json" })

/-- The mappings of all known types. -/
def mappings : List (String × IndexMapping) :=
  [ofStem "table" "table" ["databaseSchema", "database", "databaseService", "all", "dataAsset"]
      ["testCase", "testSuite"],
    ofStem "storedProcedure" "stored_procedure"
      ["databaseSchema", "database", "databaseService", "all", "dataAsset"] [],
    ofStem "database" "database" ["databaseService", "all", "dataAsset"]
      ["databaseSchema", "table", "storedProcedure"],
    ofStem "databaseSchema" "database_schema" ["database", "databaseService", "all", "dataAsset"]
      ["table", "storedProcedure"],
    ofStem "dashboard" "dashboard" ["dashboardService", "all", "dataAsset"] ["chart"],
    ofStem "dashboardDataModel" "dashboard_data_model" ["dashboardService", "all", "dataAsset"]
      [],
    ofStem "chart" "chart" ["dashboard", "dashboardService", "all", "dataAsset"] [],
    ofStem "topic" "topic" ["messagingService", "all", "dataAsset"] [],
    ofStem "pipeline" "pipeline" ["pipelineService", "all", "dataAsset"] [],
    ofStem "mlmodel" "mlmodel" ["mlmodelService", "all", "dataAsset"] [],
    ofStem "container" "container" ["storageService", "all", "dataAsset"] [],
    ofStem "searchIndex" "search_index" ["searchService", "all", "dataAsset"] [],
    ofStem "apiCollection" "api_collection" ["apiService", "all", "dataAsset"] ["apiEndpoint"],
    ofStem "apiEndpoint" "api_endpoint" ["apiCollection", "apiService", "all", "dataAsset"] [],
    ofStem "metric" "metric" ["all", "dataAsset"] [],
    ofStem "query" "query" ["all"] [],
    ofStem "glossary" "glossary" ["all"] ["glossaryTerm"],
    ofStem "glossaryTerm" "glossary_term" ["glossary", "all"] [],
    ofStem "classification" "classification" ["all"] ["tag"],
    ofStem "tag" "tag" ["classification", "all"] [],
    ofStem "domain" "domain" ["all"] ["dataProduct"],
    ofStem "dataProduct" "data_product" ["domain", "all"] [],
    ofStem "user" "user" ["team", "all"] [],
    ofStem "team" "team" ["all"] [],
    ofStem "testCase" "test_case" ["testSuite", "all"]
      ["testCaseResult", "testCaseResolutionStatus"],
    ofStem "testSuite" "test_suite" ["all"] ["testCase"],
    ofStem "page" "page" ["all"] [],
    ofStem "databaseService" "database_service" ["all"]
      ["database", "databaseSchema", "table", "storedProcedure"],
    ofStem "dashboardService" "dashboard_service" ["all"]
      ["dashboard", "chart", "dashboardDataModel"],
    ofStem "messagingService" "messaging_service" ["all"] ["topic"],
    ofStem "pipelineService" "pipeline_service" ["all"] ["pipeline"],
    ofStem "mlmodelService" "mlmodel_service" ["all"] ["mlmodel"],
    ofStem "storageService" "storage_service" ["all"] ["container"],
    ofStem "searchService" "search_service" ["all"] ["searchIndex"],
    ofStem "apiService" "api_service" ["all"] ["apiCollection", "apiEndpoint"],
    ofStem "testCaseResult" "test_case_result" [] [],
    ofStem "testCaseResolutionStatus" "test_case_resolution_status" [] [],
    ofStem "entityReportData" "entity_report_data" [] [],
    ofStem "webAnalyticEntityViewReportData" "web_analytic_entity_view_report_data" [] [],
    ofStem "webAnalyticUserActivityReportData" "web_analytic_user_activity_report_data" [] [],
    ofStem "rawCostAnalysisReportData" "raw_cost_analysis_report_data" [] [],
    ofStem "aggregatedCostAnalysisReportData" "aggregated_cost_analysis_report_data" [] []]

/-- The mappings as a JSON object. -/
def mappingsJson : Json := .object (mappings.map fun (entityType, m) => (entityType, m.toJson))

/-! ## §2. Schemas. -/

/-- A field of one of the simple types. -/
def fieldOf (type : String) (more : List (String × Json) := []) : Json :=
  .object (("type", .str type) :: more)

/-- A field that is not taken apart. -/
def keyword : Json := fieldOf "keyword"

/-- A field with words, which can also be compared as a whole. -/
def wordsAndWhole : Json :=
  fieldOf "text" [("fields", .object [("keyword", fieldOf "keyword" [("ignore_above", .nat 256)])])]

/-- A field that holds an object whose fields are not taken apart. -/
def keywords (names : List String) (more : List (String × Json) := []) : Json :=
  .object [("properties", .object (names.map (·, keyword) ++ more))]

/-- A schema with the given fields. -/
def schemaOf (fields : List (String × Json)) : Json :=
  .object
    [("settings", .object [("index", .object [("max_ngram_diff", .nat 17)])]),
      ("mappings", .object [("properties", .object fields)])]

/-- The schema of documents of entities. -/
def entitySchema : Json :=
  schemaOf
    [("id", keyword), ("name", wordsAndWhole), ("fullyQualifiedName", keyword),
      ("fqnParts", keyword), ("displayName", wordsAndWhole), ("description", fieldOf "text"),
      ("entityType", keyword), ("deleted", fieldOf "boolean"),
      ("updatedAt", fieldOf "date" [("format", .str "epoch_millis")]),
      ("owners", keywords ["id", "type", "name", "displayName"]
        [("inherited", fieldOf "boolean")]),
      ("domain", keywords ["id", "name", "fullyQualifiedName"]),
      ("tags", keywords ["tagFQN", "labelType", "source", "state"]), ("followers", keyword),
      ("suggest", fieldOf "completion")]

/-- The schema of records of time series. -/
def recordSchema : Json :=
  schemaOf
    [("id", keyword), ("timestamp", fieldOf "long"), ("entityType", keyword),
      ("entityFQN", keyword)]

/-! ## §3. Files. -/

/-- The last part of the path of a schema. -/
def schemaName (m : IndexMapping) : String :=
  (Text.dropStart? "%s/" m.indexMappingFile).getD m.indexMappingFile

/-- The folder with the mappings and the schemas. -/
def folder : FileTree :=
  .folder
    [("index_mapping.json", .file mappingsJson.compact),
      ("elasticsearch", .folder [("en", .folder <| mappings.map fun (entityType, m) =>
        (schemaName m, .file <|
          if timeSeriesTypes.contains entityType then recordSchema.compact
          else entitySchema.compact))])]

end Bundled

end CatalogIndex
