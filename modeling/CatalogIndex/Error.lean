/-
  CatalogIndex.Error — what can go wrong.

  One constructor per cause.  From the cause follow the kind of the error, the sentence that reports
  it, and whether a deeper cause stands behind it.  Where the deeper cause is a reader's complaint
  about a text, the sentence stops at the colon that would introduce it.
-/
namespace CatalogIndex

/-- The class an error belongs to. -/
inductive ErrorKind where
  | io | parse | notFound | invalidArgument | invalidState | config | backend | internal
  deriving DecidableEq

/-- The word for a class of errors. -/
def ErrorKind.word : ErrorKind → String
  | .io => "io"
  | .parse => "parse"
  | .notFound => "not_found"
  | .invalidArgument => "invalid_argument"
  | .invalidState => "invalid_state"
  | .config => "config"
  | .backend => "backend"
  | .internal => "internal"

/-- The cause of a failure. -/
inductive Error where
  /-- A text or value is not JSON of the expected shape. -/
  | malformedJson
  /-- A configuration in block notation cannot be read. -/
  | malformedYaml
  /-- A configuration in JSON cannot be read. -/
  | malformedConfig
  | emptyHost
  | zeroBatch
  | emptyLanguage
  | unreadableConfig (path : String)
  | unreadableMapping (path : String)
  | unreadableSchema (path : String)
  /-- The base set of index mappings is malformed. -/
  | malformedBase
  /-- A name holds a quote other than the pair around it. -/
  | embeddedQuote (name : String)
  /-- A value of a change does not have the shape that is asked for. -/
  | unexpectedShape
  | noOldValue (field : String)
  | noNewValue (field : String)
  | noMapping (entityType : String)
  | noBuilder (entityType : String)
  /-- The previous reference of a field has no fully qualified name. -/
  | namelessPrevious (field : String)
  /-- The cluster answered a request with a status that is not a success. -/
  | refused (action : String) (status : Nat) (reason : String)
  | existenceUnknown (index : String) (status : Nat)
  /-- The cluster took only part of a bulk request. -/
  | bulkRefused (index : String) (failed total : Nat) (reason : String)
  | noPredicate
  | noHits
  | noSuggestion (name : String)
  | noLookup
  /-- An error of the world outside: the network, the store of entities. -/
  | outside (kind : ErrorKind) (message : String)
  deriving DecidableEq

namespace Error

/-- The class of an error. -/
def kind : Error → ErrorKind
  | malformedJson | unexpectedShape | noOldValue _ | noNewValue _ | noHits | noSuggestion _ => .parse
  | malformedYaml | malformedConfig | emptyHost | zeroBatch | emptyLanguage
  | unreadableConfig _ | unreadableMapping _ | malformedBase => .config
  | unreadableSchema _ => .io
  | embeddedQuote _ | namelessPrevious _ | noPredicate => .invalidArgument
  | noMapping _ | noBuilder _ => .notFound
  | refused .. | existenceUnknown .. | bulkRefused .. => .backend
  | noLookup => .invalidState
  | outside kind _ => kind

/-- The sentence that reports an error. -/
def message : Error → String
  | malformedJson => "JSON error: "
  | malformedYaml => "YAML error: "
  | malformedConfig => "invalid search config: "
  | emptyHost => "search host must not be empty"
  | zeroBatch => "batchSize must be greater than zero"
  | emptyLanguage => "mappingLanguage must not be empty"
  | unreadableConfig path => s!"cannot read search config {path}"
  | unreadableMapping path => s!"cannot read index mapping {path}"
  | unreadableSchema path => s!"failed to read index schema {path}"
  | malformedBase => "failed to load base index mapping"
  | embeddedQuote name => s!"invalid name {name}: embedded quotes are not allowed"
  | unexpectedShape => "unexpected field value shape: "
  | noOldValue field => s!"field '{field}' carries no old value"
  | noNewValue field => s!"field '{field}' carries no new value"
  | noMapping entityType => s!"no index mapping for entity type '{entityType}'"
  | noBuilder entityType => s!"no document builder for entity type '{entityType}'"
  | namelessPrevious field => s!"previous '{field}' reference has no fullyQualifiedName"
  | refused action status reason => s!"{action} failed with status {status}: {reason}"
  | existenceUnknown index status =>
    s!"index existence check for {index} returned status {status}"
  | bulkRefused index failed total reason =>
    s!"bulk index into {index} failed for {failed} of {total} documents: {reason}"
  | noPredicate => "delete by fields needs at least one predicate"
  | noHits => "search response carries no 'hits' section"
  | noSuggestion name => s!"suggest response carries no '{name}' section"
  | noLookup => "no entity lookup configured"
  | outside _ message => message

/-- Whether a deeper cause stands behind the error. -/
def caused : Error → Bool
  | malformedJson | malformedYaml | malformedConfig | unreadableConfig _ | unreadableMapping _
  | unreadableSchema _ | malformedBase | unexpectedShape => true
  | _ => false

/-- The error in one line: its class in brackets and the sentence. -/
def display (e : Error) : String := s!"[{e.kind.word}] {e.message}"

end Error

/-- A result of an operation that can fail. -/
abbrev Outcome (α : Type) := Except Error α

end CatalogIndex
