/-
  CatalogIndex.Engine.Basic — the two search engines.

  Both engines take the same requests, queries and scripts up to a few differences: how a script
  reaches into a document, how it filters a list, and how a query compares one field.
-/
namespace CatalogIndex

/-- A search engine. -/
inductive Engine where
  | elasticsearch | opensearch
  deriving DecidableEq

namespace Engine

/-- The word for an engine. -/
def word : Engine → String
  | .elasticsearch => "elasticsearch"
  | .opensearch => "opensearch"

/-- The engine with a given word. -/
def ofWord? : String → Option Engine
  | "elasticsearch" => some .elasticsearch
  | "opensearch" => some .opensearch
  | _ => none

end Engine

end CatalogIndex
