/-
  CatalogIndex.Cluster.ByQuery — writes to all documents that match.

  Such a write goes to several indexes and aliases at once and is carried out by the cluster.  A
  write without targets, and an update without operations, asks for nothing and is not sent.
-/
import CatalogIndex.Cascade.Op
import CatalogIndex.Cluster.Exchange
import CatalogIndex.Engine.Query
import CatalogIndex.Engine.Script

namespace CatalogIndex.Cluster

open Exchange

variable {σ : Type}

/-! ## §1. Updates and deletions. -/

/-- The path of a write by query: conflicts do not stop it, and searches see it at once. -/
def byQueryPath (aliases : List String) (verb : String) : String :=
  Text.join "," aliases ++ "/" ++ verb ++ "?conflicts=proceed&refresh=true"

/-- Runs a script on all documents that match. -/
def updateByQuery (e : Engine) (aliases : List String) (q : Query) (s : Script) :
    Exchange σ Unit := do
  if aliases.isEmpty || s.isEmpty then return
  let body := Json.object [("query", e.encodeQuery q), ("script", e.encodeScript s)]
  let _ ← send "update_by_query" .post (byQueryPath aliases "_update_by_query") (some (.json body))

/-- Deletes all documents that match. -/
def deleteByQuery (e : Engine) (aliases : List String) (q : Query) : Exchange σ Unit := do
  if aliases.isEmpty then return
  let body := Json.object [("query", e.encodeQuery q)]
  let _ ← send "delete_by_query" .post (byQueryPath aliases "_delete_by_query") (some (.json body))

/-! ## §2. Selections. -/

/-- The query for the names that begin with `start`. -/
def fqnStartQuery (start : String) : Query := .startsWith "fullyQualifiedName" start

/-- Deletes the documents whose fully qualified name begins with `start`. -/
def deleteByFqnStart (e : Engine) (index start : String) : Exchange σ Unit :=
  deleteByQuery e [index] (fqnStartQuery start)

/-- Deletes the documents that match everything; with nothing to match, nothing is deleted. -/
def deleteMatching (e : Engine) (aliases : List String) (ms : List FieldMatch) :
    Exchange σ Unit :=
  if ms.isEmpty then ofOutcome (.error .noPredicate)
  else deleteByQuery e aliases (FieldMatch.conjunction ms)

/-- Runs a script on the documents that match everything. -/
def flagMatching (e : Engine) (aliases : List String) (s : Script) (ms : List FieldMatch) :
    Exchange σ Unit :=
  updateByQuery e aliases (FieldMatch.conjunction ms) s

/-- Runs a script on the documents that match. -/
def updateMatching (e : Engine) (aliases : List String) (m : FieldMatch) (s : Script) :
    Exchange σ Unit :=
  updateByQuery e aliases m.toQuery s

/-- The query for a name and the names below it. -/
def renameQuery (oldStart field : String) : Query :=
  .bool [] [Query.textTerm field oldStart, .startsWith field (oldStart ++ ".")] [] []

/-- The script that gives a name and the names below it a new start. -/
def renameScript (oldStart newStart field : String) : Script :=
  Script.of (.renameStart field)
    [("oldParentFQN", .str oldStart), ("newParentFQN", .str newStart)]

/-- Gives a name and the names below it a new start. -/
def rename (e : Engine) (index oldStart newStart field : String) : Exchange σ Unit :=
  updateByQuery e [index] (renameQuery oldStart field) (renameScript oldStart newStart field)

/-- Carries out a cascade. -/
def applyCascade (e : Engine) (r : Registry) (op : CascadeOp) : Exchange σ Unit :=
  match op with
  | .update u => updateMatching e (op.targets r) u.matcher u.script
  | .deleteMatching aliases ms => deleteMatching e aliases ms
  | .flagMatching aliases ms s => flagMatching e aliases s ms
  | .rename index oldStart newStart field => rename e index oldStart newStart field

end CatalogIndex.Cluster
