/-
  CatalogIndex.Indexer.Basic — the indexer and its programs.

  An indexer keeps the index in step with the entities.  It knows the settings, the index mappings,
  the builders and the rules for deletion; it reads schemas from files, sends requests to the
  cluster, and may be able to look entities up.  What the cluster and the store of entities answer
  may depend on everything before, so both share one state of the world outside.

  There are two kinds of programs.  An `Attempt` may fail.  An `Indexing` does not: it absorbs the
  failures of its attempts and counts them.

  ## Main definitions

    * `Indexer` — what a program works with;
    * `Attempt`, `Indexing` — programs that may fail, and programs that do not;
    * `absorb` — the way from an attempt to an indexing;
    * `runCascades` — carries out what a planner planned.
-/
import CatalogIndex.Cascade.Delete
import CatalogIndex.Cascade.Update
import CatalogIndex.Cluster.ByQuery
import CatalogIndex.Document.Builder
import CatalogIndex.Indexer.Stats

namespace CatalogIndex

/-! ## §1. The indexer. -/

/-- What an indexer works with; `σ` is the state of the world outside. -/
structure Indexer (σ : Type) where
  config : Config
  registry : Registry
  builders : Builders := standardBuilders
  deleteRules : DeleteRules := DeleteRules.standard
  /-- The text of a file. -/
  fileText : String → Option String
  /-- The cluster. -/
  backend : Backend σ
  /-- The store of entities, if there is one to ask. -/
  lookup : Option (EntityReference → σ → Outcome Entity × σ) := none

/-- The indexer for the given settings, if they make sense and name sound mappings. -/
def Indexer.ofConfig {σ : Type} (fileText : String → Option String) (backend : Backend σ)
    (c : Config) : Outcome (Indexer σ) := do
  let config ← c.validate
  let registry ← Registry.load fileText config
  return { config, registry, fileText, backend }

/-- What a program of an indexer changes. -/
structure Session (σ : Type) where
  link : Link σ
  stats : Stats := {}

/-! ## §2. Programs. -/

/-- A program that does not fail. -/
abbrev Indexing (σ : Type) := ReaderT (Indexer σ) (StateM (Session σ))

/-- A program that may fail. -/
abbrev Attempt (σ : Type) := ExceptT Error (Indexing σ)

namespace Indexing

variable {σ α : Type}

/-- Runs a program: its result, and the session afterwards. -/
def run (x : Indexing σ α) (indexer : Indexer σ) (s : Session σ) : α × Session σ :=
  (x indexer).run s

/-- Records something. -/
def record (f : Stats → Stats) : Indexing σ Unit :=
  fun _ s => ((), { s with stats := f s.stats })

end Indexing

namespace Attempt

variable {σ α : Type}

/-- Runs an attempt: its outcome, and the session afterwards. -/
def run (x : Attempt σ α) (indexer : Indexer σ) (s : Session σ) : Outcome α × Session σ :=
  (ExceptT.run x indexer).run s

/-- Talks to the cluster. -/
def exchange (x : Engine → Exchange σ α) : Attempt σ α :=
  ExceptT.mk fun indexer s =>
    let (outcome, link) := (x indexer.config.searchType).run indexer.backend s.link
    (outcome, { s with link })

/-- Asks the indexer for something that it may not have. -/
def ask (x : Indexer σ → Outcome α) : Attempt σ α :=
  ExceptT.mk fun indexer s => (x indexer, s)

/-- The name of the index of a type. -/
def indexOf (entityType : String) : Attempt σ String := ask (·.registry.index entityType)

/-- Records something. -/
def record (f : Stats → Stats) : Attempt σ Unit := ExceptT.lift (Indexing.record f)

end Attempt

/-! ## §3. Failures. -/

namespace Indexing

variable {σ : Type}

/-- Records that a write failed. -/
def writeFailed (operation entityType entityId : String) (reason : Error) : Indexing σ Unit :=
  record (Stats.addWriteFailure { operation, entityType, entityId, reason })

/-- Makes an attempt; a failure counts as a failed write. -/
def absorb (operation entityType entityId : String) (x : Attempt σ Unit) : Indexing σ Unit := do
  match ← ExceptT.run x with
  | .ok () => return
  | .error reason => writeFailed operation entityType entityId reason

/-- Records that a cascade failed. -/
def cascadeFailed (cascade : String) (e : Entity) (reason : Error) : Indexing σ Unit :=
  record <| Stats.addCascadeFailure
    { operation := cascade, entityType := e.entityType, entityId := e.id.toText, reason }

/-- Carries out one cascade; a failure is counted and stops nothing else. -/
def runCascade (cascade : String) (e : Entity) (op : CascadeOp) : Indexing σ Unit := do
  let registry := (← read).registry
  match ← ExceptT.run (Attempt.exchange fun engine => Cluster.applyCascade engine registry op) with
  | .ok () => record Stats.addCascade
  | .error reason => cascadeFailed cascade e reason

/-- Carries out what a planner planned; if it could not plan, that is one failure. -/
def runCascades (cascade : String) (e : Entity) (planned : Outcome (List CascadeOp)) :
    Indexing σ Unit :=
  match planned with
  | .ok ops => ops.forM (runCascade cascade e)
  | .error reason => cascadeFailed cascade e reason

end Indexing

end CatalogIndex
