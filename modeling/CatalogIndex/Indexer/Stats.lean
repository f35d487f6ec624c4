/-
  CatalogIndex.Indexer.Stats — what an indexer has done so far.

  Writes to the index do not report their failures to the caller.  These counters, and the failure
  that came last, are the only sign that the index lags behind.
-/
import CatalogIndex.Error
import CatalogIndex.Json.Basic

namespace CatalogIndex

/-- A failure: which operation, on what, and why. -/
structure Failure where
  operation : String
  entityType : String
  entityId : String
  reason : Error

/-- The JSON form. -/
def Failure.toJson (f : Failure) : Json :=
  .object
    [("operation", .str f.operation), ("entityType", .str f.entityType),
      ("entityId", .str f.entityId), ("reason", .str f.reason.display)]

/-- The counters of an indexer. -/
structure Stats where
  created : Nat := 0
  rebuilds : Nat := 0
  patches : Nat := 0
  deleted : Nat := 0
  /-- Cascades that were carried out. -/
  cascades : Nat := 0
  writeFailures : Nat := 0
  cascadeFailures : Nat := 0
  lastFailure : Option Failure := none

namespace Stats

/-! ## §1. Recording. -/

/-- Documents were created. -/
def addCreated (count : Nat) (s : Stats) : Stats := { s with created := s.created + count }

/-- A document was built anew. -/
def addRebuild (s : Stats) : Stats := { s with rebuilds := s.rebuilds + 1 }

/-- A document was brought up to date by a script. -/
def addPatch (s : Stats) : Stats := { s with patches := s.patches + 1 }

/-- A document was deleted. -/
def addDeleted (s : Stats) : Stats := { s with deleted := s.deleted + 1 }

/-- A cascade was carried out. -/
def addCascade (s : Stats) : Stats := { s with cascades := s.cascades + 1 }

/-- The document of an entity could not be written. -/
def addWriteFailure (f : Failure) (s : Stats) : Stats :=
  { s with writeFailures := s.writeFailures + 1, lastFailure := some f }

/-- A cascade could not be planned or carried out. -/
def addCascadeFailure (f : Failure) (s : Stats) : Stats :=
  { s with cascadeFailures := s.cascadeFailures + 1, lastFailure := some f }

/-! ## §2. Reading. -/

/-- All failures. -/
def totalFailures (s : Stats) : Nat := s.writeFailures + s.cascadeFailures

/-- The JSON form. -/
def toJson (s : Stats) : Json :=
  .object
    [("created", .nat s.created), ("rebuilds", .nat s.rebuilds), ("patches", .nat s.patches),
      ("deleted", .nat s.deleted), ("cascades", .nat s.cascades),
      ("writeFailures", .nat s.writeFailures), ("cascadeFailures", .nat s.cascadeFailures),
      ("totalFailures", .nat s.totalFailures),
      ("lastFailure", Json.orNull (s.lastFailure.map Failure.toJson))]

end Stats

end CatalogIndex
