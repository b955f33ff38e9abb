import Sandscript.Policy.Basic
import Sandscript.Script
import Sandscript.Json.Basic
import Sandscript.Trace.BatchId
import Sandscript.Trace.Timestamp

/-!
# Traces

A trace tells what a batch did: how many records were processed, modified and failed, what the script printed, and
samples of changes and failures.
-/

namespace Sandscript

/-- One field that differs; an absent value means an absent field. -/
structure FieldChange where
  field : String
  before : Option Json
  after : Option Json

/-- The changes of one modified record. -/
structure SampleDiff where
  index : Nat
  identifier : Json
  changes : List FieldChange

/-- The failure of one record. -/
structure RecordError where
  index : Nat
  identifier : Json
  kind : RunErrorKind
  message : String

namespace RecordError

def ofRunError (index : Nat) (identifier : Json) (e : RunError) : RecordError :=
  ⟨index, identifier, e.kind, e.message⟩

end RecordError

structure Trace where
  batchId : BatchId
  startedAt : Timestamp
  scriptDigest : ScriptDigest
  backend : Backend
  console : List String
  consoleDropped : Nat
  elapsedMs : Nat
  processed : Nat
  modified : Nat
  failed : Nat
  samples : List SampleDiff
  errors : List RecordError

namespace Trace

def isClean (t : Trace) : Bool := t.failed == 0

def succeeded (t : Trace) : Nat := t.processed - t.failed

end Trace

end Sandscript
