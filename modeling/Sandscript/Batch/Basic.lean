import Sandscript.Batch.Difference
import Sandscript.Capture
import Sandscript.Transform

/-!
# Batches

A batch is a script applied to records in order.  A record whose run failed stays as it was.  What is reported about a
batch besides the new records is tallied record by record: the counts, the console, and the first samples of changes and
failures.
-/

namespace Sandscript

/-- One record of a batch and its run. -/
structure BatchItem where
  index : Nat
  input : Record
  run : RecordRun

namespace BatchItem

/-- The record after the batch. -/
def output (i : BatchItem) : Record :=
  match i.run.outcome with
  | .ok record => record
  | .error _ => i.input

/-- The identifier of the record before its run. -/
def identifier (policy : Policy) (i : BatchItem) : Json := (Fields.get? policy.identifierField i.input).getD .null

end BatchItem

/-! ### The tally -/

/-- What is counted and kept while a batch goes on. -/
structure Tally where
  /-- The console that all runs share. -/
  console : Capture
  processed : Nat := 0
  modified : Nat := 0
  failed : Nat := 0
  /-- The changes of the first modified records. -/
  samples : Array SampleDiff := #[]
  /-- The first failures. -/
  errors : Array RecordError := #[]

namespace Tally

def start (policy : Policy) : Tally :=
  { console := .empty policy.maxConsoleLines.toNat policy.maxLineChars.toNat }

/-- Keeps one more entry if there is room for it. -/
def pushIfRoom {α : Type} (most : Nat) (kept : Array α) (a : α) : Array α :=
  if kept.size < most then kept.push a else kept

/-- Counts a record that its run made `after`, if this is a change. -/
def addOutput (policy : Policy) (t : Tally) (i : BatchItem) (after : Record) : Tally :=
  match Record.diff policy i.input after with
  | [] => t
  | changes =>
    { t with
      modified := t.modified + 1
      samples := pushIfRoom policy.maxSamples.toNat t.samples ⟨i.index, i.identifier policy, changes⟩ }

/-- Counts a record whose run failed. -/
def addFailure (policy : Policy) (t : Tally) (i : BatchItem) (e : RunError) : Tally :=
  { t with
    failed := t.failed + 1
    errors := pushIfRoom policy.maxErrors.toNat t.errors (.ofRunError i.index (i.identifier policy) e) }

/-- Counts a record. -/
def add (policy : Policy) (t : Tally) (i : BatchItem) : Tally :=
  let t := { t with processed := t.processed + 1, console := t.console.writeAll i.run.printed }
  match i.run.outcome with
  | .ok after => t.addOutput policy i after
  | .error e => t.addFailure policy i e

end Tally

structure Batch where
  policy : Policy
  backend : Backend
  digest : ScriptDigest
  items : List BatchItem

namespace Batch

/-- Runs a script on records in order; the script may be refused before. -/
def ofScript (policy : Policy) (script : Script) (records : List Record) : Except Rejection Batch := do
  let t ← Transformer.ofScript policy script
  return { policy, backend := t.script.backend, digest := t.script.digest
           items := records.zipIdx.map fun (record, index) => ⟨index, record, t.run record⟩ }

def outputs (b : Batch) : List Record := b.items.map (·.output)

def outcomes (b : Batch) : List Outcome := b.items.map (·.run.outcome)

/-- The tally of all records. -/
def tally (b : Batch) : Tally := b.items.foldl (Tally.add b.policy) (.start b.policy)

/-- What tells one batch from another of the same script and records. -/
structure Stamp where
  id : BatchId
  startedAt : Timestamp
  elapsedMs : Nat
deriving Inhabited

def trace (b : Batch) (stamp : Stamp) : Trace :=
  let t := b.tally
  { batchId := stamp.id, startedAt := stamp.startedAt, elapsedMs := stamp.elapsedMs
    scriptDigest := b.digest, backend := b.backend
    console := t.console.lines, consoleDropped := t.console.dropped
    processed := t.processed, modified := t.modified, failed := t.failed
    samples := t.samples.toList, errors := t.errors.toList }

end Batch

end Sandscript
