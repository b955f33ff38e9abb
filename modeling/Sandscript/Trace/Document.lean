import Sandscript.Datum
import Sandscript.Trace.Basic

/-!
# Traces as documents

A trace is written as a JSON object with its fields in the order of their declaration, and read back from any JSON
object with these fields, or from an array of them.
-/

namespace Sandscript

open Datum

/-! ### Writing -/

namespace FieldChange

def toJson (c : FieldChange) : Json :=
  .obj [("field", .str c.field), ("before", c.before.getD .null), ("after", c.after.getD .null)]

end FieldChange

namespace SampleDiff

def toJson (s : SampleDiff) : Json :=
  .obj [("index", .ofNat s.index), ("identifier", s.identifier), ("changes", .arr (s.changes.map FieldChange.toJson))]

end SampleDiff

namespace RecordError

def toJson (e : RecordError) : Json :=
  .obj [("index", .ofNat e.index), ("identifier", e.identifier), ("kind", .str e.kind.tag), ("message", .str e.message)]

end RecordError

namespace Trace

def toJson (t : Trace) : Json :=
  .obj [("batch_id", .str t.batchId.text), ("started_at", .str t.startedAt.text),
    ("script_digest", .str t.scriptDigest.text), ("backend", .str t.backend.name),
    ("console", .arr (t.console.map .str)), ("console_dropped", .ofNat t.consoleDropped),
    ("elapsed_ms", .ofNat t.elapsedMs), ("processed", .ofNat t.processed), ("modified", .ofNat t.modified),
    ("failed", .ofNat t.failed), ("samples", .arr (t.samples.map SampleDiff.toJson)),
    ("errors", .arr (t.errors.map RecordError.toJson))]

end Trace

/-! ### Reading -/

namespace Json

private def problem {α : Type} (message : String) : Decoded α := .error ⟨message, ⟨0, 0⟩⟩

/-- The fields of a structure, checked one by one in the order in which they are given. -/
def structFields (name : String) (names : List String) (check : String → Json → Decoded Unit) :
    Json → Decoded (List (String × Json))
  | obj fields => do
    fields.forM fun (k, v) => check k v
    return fields
  | arr items => do
    let fields := names.zip items
    fields.forM fun (k, v) => check k v
    if items.length < names.length then
      problem ("invalid length " ++ toString items.length ++ ", expected struct " ++ name ++ " with " ++
        toString names.length ++ " elements")
    (Datum.seq ⟨0, 0⟩ (Datum.ofItems items)).checkLength names
    return fields
  | v => (Datum.ofJson v).misfit ("struct " ++ name)

def required {α : Type} (fields : List (String × Json)) (name : String) (decode : Json → Decoded α) :
    Decoded α :=
  match Fields.get? name fields with
  | some v => decode v
  | none => problem ("missing field `" ++ name ++ "`")

def optional (fields : List (String × Json)) (name : String) : Option Json :=
  match Fields.get? name fields with
  | some null => none
  | v => v

def decodeString (v : Json) : Decoded String := (Datum.ofJson v).asString

def decodeSize (v : Json) : Decoded Nat := do return (← (Datum.ofJson v).asWord "usize").toNat

def decodeList {α : Type} (item : Json → Decoded α) : Json → Decoded (List α)
  | arr items => items.mapM item
  | v => (Datum.ofJson v).misfit "a sequence"

def decodeBatchId (v : Json) : Decoded BatchId :=
  match v with
  | str s =>
    match BatchId.ofText s with
    | .ok b => .ok b
    | .error e => problem ("UUID parsing failed: " ++ e.message)
  | v => (Datum.ofJson v).misfit "a UUID string"

def decodeTimestamp (v : Json) : Decoded Timestamp :=
  match v with
  | str s =>
    match Timestamp.ofText s with
    | .ok t => .ok t
    | .error e => problem e.message
  | v => (Datum.ofJson v).misfit "an RFC 3339 formatted date and time string"

def decodeBackend (v : Json) : Decoded Backend :=
  (Datum.ofJson v).asVariant Backend.ofName? (Backend.all.map Backend.name)

def decodeKind (v : Json) : Decoded RunErrorKind :=
  (Datum.ofJson v).asVariant RunErrorKind.ofTag? (RunErrorKind.all.map RunErrorKind.tag)

def ignore {α : Type} (r : Decoded α) : Decoded Unit := r.map fun _ => ()

def decodeFieldChange (v : Json) : Decoded FieldChange := do
  let fields ← structFields "FieldChange" ["field", "before", "after"]
    (fun k v => if k == "field" then ignore (decodeString v) else .ok ()) v
  return { field := ← required fields "field" decodeString, before := optional fields "before",
           after := optional fields "after" }

def decodeSample (v : Json) : Decoded SampleDiff := do
  let check (k : String) (v : Json) : Decoded Unit :=
    match k with
    | "index" => ignore (decodeSize v)
    | "changes" => ignore (decodeList decodeFieldChange v)
    | _ => .ok ()
  let fields ← structFields "SampleDiff" ["index", "identifier", "changes"] check v
  return { index := ← required fields "index" decodeSize, identifier := ← required fields "identifier" .ok,
           changes := ← required fields "changes" (decodeList decodeFieldChange) }

def decodeRecordError (v : Json) : Decoded RecordError := do
  let check (k : String) (v : Json) : Decoded Unit :=
    match k with
    | "index" => ignore (decodeSize v)
    | "kind" => ignore (decodeKind v)
    | "message" => ignore (decodeString v)
    | _ => .ok ()
  let fields ← structFields "RecordError" ["index", "identifier", "kind", "message"] check v
  return { index := ← required fields "index" decodeSize, identifier := ← required fields "identifier" .ok,
           kind := ← required fields "kind" decodeKind, message := ← required fields "message" decodeString }

def traceFields : List String :=
  ["batch_id", "started_at", "script_digest", "backend", "console", "console_dropped", "elapsed_ms", "processed",
   "modified", "failed", "samples", "errors"]

def decodeElapsed (v : Json) : Decoded Nat := do return (← (Datum.ofJson v).asWord "u64").toNat

def checkTraceField (k : String) (v : Json) : Decoded Unit :=
  match k with
  | "batch_id" => ignore (decodeBatchId v)
  | "started_at" => ignore (decodeTimestamp v)
  | "script_digest" => ignore (decodeString v)
  | "backend" => ignore (decodeBackend v)
  | "console" => ignore (decodeList decodeString v)
  | "console_dropped" | "processed" | "modified" | "failed" => ignore (decodeSize v)
  | "elapsed_ms" => ignore (decodeElapsed v)
  | "samples" => ignore (decodeList decodeSample v)
  | "errors" => ignore (decodeList decodeRecordError v)
  | _ => .ok ()

def decodeTrace (v : Json) : Decoded Trace := do
  let fields ← structFields "ExecutionTrace" traceFields checkTraceField v
  return { batchId := ← required fields "batch_id" decodeBatchId,
           startedAt := ← required fields "started_at" decodeTimestamp,
           scriptDigest := ⟨← required fields "script_digest" decodeString⟩,
           backend := ← required fields "backend" decodeBackend,
           console := ← required fields "console" (decodeList decodeString),
           consoleDropped := ← required fields "console_dropped" decodeSize,
           elapsedMs := ← required fields "elapsed_ms" decodeElapsed,
           processed := ← required fields "processed" decodeSize,
           modified := ← required fields "modified" decodeSize,
           failed := ← required fields "failed" decodeSize,
           samples := ← required fields "samples" (decodeList decodeSample),
           errors := ← required fields "errors" (decodeList decodeRecordError) }

end Json

namespace Trace

def ofJson (v : Json) : Except EngineError Trace :=
  match v.decodeTrace with
  | .ok t => .ok t
  | .error e => .error (.serialization e.message)

end Trace

end Sandscript
