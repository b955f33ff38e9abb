import Sandscript.Policy.Basic
import Sandscript.Toml.Document

/-!
# Policies as documents

A policy is read from a settings file or from JSON; settings that are absent take their standard values, and unknown
ones are ignored.  What is read from a settings file has to be usable.  Written as settings, a policy lists its own
settings first and the guards in a table of their own; absent settings are left out.
-/

namespace Sandscript

open Datum

namespace Guards

def fieldNames : List String :=
  ["max_operations", "max_string_bytes", "max_array_len", "max_map_len", "max_call_depth", "max_expr_depth",
   "max_fn_expr_depth"]

/-- Replaces the setting of the given name. -/
def set (g : Guards) (name : String) (d : Datum) : Decoded Guards := do
  match name with
  | "max_operations" => return { g with maxOperations := ← d.asOption (asWord "u64") }
  | "max_string_bytes" => return { g with maxStringBytes := ← d.asWord "usize" }
  | "max_array_len" => return { g with maxArrayLen := ← d.asWord "usize" }
  | "max_map_len" => return { g with maxMapLen := ← d.asWord "usize" }
  | "max_call_depth" => return { g with maxCallDepth := ← d.asWord "usize" }
  | "max_expr_depth" => return { g with maxExprDepth := ← d.asWord "usize" }
  | "max_fn_expr_depth" => return { g with maxFnExprDepth := ← d.asWord "usize" }
  | _ => return g

def ofDatum (d : Datum) : Decoded Guards := do
  let fields ← d.asFields "struct GuardLimits" fieldNames
  let g ← fields.foldlM (fun g (k, v) => g.set k v) standard
  d.checkLength fieldNames
  return g

def toJson (g : Guards) : Json :=
  let n (x : UInt64) : Json := .ofNat x.toNat
  .obj [("max_operations", (g.maxOperations.map n).getD .null), ("max_string_bytes", n g.maxStringBytes),
    ("max_array_len", n g.maxArrayLen), ("max_map_len", n g.maxMapLen), ("max_call_depth", n g.maxCallDepth),
    ("max_expr_depth", n g.maxExprDepth), ("max_fn_expr_depth", n g.maxFnExprDepth)]

end Guards

namespace Policy

def fieldNames : List String :=
  ["max_script_bytes", "timeout_ms", "max_console_lines", "max_line_chars", "max_samples", "max_errors",
   "identifier_field", "tracked_fields", "prefer_restricted", "guards"]

/-- Replaces the setting of the given name. -/
def set (p : Policy) (name : String) (d : Datum) : Decoded Policy := do
  match name with
  | "max_script_bytes" => return { p with maxScriptBytes := ← d.asWord "usize" }
  | "timeout_ms" => return { p with timeoutMs := ← d.asWord "u64" }
  | "max_console_lines" => return { p with maxConsoleLines := ← d.asWord "usize" }
  | "max_line_chars" => return { p with maxLineChars := ← d.asWord "usize" }
  | "max_samples" => return { p with maxSamples := ← d.asWord "usize" }
  | "max_errors" => return { p with maxErrors := ← d.asWord "usize" }
  | "identifier_field" => return { p with identifierField := ← d.asString }
  | "tracked_fields" => return { p with trackedFields := ← d.asOption (asList asString) }
  | "prefer_restricted" => return { p with preferRestricted := ← d.asBool }
  | "guards" => return { p with guards := ← Guards.ofDatum d }
  | _ => return p

def ofDatum (d : Datum) : Decoded Policy := do
  let fields ← d.asFields "struct EnginePolicy" fieldNames
  let p ← fields.foldlM (fun p (k, v) => p.set k v) standard
  d.checkLength fieldNames
  return p

/-- A policy given as JSON; it may be unusable. -/
def ofJson (j : Json) : Except EngineError Policy :=
  match ofDatum (.ofJson j) with
  | .ok p => .ok p
  | .error e => .error (.serialization e.message)

/-- Reads a usable policy from a settings file. -/
def ofToml (text : String) : Except EngineError Policy :=
  match Toml.read text >>= ofDatum with
  | .error e => .error (.configuration ("invalid policy file: " ++ Toml.showError text e))
  | .ok p =>
    match p.validate with
    | .ok _ => .ok p
    | .error e => .error e

def toJson (p : Policy) : Json :=
  let n (x : UInt64) : Json := .ofNat x.toNat
  .obj [("max_script_bytes", n p.maxScriptBytes), ("timeout_ms", n p.timeoutMs),
    ("max_console_lines", n p.maxConsoleLines), ("max_line_chars", n p.maxLineChars),
    ("max_samples", n p.maxSamples), ("max_errors", n p.maxErrors), ("identifier_field", .str p.identifierField),
    ("tracked_fields", (p.trackedFields.map fun fs => Json.arr (fs.map .str)).getD .null),
    ("prefer_restricted", .bool p.preferRestricted), ("guards", p.guards.toJson)]

def setting (name : String) (value : List Char) : List Char := name.toList ++ " = ".toList ++ value ++ ['\n']

def word (x : UInt64) : List Char := Numeric.digits x.toNat

def boolean (b : Bool) : List Char := (if b then "true" else "false").toList

/-- Several strings stand on a line each. -/
def stringList : List String → List Char
  | [] => ['[', ']']
  | [s] => '[' :: Toml.stringChars s.toList ++ [']']
  | ss => '[' :: '\n' :: ss.flatMap (fun s => "    ".toList ++ Toml.stringChars s.toList ++ [',', '\n']) ++ [']']

def guardSettings (g : Guards) : List Char :=
  (match g.maxOperations with
   | some n => setting "max_operations" (word n)
   | none => []) ++
  setting "max_string_bytes" (word g.maxStringBytes) ++ setting "max_array_len" (word g.maxArrayLen) ++
  setting "max_map_len" (word g.maxMapLen) ++ setting "max_call_depth" (word g.maxCallDepth) ++
  setting "max_expr_depth" (word g.maxExprDepth) ++ setting "max_fn_expr_depth" (word g.maxFnExprDepth)

/-- The policy as a settings file. -/
def toToml (p : Policy) : String :=
  String.ofList <|
    setting "max_script_bytes" (word p.maxScriptBytes) ++ setting "timeout_ms" (word p.timeoutMs) ++
    setting "max_console_lines" (word p.maxConsoleLines) ++ setting "max_line_chars" (word p.maxLineChars) ++
    setting "max_samples" (word p.maxSamples) ++ setting "max_errors" (word p.maxErrors) ++
    setting "identifier_field" (Toml.stringChars p.identifierField.toList) ++
    (match p.trackedFields with
     | some fs => setting "tracked_fields" (stringList fs)
     | none => []) ++
    setting "prefer_restricted" (boolean p.preferRestricted) ++
    "\n[guards]\n".toList ++ guardSettings p.guards

end Policy

end Sandscript
