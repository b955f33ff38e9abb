import Sandscript.Errors
import Sandscript.Numeric.Power
import Sandscript.Text.Blank
import Sandscript.Text.LetterCase

/-!
# Policies

Every budget of the engine is a setting of its policy.  A policy is usable when the budgets that cannot be zero are not
zero and no field name is blank; `validate` reports the first setting that is not usable.
-/

namespace Sandscript

/-- The limits that the restricted backend puts on a run. -/
structure Guards where
  /-- Steps of one run, if they are limited. -/
  maxOperations : Option UInt64
  maxStringBytes : UInt64
  maxArrayLen : UInt64
  maxMapLen : UInt64
  maxCallDepth : UInt64
  maxExprDepth : UInt64
  maxFnExprDepth : UInt64
deriving DecidableEq, Repr

namespace Guards

def standard : Guards :=
  { maxOperations := none, maxStringBytes := 1024 * 1024, maxArrayLen := 10000, maxMapLen := 10000, maxCallDepth := 16,
    maxExprDepth := 64, maxFnExprDepth := 32 }

def strict : Guards :=
  { maxOperations := some 1000000, maxStringBytes := 64 * 1024, maxArrayLen := 1000, maxMapLen := 1000,
    maxCallDepth := 8, maxExprDepth := 32, maxFnExprDepth := 16 }

def relaxed : Guards :=
  { maxOperations := none, maxStringBytes := 16 * 1024 * 1024, maxArrayLen := 100000, maxMapLen := 100000,
    maxCallDepth := 32, maxExprDepth := 128, maxFnExprDepth := 64 }

instance : Inhabited Guards := ⟨standard⟩

end Guards

inductive Backend where
  /-- Static checks and limits on the run. -/
  | restricted
  /-- Static checks only. -/
  | basic
deriving DecidableEq, Repr

namespace Backend

def name : Backend → String
  | restricted => "restricted"
  | basic => "basic"

def all : List Backend := [restricted, basic]

def ofName? (s : String) : Option Backend := all.find? (·.name == s)

def isRestricted (b : Backend) : Bool := b == restricted

theorem ofName?_name (b : Backend) : ofName? b.name = some b := by cases b <;> decide

end Backend

structure Policy where
  maxScriptBytes : UInt64
  timeoutMs : UInt64
  maxConsoleLines : UInt64
  maxLineChars : UInt64
  maxSamples : UInt64
  maxErrors : UInt64
  identifierField : String
  /-- The fields that decide whether a record was modified; all of them if absent. -/
  trackedFields : Option (List String)
  preferRestricted : Bool
  guards : Guards
deriving DecidableEq, Repr

inductive Profile where
  | strict
  | standard
  | relaxed
deriving DecidableEq, Repr

namespace Profile

def name : Profile → String
  | strict => "strict"
  | standard => "standard"
  | relaxed => "relaxed"

def all : List Profile := [strict, standard, relaxed]

/-- Reads a profile name in any case. -/
def ofName (s : String) : Except EngineError Profile :=
  match all.find? (·.name == Text.lower s) with
  | some p => .ok p
  | none =>
    .error (.invalidArgument
      ("invalid policy profile: '" ++ s ++ "' (expected: strict, standard, or relaxed)"))

end Profile

namespace Policy

def standard : Policy :=
  { maxScriptBytes := 10000, timeoutMs := 5000, maxConsoleLines := 100, maxLineChars := 500, maxSamples := 5,
    maxErrors := 100, identifierField := "ticker", trackedFields := none, preferRestricted := true,
    guards := Guards.standard }

instance : Inhabited Policy := ⟨standard⟩

def ofProfile : Profile → Policy
  | .strict =>
    { standard with maxScriptBytes := 4000, timeoutMs := 1000, maxConsoleLines := 20, guards := Guards.strict }
  | .standard => standard
  | .relaxed =>
    { standard with maxScriptBytes := 64000, timeoutMs := 30000, maxConsoleLines := 1000, guards := Guards.relaxed }

/-- A budget in milliseconds; less than one counts as one. -/
def timeoutOfMicros (micros : Nat) : UInt64 := UInt64.ofNat (max 1 (min (micros / 1000) (2 ^ 64 - 1)))

/-- The backend that scripts run on. -/
def backend (p : Policy) : Backend := if p.preferRestricted then .restricted else .basic

/-- The settings that must not be zero, in the order in which they are checked. -/
def positiveSettings (p : Policy) : List (String × UInt64) :=
  [("max_script_bytes", p.maxScriptBytes), ("max_line_chars", p.maxLineChars),
   ("guards.max_call_depth", p.guards.maxCallDepth), ("guards.max_expr_depth", p.guards.maxExprDepth),
   ("guards.max_fn_expr_depth", p.guards.maxFnExprDepth), ("timeout_ms", p.timeoutMs)]

def validate (p : Policy) : Except EngineError Unit :=
  match p.positiveSettings.find? (·.2 == 0) with
  | some (name, _) => .error (.configuration (name ++ " must be greater than zero"))
  | none =>
    if Text.isBlank p.identifierField then .error (.configuration "identifier_field cannot be empty")
    else if (p.trackedFields.getD []).any Text.isBlank then
      .error (.configuration "tracked_fields cannot contain empty names")
    else .ok ()

/-! ### Durations -/

private def trimZeros (ds : List Char) : List Char := (ds.reverse.dropWhile (· == '0')).reverse

/-- The text of a span of milliseconds: whole seconds with their places, or milliseconds below one second. -/
def durationText (ms : Nat) : String :=
  if ms = 0 then "0ns"
  else if ms < 1000 then toString ms ++ "ms"
  else
    let places := trimZeros (((toString (1000 + ms % 1000)).toList).drop 1)
    toString (ms / 1000) ++ (if places.isEmpty then "" else "." ++ String.ofList places) ++ "s"

end Policy

end Sandscript
