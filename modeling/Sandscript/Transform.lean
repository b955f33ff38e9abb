import Sandscript.Compiled
import Sandscript.Run.Program
import Sandscript.Value.Json

/-!
# Transforming one record

A compiled script runs on one record at a time.  It finds the record under the name `record`, and hands its output out
under the name `result`, or in `record` if it leaves `result` alone.  The output must be a map with a JSON form and must
still have the identifier field, whose value is then what it was before the run.
-/

namespace Sandscript

/-- What became of a record. -/
abbrev Outcome := Except RunError Record

namespace Outcome

def failed (o : Outcome) : Bool := !o.isOk

def timedOut : Outcome → Bool
  | .error e => e.isTimeout
  | .ok _ => false

end Outcome

/-- What a run on one record left behind. -/
structure RecordRun where
  outcome : Outcome
  /-- The printed lines in order. -/
  printed : List String

/-! ### The scope of a run -/

def recordName : String := "record"

def resultName : String := "result"

/-- The names that a script finds when it runs on a record. -/
def Record.scope (record : Record) : List Binding :=
  [{ name := resultName, value := .unit, given := true },
   { name := recordName, value := (Json.obj record).toValue, given := true }]

namespace Value

/-- The fields of an output, which has to be a map of values with a JSON form. -/
def toRecord : Value → Outcome
  | map entries =>
    match entriesToJson "" entries with
    | .ok fields => .ok fields
    | .error u => .error (.invalidReturnType u.message)
  | v => .error (.invalidReturnType v.typeName)

end Value

namespace Evaluation

/-- The output of a finished run: `result`, or `record` if `result` is the unit value. -/
def output (e : Evaluation) : Value :=
  match e.value? resultName with
  | none | some .unit => (e.value? recordName).getD .unit
  | some v => v

end Evaluation

/-- A script with what its policy says about its runs. -/
structure Transformer where
  script : CompiledScript
  timeoutMs : UInt64
  identifierField : String
  /-- The steps that fit into the time of a run. -/
  time : Nat

namespace Transformer

/-! ### Time

A run has no clock.  Its time is counted in steps instead, and the three numbers here stand for what a clock would
show: they are chosen, not taken from anywhere, so that runs that end are given the time to do so and all others are
given up.  No theorem about all runs depends on which numbers they are. -/

/-- The steps that are taken to fit into a millisecond. -/
def stepsPerMs : Nat := 20000

/-- A run of so many steps is taken to be endless, unless the policy admits more operations. -/
def endless : Nat := 8000000

/-- A run of so many steps is given up, whatever operations the policy admits. -/
def longest : Nat := 20000000

/-- The steps that are taken to fit into the time of a run, on either backend. -/
def timeOf (policy : Policy) : Nat :=
  let operations := match policy.guards.maxOperations with
    | some n => n.toNat + 1
    | none => 0
  min (policy.timeoutMs.toNat * stepsPerMs) (max endless (min operations longest))

def ofScript (policy : Policy) (script : Script) : Except Rejection Transformer := do
  let compiled ← CompiledScript.ofScript policy script
  return { script := compiled, timeoutMs := policy.timeoutMs, identifierField := policy.identifierField
           time := timeOf policy }

theorem ofScript_eq_ok {policy : Policy} {script : Script} {t : Transformer}
    (h : ofScript policy script = .ok t) :
    ∃ compiled, CompiledScript.ofScript policy script = .ok compiled ∧
      t = ⟨compiled, policy.timeoutMs, policy.identifierField, timeOf policy⟩ := by
  unfold ofScript at h
  cases hc : CompiledScript.ofScript policy script with
  | error r =>
    rw [hc] at h
    cases h
  | ok compiled =>
    rw [hc] at h
    cases h
    exact ⟨compiled, rfl, rfl⟩

def limits (t : Transformer) : RunLimits := { guards := t.script.guards, time := t.time }

/-- The run of the script on a record, whatever the fields of the record. -/
def evaluate (t : Transformer) (record : Record) : Evaluation :=
  t.script.program.evaluate t.limits record.scope

/-- The outcome of a run on a record whose identifier is `identifier`. -/
def outcome (t : Transformer) (identifier : Json) (e : Evaluation) : Outcome :=
  match e.ending with
  | .outOfTime => .error (.timeout t.timeoutMs.toNat)
  | .raised r => .error (.exception r.message)
  | .finished _ =>
    match e.output.toRecord with
    | .error e => .error e
    | .ok fields =>
      if Fields.contains t.identifierField fields then .ok (Fields.insert t.identifierField identifier fields)
      else .error (.missingRequiredField t.identifierField)

/-- Runs the script on a record.  A record without identifier is refused before the run. -/
def run (t : Transformer) (record : Record) : RecordRun :=
  match Fields.get? t.identifierField record with
  | none => { outcome := .error (.missingRequiredField t.identifierField), printed := [] }
  | some identifier =>
    let e := t.evaluate record
    { outcome := t.outcome identifier e, printed := e.printed }

end Transformer

/-! ### Statistics -/

/-- How many runs there were, how many of them timed out, and how many failed. -/
structure RunStats where
  runs : Nat := 0
  timeouts : Nat := 0
  failures : Nat := 0
deriving DecidableEq, Repr

namespace RunStats

/-- A run begins. -/
def begun (s : RunStats) : RunStats := { s with runs := s.runs + 1 }

/-- A run is given up, for its time is used up. -/
def givenUp (s : RunStats) : RunStats := { s with timeouts := s.timeouts + 1 }

/-- A run has failed, for whatever reason. -/
def failed (s : RunStats) : RunStats := { s with failures := s.failures + 1 }

/-- What a run with an outcome adds. -/
def add (s : RunStats) (o : Outcome) : RunStats :=
  { runs := s.runs + 1
    timeouts := if o.timedOut then s.timeouts + 1 else s.timeouts
    failures := if o.failed then s.failures + 1 else s.failures }

def addAll (s : RunStats) (os : List Outcome) : RunStats := os.foldl add s

end RunStats

namespace Transformer

/-- Runs the script on a record with an identifier; a run that is given up is counted. -/
def runTimed (t : Transformer) (identifier : Json) (record : Record) : StateM RunStats RecordRun := do
  let e := t.evaluate record
  if let .outOfTime := e.ending then modify .givenUp
  return { outcome := t.outcome identifier e, printed := e.printed }

/-- Runs the script on a record and counts the run: when it begins, when it is given up, and when it has failed. -/
def runCounted (t : Transformer) (record : Record) : StateM RunStats RecordRun := do
  modify .begun
  let r ← match Fields.get? t.identifierField record with
    | none => pure { outcome := .error (.missingRequiredField t.identifierField), printed := [] }
    | some identifier => t.runTimed identifier record
  if r.outcome.failed then modify .failed
  return r

/-- A description for logs. -/
def describe (t : Transformer) (stats : RunStats) : String :=
  "ExecutionHost \x7b timeout: " ++ Policy.durationText t.timeoutMs.toNat ++ ", identifier_field: " ++
    Text.quoted t.identifierField ++ ", runs: " ++ toString stats.runs ++ ", .. \x7d"

end Transformer

end Sandscript
