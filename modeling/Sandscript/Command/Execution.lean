import Sandscript.Command.Arguments
import Sandscript.Command.Reports
import Sandscript.Command.Surroundings
import Sandscript.Engine
import Sandscript.Policy.Report
import Sandscript.Records
import Sandscript.ValidationReport

/-!
# Carrying out a command

The policy comes from the file that is named, else from the file of the user, else it is the standard one.  A command
then reads its files, in the order of its operands, and prints one report.
-/

namespace Sandscript

/-- What a command left behind besides files. -/
structure CommandResult where
  status : Nat
  out : String := ""
  err : String := ""

namespace Command

variable {m : Type → Type} [Monad m]

/-- The result of a command that printed a report. -/
def printed (status : ExitStatus) (report : String) : CommandResult :=
  { status := status.code, out := report ++ "\n" }

abbrev Step (m : Type → Type) := ExceptT Failure m

def readFile (s : Surroundings m) (purpose path : String) : Step m String := do
  match ← s.readText path with
  | .ok text => return text
  | .error e => throw ⟨"failed to read " ++ purpose ++ " " ++ path, e.message⟩

private def readPolicy (s : Surroundings m) (path : String) : Step m Policy := do
  match Policy.ofToml (← readFile s "policy file" path) with
  | .ok p => return p
  | .error e => throw ⟨"failed to parse policy file " ++ path, e.message⟩

private def choosePolicy (s : Surroundings m) (named : Option String) : Step m PolicyReport := do
  match named with
  | some path => return { origin := .file path, policy := ← readPolicy s path }
  | none =>
    match s.userPolicy with
    | none => return { origin := .builtin, policy := .standard }
    | some path =>
      if ← s.isFile path then return { origin := .userFile path, policy := ← readPolicy s path }
      else return { origin := .builtin, policy := .standard }

/-- The policy that a command runs under, and where it came from. -/
def loadPolicy (s : Surroundings m) (named : Option String) (timeoutMs : Option UInt64) :
    ExceptT Failure m PolicyReport := do
  let found ← choosePolicy s named
  let policy := match timeoutMs with
    | some ms => { found.policy with timeoutMs := ms }
    | none => found.policy
  match policy.validate with
  | .ok _ => return { found with policy }
  | .error e => throw ⟨"invalid policy", e.message⟩

/-- Checks the script of a file. -/
def validate (s : Surroundings m) (path : String) (policy : Policy) (format : OutputFormat) :
    ExceptT Failure m CommandResult := do
  let report := ValidationReport.ofScript path policy ⟨← readFile s "script" path⟩
  return printed (if report.isValid then .success else .scriptRejected) (report.toJson.format format false)

/-- The records of a file, or what is wrong with it. -/
def readRecords (s : Surroundings m) (path : String) : m (Except String (List Record)) := do
  match ← s.readText path with
  | .error e => return .error ("failed to read records " ++ path ++ ": " ++ e.message)
  | .ok text =>
    match Records.read text with
    | .ok records => return .ok records
    | .error e => return .error ("invalid records in " ++ path ++ ": " ++ e.message)

def deliver (s : Surroundings m) (output : Option String) (records : List Record) : Step m Delivery := do
  match output with
  | none => return .inReport records
  | some path =>
    match ← s.writeText path (Records.write records) with
    | .ok _ => return .file path
    | .error e => throw ⟨"failed to write " ++ path, e.message⟩

/-- Hands out the records of a batch, and then reports on it. -/
def finish (s : Surroundings m) (output : Option String) (strict : Bool) (format : OutputFormat) (batch : Batch)
    (stamp : Batch.Stamp) : Step m CommandResult := do
  let trace := batch.trace stamp
  let report : BatchReport := { delivery := ← deliver s output batch.outputs, trace }
  return printed (if strict && !trace.isClean then .recordFailures else .success) (report.toJson.format format false)

/-- Applies a script to records. -/
def applyTo (s : Surroundings m) (script source : String) (records : List Record) (output : Option String)
    (strict : Bool) (policy : Policy) (format : OutputFormat) : Step m CommandResult := do
  match Engine.ofPolicy policy with
  | .error e => throw ⟨"invalid policy", e.message⟩
  | .ok engine =>
    let (id, startedAt) ← s.newBatch
    let start ← s.milliseconds
    match engine.apply ⟨source⟩ records with
    | .error reason => return printed .scriptRejected ((RejectionReport.toJson ⟨script, reason⟩).format format false)
    | .ok (batch, _) => finish s output strict format batch ⟨id, startedAt, (← s.milliseconds) - start⟩

/-- Applies a script to the records of a file.  Nothing is written unless the script ran on all of them. -/
def apply (s : Surroundings m) (script records : String) (output : Option String) (strict : Bool)
    (policy : Policy) (format : OutputFormat) : ExceptT Failure m CommandResult := do
  let source ← readFile s "script" script
  match ← ExceptT.lift (readRecords s records) with
  | .error e => return { status := ExitStatus.invalidInput.code, err := "error: " ++ e ++ "\n" }
  | .ok records => applyTo s script source records output strict policy format

/-- Shows a policy. -/
def policy (report : PolicyReport) (format : OutputFormat) : CommandResult :=
  printed .success (if format == .text then report.settings else report.toJson.format format false)

private def perform (s : Surroundings m) (i : Invocation) : Step m CommandResult := do
  match OutputFormat.ofName i.format with
  | .error e => throw { message := e.message }
  | .ok format =>
    let loaded ← loadPolicy s i.policy i.timeoutMs
    match i.action with
    | .validate path => validate s path loaded.policy format
    | .apply script records output strict => apply s script records output strict loaded.policy format
    | .policy => return policy loaded format

def usage : String :=
  "Usage: warden [OPTIONS] <COMMAND>\n\nCommands:\n  validate <SCRIPT>\n  apply <SCRIPT> <RECORDS>\n  policy\n\n" ++
    "Options:\n  -v, --verbose\n      --format <FORMAT>\n      --policy <POLICY>\n      --timeout-ms <TIMEOUT_MS>\n" ++
    "  -o, --output <OUTPUT>\n      --strict\n  -h, --help\n  -V, --version\n"

def versionLine : String := "warden 0.1.0\n"

/-- Carries out a command line. -/
def run (s : Surroundings m) (args : List String) : m CommandResult := do
  match Invocation.ofArguments s.policyVariable args with
  | .error .help => return { status := 0, out := usage }
  | .error .version => return { status := 0, out := versionLine }
  | .error .misuse => return { status := 2, err := usage }
  | .ok i =>
    match ← (perform s i).run with
    | .ok result => return result
    | .error f => return { status := ExitStatus.failure.code, err := f.report }

end Command

end Sandscript
