import Sandscript.Command.Execution
import Std.Time.DateTime.Timestamp

/-!
# The command line

The surroundings of a command on this machine.
-/

namespace Sandscript

namespace FileProblem

def ofError : IO.Error → FileProblem
  | .noFileOrDirectory .. => .missing
  | .permissionDenied .. => .denied
  | .inappropriateType _ _ details =>
    if (details.splitOn "not").length = 1 then .directory else .notDirectory
  | e => .other (toString e)

end FileProblem

namespace Timestamp

/-- The timestamp so many nanoseconds after the beginning of 1970. -/
def ofUnixNanos (n : Int) : Timestamp :=
  let seconds := n / 1000000000
  let (year, month, day) := Calendar.ofDayNumber (Calendar.dayNumber 1970 1 1 + seconds / 86400)
  let ofDay := (seconds % 86400).toNat
  { year, month, day, hour := ofDay / 3600, minute := ofDay / 60 % 60, second := ofDay % 60
    nanos := (n % 1000000000).toNat }

end Timestamp

namespace BatchId

/-- The identifier made from sixteen random bytes: six bits say that it is a random one. -/
def ofRandom (bytes : List UInt8) : BatchId :=
  let n := bytes.foldl (fun n b => 256 * n + b.toNat) 0
  ⟨(BitVec.ofNat 128 n &&& ~~~(0xF000C000000000000000#128)) ||| 0x40008000000000000000#128⟩

end BatchId

namespace Surroundings

private def attempt {α : Type} (action : IO α) : IO (Except FileProblem α) := do
  try return .ok (← action) catch e => return .error (.ofError e)

private def textOfFile (path : String) : IO (Except FileProblem String) := do
  match ← attempt (IO.FS.readBinFile path) with
  | .error e => return .error e
  | .ok bytes =>
    match String.fromUTF8? bytes with
    | some text => return .ok text
    | none => return .error .notText

/-- This machine. -/
def machine : IO (Surroundings IO) := do
  let userPolicy := userPolicyPath (← IO.getEnv "XDG_CONFIG_HOME") (← IO.getEnv "HOME")
  let policyVariable ← IO.getEnv "WARDEN_POLICY"
  return {
    readText := textOfFile
    writeText := fun path text => attempt (IO.FS.writeFile path text)
    isFile := fun path => return (← attempt (IO.FS.readBinFile path)).isOk
    newBatch := do
      let bytes ← IO.getRandomBytes 16
      let now ← Std.Time.Timestamp.now
      return (.ofRandom bytes.toList, .ofUnixNanos now.toNanosecondsSinceUnixEpoch.val)
    milliseconds := IO.monoMsNow
    userPolicy
    policyVariable }

end Surroundings

end Sandscript

def main (args : List String) : IO UInt32 := do
  let result ← Sandscript.Command.run (← Sandscript.Surroundings.machine) args
  IO.print result.out
  IO.eprint result.err
  return result.status.toUInt32
