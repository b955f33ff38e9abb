import Sandscript.Json.Basic
import Sandscript.Validation

/-!
# Validation reports

What is reported about a script that was checked but not run.
-/

namespace Sandscript

structure ValidationReport where
  path : String
  digest : ScriptDigest
  size : Nat
  /-- Why the script was refused, if it was. -/
  reason : Option Rejection
deriving DecidableEq

namespace ValidationReport

/-- Checks the script read from `path`. -/
def ofScript (path : String) (policy : Policy) (script : Script) : ValidationReport :=
  { path, digest := script.digest, size := script.size,
    reason := match (Validator.ofPolicy policy).validate script with
      | .ok _ => none
      | .error r => some r }

def isValid (r : ValidationReport) : Bool := r.reason.isNone

def toJson (r : ValidationReport) : Json :=
  .obj ([("script", .str r.path), ("digest", .str r.digest.text), ("size_bytes", .ofNat r.size),
    ("valid", .bool r.isValid)] ++
    match r.reason with
    | none => []
    | some reason => [("reason", .str reason.message)])

end ValidationReport

end Sandscript
