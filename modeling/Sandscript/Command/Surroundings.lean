import Sandscript.Batch.Basic

/-!
# What a command needs from its surroundings

Files, an identifier and a clock for batches, and where the user keeps a policy.  A command runs in any monad that has
these; `Folder` is one whose files are held in memory.
-/

namespace Sandscript

/-- Why a file could not be read or written. -/
inductive FileProblem where
  | missing
  | directory
  | notDirectory
  | denied
  | notText
  | other (message : String)
deriving DecidableEq, Repr

namespace FileProblem

def message : FileProblem → String
  | missing => "No such file or directory (os error 2)"
  | directory => "Is a directory (os error 21)"
  | notDirectory => "Not a directory (os error 20)"
  | denied => "Permission denied (os error 13)"
  | notText => "stream did not contain valid UTF-8"
  | other message => message

end FileProblem

structure Surroundings (m : Type → Type) where
  readText : String → m (Except FileProblem String)
  writeText : String → String → m (Except FileProblem Unit)
  isFile : String → m Bool
  newBatch : m (BatchId × Timestamp)
  milliseconds : m Nat
  /-- Where the policy of the user would be. -/
  userPolicy : Option String
  /-- The policy file that the environment names. -/
  policyVariable : Option String

/-- The policy file in the directory for settings, which is `settings` if that is absolute and else in `home`. -/
def userPolicyPath (settings home : Option String) : Option String :=
  let absolute := settings.filter fun s => s.startsWith "/"
  let directory := absolute <|> (home.filter fun h => !h.isEmpty).map (· ++ "/.config")
  directory.map (· ++ "/warden/policy.toml")

/-! ### Files in memory -/

/-- A directory with files in it, each given by the parts of its path. -/
structure Folder where
  /-- The parts of the path of the directory itself. -/
  place : List String
  files : List (List String × List UInt8)

namespace Folder

inductive Entry where
  | file (bytes : List UInt8)
  | directory

def entry? (f : Folder) (path : List String) : Option Entry :=
  match f.files.find? (·.1 == path) with
  | some (_, bytes) => some (.file bytes)
  | none => if path.isEmpty || f.files.any (fun (p, _) => path.isPrefixOf p) then some .directory else none

/-- Follows the parts of a path from the directory `at`. -/
def follow (f : Folder) : List String → List String → Except FileProblem (List String)
  | [], here => .ok here
  | part :: rest, here =>
    match f.entry? here with
    | none => .error .missing
    | some (.file _) => .error .notDirectory
    | some .directory =>
      if part == "" || part == "." then follow f rest here
      else if part == ".." then (if here.isEmpty then .error .missing else follow f rest here.dropLast)
      else follow f rest (here ++ [part])

/-- The parts of a path within the folder. -/
def locate (f : Folder) (path : String) : Except FileProblem (List String) :=
  if path.isEmpty then .error .missing
  else
    let parts := (path.splitOn "/")
    if path.startsWith "/" then
      if f.place.isPrefixOf parts.tail then follow f (parts.tail.drop f.place.length) [] else .error .missing
    else follow f parts []

def bytes (f : Folder) (path : String) : Except FileProblem (List UInt8) := do
  match f.entry? (← f.locate path) with
  | some (.file bytes) => .ok bytes
  | some .directory => .error .directory
  | none => .error .missing

def text (f : Folder) (path : String) : Except FileProblem String := do
  match String.fromUTF8? ⟨(← f.bytes path).toArray⟩ with
  | some s => .ok s
  | none => .error .notText

def write (f : Folder) (path contents : String) : Except FileProblem Folder := do
  let parts ← f.locate path
  match f.entry? parts with
  | some .directory => .error .directory
  | _ => .ok { f with files := (parts, contents.toUTF8.toList) :: f.files.filter (·.1 != parts) }

/-- Surroundings whose files are those of a folder and where no time passes. -/
def surroundings (stamp : BatchId × Timestamp) (userPolicy policyVariable : Option String) :
    Surroundings (StateM Folder) where
  readText path := return (← get).text path
  writeText path contents := do
    match (← get).write path contents with
    | .ok f =>
      set f
      return .ok ()
    | .error e => return .error e
  isFile path := return (← get).bytes path |>.isOk
  newBatch := return stamp
  milliseconds := return 0
  userPolicy
  policyVariable

end Folder

end Sandscript
