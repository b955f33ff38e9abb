import Sandscript.Policy.Document

/-!
# Policy reports

The policy in force, where it came from, and the backend it selects.
-/

namespace Sandscript

inductive PolicyOrigin where
  | builtin
  /-- A file named on the command line. -/
  | file (path : String)
  /-- The file in the user's configuration directory. -/
  | userFile (path : String)
deriving DecidableEq, Repr

namespace PolicyOrigin

def text : PolicyOrigin → String
  | builtin => "built-in standard profile"
  | file path | userFile path => path

def toJson : PolicyOrigin → Json
  | builtin => .obj [("kind", .str "builtin")]
  | file path => .obj [("kind", .str "file"), ("path", .str path)]
  | userFile path => .obj [("kind", .str "userconfig"), ("path", .str path)]

end PolicyOrigin

structure PolicyReport where
  origin : PolicyOrigin
  policy : Policy
deriving DecidableEq, Repr

namespace PolicyReport

def toJson (r : PolicyReport) : Json :=
  .obj [("source", r.origin.toJson), ("backend", .str r.policy.backend.name), ("restricted_available", .bool true),
    ("policy", r.policy.toJson)]

/-- A settings file that gives this policy, under two comments. -/
def settings (r : PolicyReport) : String :=
  "# source: " ++ r.origin.text ++ "\n# backend: " ++ r.policy.backend.name ++ "\n" ++ r.policy.toToml

end PolicyReport

end Sandscript
