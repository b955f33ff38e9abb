import Sandscript.Output
import Sandscript.Trace.Document

/-!
# What the commands print

Besides the reports on policies and on checked scripts there are two: on a batch, and on a script that was refused.
-/

namespace Sandscript

/-- How a command ended. -/
inductive ExitStatus where
  | success
  | failure
  | invalidInput
  | scriptRejected
  | recordFailures
deriving DecidableEq, Repr

namespace ExitStatus

def code : ExitStatus → Nat
  | success => 0
  | failure => 1
  | invalidInput => 2
  | scriptRejected => 3
  | recordFailures => 4

end ExitStatus

/-- Where the records of a batch went. -/
inductive Delivery where
  | file (path : String)
  | inReport (records : List Record)

structure BatchReport where
  delivery : Delivery
  trace : Trace

namespace BatchReport

def toJson (r : BatchReport) : Json :=
  let delivered := match r.delivery with
    | .file path => ("output", Json.str path)
    | .inReport records => ("records", Json.arr (records.map Json.obj))
  .obj [delivered, ("trace", r.trace.toJson)]

end BatchReport

structure RejectionReport where
  script : String
  reason : Rejection

namespace RejectionReport

def toJson (r : RejectionReport) : Json := .obj [("script", .str r.script), ("reason", .str r.reason.message)]

end RejectionReport

/-- What a command that did not get to an end is stopped by. -/
structure Failure where
  message : String
  cause : Option String := none

namespace Failure

private def indented (text : String) : String :=
  "\n".intercalate ((text.splitOn "\n").map ("    " ++ ·))

def report (f : Failure) : String :=
  "Error: " ++ f.message ++ "\n" ++
    match f.cause with
    | none => ""
    | some cause => "\nCaused by:\n" ++ indented cause ++ "\n"

end Failure

end Sandscript
