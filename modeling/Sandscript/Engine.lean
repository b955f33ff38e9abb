import Sandscript.Batch.Basic

/-!
# The engine

An engine checks scripts and applies them to records under one policy, which must be valid, and counts the runs.  It
serves any number of requests; each finds the statistics that those before it have left.
-/

namespace Sandscript

structure Engine where
  policy : Policy
  stats : RunStats := {}

namespace Engine

def ofPolicy (policy : Policy) : Except EngineError Engine := do
  policy.validate
  return { policy }

/-- Checks a script without running it. -/
def check (e : Engine) (script : Script) : Except Rejection Unit := (Validator.ofPolicy e.policy).validate script

/-- Runs a script on a record of a batch, and counts the run. -/
def runItem (t : Transformer) (r : Record × Nat) : StateM RunStats BatchItem := do
  return ⟨r.2, r.1, ← t.runCounted r.1⟩

/-- Applies a script to records in order; the engine that is returned has counted the runs. -/
def apply (e : Engine) (script : Script) (records : List Record) : Except Rejection (Batch × Engine) := do
  let t ← Transformer.ofScript e.policy script
  let (items, stats) := (records.zipIdx.mapM (runItem t)).run e.stats
  return ({ policy := e.policy, backend := t.script.backend, digest := t.script.digest, items }, { e with stats })

/-! ### Requests -/

inductive Request where
  | check (script : Script)
  | apply (script : Script) (records : List Record) (stamp : Batch.Stamp)

inductive Reply where
  | valid
  | rejected (reason : Rejection)
  | applied (batch : Batch) (trace : Trace)

/-- The reply to a request, and the engine behind it. -/
def serve (e : Engine) : Request → Reply × Engine
  | .check script =>
    match e.check script with
    | .ok () => (.valid, e)
    | .error reason => (.rejected reason, e)
  | .apply script records stamp =>
    match e.apply script records with
    | .ok (batch, e') => (.applied batch (batch.trace stamp), e')
    | .error reason => (.rejected reason, e)

/-- The replies to some requests in order, and the engine behind them. -/
def serveAll (e : Engine) : List Request → List Reply × Engine
  | [] => ([], e)
  | request :: rest =>
    let (reply, e) := e.serve request
    let (replies, e) := e.serveAll rest
    (reply :: replies, e)

end Engine

end Sandscript
