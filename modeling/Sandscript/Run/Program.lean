import Sandscript.Run.Evaluation

/-!
# Running a program

A program runs from a scope of given names.  Its end, the names at its end and what it printed make up its
evaluation.
-/

namespace Sandscript

namespace RunState

/-- The state of the caller after a call that ended in state `t`. -/
def leave (s t : RunState) (inScope : Bool) : RunState :=
  { t with
    scope := if inScope then Run.cutScope s.scope.length t.scope else s.scope
    this := s.this
    lastThis := t.this }

end RunState

namespace Raised

/-- A fault as it leaves a function that was called at `pos`. -/
def leaving (r : Raised) (f : FunctionDef) (pos : Position) : Raised :=
  if r.fault.isSystem then ⟨r.fault, pos⟩ else ⟨.inCall f.name f.isClosure r.fault r.position, pos⟩

end Raised

open Run

def bindings (f : FunctionDef) (args : List Value) : List Binding :=
  (List.zipWith (fun name value => { name, value }) f.parameters args).reverse

/-- Runs the body of a function. -/
def runFunction (c : Context) (f : FunctionDef) (this : Option Receiver) (inScope : Bool) (args : List Value)
    (pos : Position) : Run Value := fun s =>
  let inner := { s with scope := bindings f args ++ (if inScope then s.scope else []), this }
  match evalStmts c .unit f.body inner with
  | .ok v t => .ok v (s.leave t inScope)
  | .error (.returned v) t => .ok v (s.leave t inScope)
  | .error (.raised r) t => .error (.raised (r.leaving f pos)) (s.leave t inScope)
  | .error e t => .error e (s.leave t inScope)

/-- Runs a text with the names of its caller. -/
def runText (c : Context) (limits : ParserLimits) (text : String) (pos : Position) : Run Value := fun s =>
  let failed (r : Raised) (s : RunState) : EStateM.Result Stop RunState Value :=
    .error (.raised ⟨.inCall "eval" false r.fault r.position, pos⟩) s
  match Program.parse limits text with
  | .error e => failed ⟨.badScript e.fault, e.position⟩ s
  | .ok p =>
    if !p.functions.isEmpty then failed ⟨.badScript .misplacedFunction, .none⟩ s
    else
      match evalStmts c .unit p.main s with
      | .error (.returned v) t => .ok v t
      | .error (.raised r) t => failed r t
      | r => r

/-- A function without a body does nothing, however deep the call is. -/
def unlessEmpty (f : FunctionDef) (this : Option Receiver) (r : Run Value) : Run Value :=
  if f.body.isEmpty then do
    modify fun s => { s with lastThis := this }
    return .unit
  else r

/-- The calls that are possible when `n` more levels of nesting are allowed.  A callback takes two levels: one for
the function of the library and one for itself. -/
def callsAt (limits : RunLimits) (functions : List FunctionDef) : Nat → Calls
  | 0 =>
    let overflow (pos : Position) : Run Value := do
      step limits pos
      refuse .stackOverflow pos
    { invoke := fun f this _ _ pos => unlessEmpty f this (overflow pos)
      callback := fun f this _ pos => unlessEmpty f this (overflow pos)
      runText := fun _ pos => refuse .stackOverflow pos }
  | n + 1 =>
    { invoke := fun f this inScope args pos => unlessEmpty f this do
        step limits pos
        runFunction { limits, functions, calls := callsAt limits functions n } f this inScope args pos
      callback := fun f this args pos => (callsAt limits functions n).invoke f this false args pos
      runText := fun text pos => runText { limits, functions, calls := callsAt limits functions n } {} text pos }

/-- How a program ended. -/
inductive Ending where
  | finished (v : Value)
  | raised (r : Raised)
  | outOfTime

structure Evaluation where
  ending : Ending
  /-- The names in scope at the end, the innermost first. -/
  scope : List Binding
  /-- The printed lines in order. -/
  printed : List String
  steps : Nat
  /-- The functions that were called in order. -/
  called : List Callee
  /-- How often a limit of the backend refused something. -/
  refusals : Nat

namespace Evaluation

/-- What a name stands for at the end. -/
def value? (e : Evaluation) (name : String) : Option Value := (e.scope.find? (·.name == name)).map (·.value)

end Evaluation

namespace Program

def evaluate (p : Program) (limits : RunLimits) (scope : List Binding) : Evaluation :=
  let c : Context := { limits, functions := p.functions, calls := callsAt limits p.functions limits.depth }
  let ended (ending : Ending) (s : RunState) : Evaluation :=
    { ending, scope := s.scope, printed := s.printed.reverse, steps := s.steps, called := s.called.reverse
      refusals := s.refusals }
  match evalStmts c .unit p.main { scope } with
  | .ok v s => ended (.finished v) s
  | .error (.returned v) s | .error (.leftLoop v) s => ended (.finished v) s
  | .error (.raised r) s => ended (.raised r) s
  | .error .nextRound s => ended (.finished .unit) s
  | .error .outOfTime s => ended .outOfTime s

end Program

end Sandscript
