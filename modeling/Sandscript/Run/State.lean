import Sandscript.Names
import Sandscript.Value.Size

/-!
# The state of a run

A run changes a state and may stop before its end.  What it did to the state before it stopped stays done.  Every
step is counted as an operation and takes time; a run that takes more of either than its limits admit is stopped, by a
fault that names the limit on operations or because its time is used up.  The operations of a callback count only as
long as it runs.  What a limit of the backend refuses is a fault, which the run may get over; that there was one is
noted all the same.
-/

namespace Sandscript

/-- A name and what it stands for. -/
structure Binding where
  name : String
  value : Value
  constant : Bool := false
  /-- The run was given the name; functions of the script go before it. -/
  given : Bool := false

/-- The object of a call. -/
structure Receiver where
  value : Value
  constant : Bool := false

/-- Where a called function comes from. -/
inductive Origin where
  /-- The language itself has it. -/
  | language
  | library
  /-- The library has it, and it asks a callback. -/
  | asking
  | script
deriving DecidableEq, Repr

/-- A function that a call has found. -/
structure Callee where
  origin : Origin
  name : String
deriving DecidableEq, Repr

structure RunState where
  /-- The names in scope, the innermost first. -/
  scope : List Binding := []
  this : Option Receiver := none
  /-- What `this` was at the end of the call that ended last. -/
  lastThis : Option Receiver := none
  /-- What was printed, the last line first. -/
  printed : List String := []
  /-- The operations that count. -/
  operations : Nat := 0
  /-- The steps that were taken in all. -/
  steps : Nat := 0
  /-- The functions that were called, the last first. -/
  called : List Callee := []
  /-- How often a limit of the backend has refused something. -/
  refusals : Nat := 0

/-- Why a run leaves its course. -/
inductive Stop where
  | raised (r : Raised)
  | returned (v : Value)
  /-- The loop around is left with a value. -/
  | leftLoop (v : Value)
  /-- The loop around goes on with its next round. -/
  | nextRound
  | outOfTime

abbrev Run := EStateM Stop RunState

/-- What bounds a run. -/
structure RunLimits where
  /-- The limits of the restricted backend. -/
  guards : Option Guards := none
  /-- The steps that fit into the time of a run. -/
  time : Nat

namespace RunLimits

def basicDepth : Nat := 64

/-- How deeply calls may nest. -/
def depth (l : RunLimits) : Nat :=
  match l.guards with
  | some g => g.maxCallDepth.toNat
  | none => basicDepth

/-- The number of operations that a run may take, if it is limited; zero is no limit. -/
def maxOperations? (l : RunLimits) : Option Nat :=
  match l.guards.bind (·.maxOperations) with
  | some n => if n = 0 then none else some n.toNat
  | none => none

end RunLimits

namespace Run

def raise {α : Type} (fault : Fault) (position : Position) : Run α := throw (.raised ⟨fault, position⟩)

/-- Raises the fault of a limit of the backend. -/
def refuse {α : Type} (fault : Fault) (position : Position) : Run α := do
  modify fun s => { s with refusals := s.refusals + 1 }
  raise fault position

/-- The result of an operation, whose fault is reported at `position`. -/
def ofExcept {α : Type} (position : Position) : Except Fault α → Run α
  | .ok a => pure a
  | .error fault => raise fault position

/-- Counts a step. -/
def step (l : RunLimits) (position : Position) : Run Unit := fun s =>
  let s := { s with operations := s.operations + 1, steps := s.steps + 1 }
  let exceeds : Bool := match l.maxOperations? with
    | some most => most < s.operations
    | none => false
  if exceeds then refuse .tooManyOperations position s
  else if l.time < s.steps then .error .outOfTime s
  else .ok () s

/-- Counts some steps at one place. -/
def steps (l : RunLimits) (position : Position) : Nat → Run Unit
  | 0 => pure ()
  | n + 1 => do
    step l position
    steps l position n

/-- Runs `r`, whose operations do not count afterwards. -/
def uncounted {α : Type} (r : Run α) : Run α := fun s =>
  match r s with
  | .ok a t => .ok a { t with operations := s.operations }
  | .error e t => .error e { t with operations := s.operations }

/-- Refuses a value that is too large. -/
def checkSize (l : RunLimits) (v : Value) (position : Position) : Run Unit :=
  match l.guards with
  | none => pure ()
  | some g =>
    match v.size.excess? g with
    | some what => refuse (.tooLarge what) position
    | none => pure ()

/-- Notes that a call has found its function. -/
def note (origin : Origin) (name : String) : Run Unit :=
  modify fun s => { s with called := ⟨origin, name⟩ :: s.called }

def print (line : String) : Run Unit := modify fun s => { s with printed := line :: s.printed }

/-- Runs `r` and gives its end as a value. -/
def outcome {α : Type} (r : Run α) : Run (Except Stop α) := fun s =>
  match r s with
  | .ok a s => .ok (.ok a) s
  | .error e s => .ok (.error e) s

def ofOutcome {α : Type} : Except Stop α → Run α
  | .ok a => pure a
  | .error e => throw e

/-! ### Names -/

def declare (name : String) (value : Value) (constant : Bool) : Run Unit :=
  modify fun s => { s with scope := { name, value, constant } :: s.scope }

/-- The names that were in scope when there were `n` of them. -/
def cutScope (n : Nat) (scope : List Binding) : List Binding := scope.drop (scope.length - n)

/-- Runs with names of its own, which are gone afterwards. -/
def withNames {α : Type} (r : Run α) : Run α := fun s =>
  let n := s.scope.length
  match r s with
  | .ok a s => .ok a { s with scope := cutScope n s.scope }
  | .error e s => .error e { s with scope := cutScope n s.scope }

/-- The restricted backend gives no access to dunder names. -/
def checkName (l : RunLimits) (name : String) (position : Position) : Run Unit :=
  if l.guards.isSome && Names.isDunder name then
    refuse (.refusal ("access to '" ++ name ++ "' is not allowed")) position
  else pure ()

def store (name : String) (value : Value) : List Binding → List Binding
  | [] => []
  | b :: rest => if b.name == name then { b with value } :: rest else b :: store name value rest

/-- Gives the innermost binding of a name a new value. -/
def assign (name : String) (value : Value) : Run Unit := modify fun s => { s with scope := store name value s.scope }

/-! ### Loops -/

/-- How a round of a loop ends. -/
inductive Round (σ : Type) where
  | again (next : σ)
  | done (v : Value)

/-- Repeats rounds; the time of the run bounds their number. -/
@[specialize] def rounds {σ : Type} (round : σ → Run (Round σ)) : Nat → σ → Run Value
  | 0, _ => throw .outOfTime
  | n + 1, a => do
    match ← round a with
    | .again b => rounds round n b
    | .done v => pure v

/-- Runs the body of a loop; it is left with a value or goes on. -/
def body (r : Run Unit) : Run (Option Value) := fun s =>
  match r s with
  | .ok _ s => .ok none s
  | .error .nextRound s => .ok none s
  | .error (.leftLoop v) s => .ok (some v) s
  | .error e s => .error e s

end Run

end Sandscript
