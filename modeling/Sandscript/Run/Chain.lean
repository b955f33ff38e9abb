import Sandscript.Run.Calls
import Sandscript.Value.Spot

/-!
# Chains

A chain starts at a value and goes from part to part: by properties, subscripts and method calls.  Walking it gives a
result and the value as it is afterwards, for a method may change its object and an assignment changes the last part.
The value is given also when the walk is stopped, with the changes made until then.
-/

namespace Sandscript

/-- A link of a chain whose arguments are values. -/
inductive ChainStep where
  | property (pos : Position) (optional : Bool) (name : String)
  | index (pos keyPos : Position) (optional : Bool) (key : Value)
  | method (pos : Position) (optional : Bool) (name : String) (args : List Value)

/-- What is done at the end of a chain. -/
inductive ChainGoal where
  | read
  | assign (op : Option BinaryOp) (value : Value) (pos : Position)

/-- The constant that a value is part of. -/
structure ConstantRoot where
  name : String
  pos : Position

/-- A value that a chain goes through, after the walk of the links behind it. -/
structure Walked where
  value : Value
  /-- A method was called that may have changed the value. -/
  updated : Bool := false
  /-- The result of the walk. -/
  result : Except Stop Value

namespace ChainStep

def isMethod : ChainStep → Bool
  | method .. => true
  | _ => false

def isOptional : ChainStep → Bool
  | property _ o _ | index _ _ o _ | method _ o _ _ => o

end ChainStep

namespace ChainGoal

def isAssign : ChainGoal → Bool
  | assign .. => true
  | read => false

end ChainGoal

namespace Context

open Run

/-! ### Assignments -/

/-- The value that an assignment gives to what had the value `old`. -/
def assigned (c : Context) (root : Option ConstantRoot) (op : Option BinaryOp) (old new : Value) (pos : Position) :
    Run Value :=
  match root with
  | some r => raise (.constantChanged r.name) r.pos
  | none =>
    match op with
    | none => pure new
    | some op => do
      steps c.limits pos (op.assignCalls old new)
      let v ← ofExcept pos (op.applyAssign old new)
      checkSize c.limits v pos
      return v

/-! ### Methods -/

def unshared : Value := .bool false

/-- Calls a function of the script with `target` for `this`. -/
def onThis (target : Value) (constant : Bool) (call : Option Receiver → Run Value) : Run Walked := do
  let result ← outcome (call (some { value := target, constant }))
  return { value := ((← get).lastThis.map (·.value)).getD target, result }

def libraryMethod (c : Context) (constant : Bool) (name : String) (target : Value) (args : List Value)
    (pos : Position) : Run Walked := do
  match ← outcome (c.callLibrary constant name (target :: args) pos) with
  | .error e => return { value := target, result := .error e }
  | .ok e => return { value := e.object.getD target, updated := e.object.isSome, result := e.result }

/-- Calls a method.  An entry of a map that is a function is a method of the map; a function of the script has the
object for `this`. -/
def callMethod (c : Context) (constant : Bool) (name : String) (target : Value) (args : List Value)
    (pos : Position) : Run Walked :=
  let entry? : Option (String × List Value) := match target with
    | .map entries =>
      match Fields.get? name entries with
      | some (.fn f held) => some (f, held)
      | _ => none
    | _ => none
  let function (f : String) (args : List Value) : Run Walked :=
    match c.function? f args.length with
    | some d => onThis target constant fun this => c.invoke d this false args pos
    | none => libraryMethod c constant f target args pos
  let own (r : Run Walked) : Run Walked := do
    note .language name
    r
  let gives (v : Value) : Run Walked := own (pure { value := target, result := .ok v })
  match name, target, args with
  | "type_of", v, [] => gives (.str v.shortTypeName)
  | "is_shared", _, [] => gives unshared
  | "call", .fn f held, args => own do
    return { value := target, result := ← outcome (c.callFunction f held args pos) }
  | "call", _, .fn f held :: rest => own (function f (held ++ rest))
  | "curry", .fn f held, args => gives (.fn f (held ++ args))
  | _, _, _ =>
    match entry? with
    | some (f, held) => function f (held ++ args)
    | none => function name args

/-! ### Walking -/

/-- Where a link leads. -/
inductive Lead where
  | spot (s : Spot)
  /-- A value that is no part of what it was taken from. -/
  | value (v : Value)
  | method (name : String) (args : List Value) (pos : Position)

/-- What is to be assigned to the part that the last link leads to. -/
def assignment? (goal : ChainGoal) (isLast : Bool) : Option (Option BinaryOp × Value × Position) :=
  match goal, isLast with
  | .assign op v pos, true => some (op, v, pos)
  | _, _ => none

/-- Properties of what is no map can be read, but not written. -/
def propertyOf (c : Context) (goal : ChainGoal) (isLast : Bool) (name : String) (target : Value)
    (pos : Position) : Run Lead := do
  let unwritable (new : Value) : Run Lead := raise (.noSetter name target.shortTypeName new.shortTypeName) pos
  step c.limits pos
  match Library.property? name target, assignment? goal isLast with
  | _, some (none, new, _) => unwritable new
  | none, _ => raise (.noGetter name target.shortTypeName) pos
  | some v, none => return .value v
  | some v, some (op, new, opPos) => unwritable (← c.assigned none op v new opPos)

def leadOf (c : Context) (goal : ChainGoal) (isLast : Bool) (target : Value) : ChainStep → Run Lead
  | .property pos _ name =>
    match target with
    | .map _ => do
      step c.limits .none
      return .spot (.entry name)
    | _ => propertyOf c goal isLast name target pos
  | .index pos keyPos _ key => do
    step c.limits .none
    match target.spot key, assignment? goal isLast with
    | .ok s, _ => return .spot s
    | .error (.key fault), _ => raise fault keyPos
    | .error (.value typeName keyType), none => raise (.noIndexer typeName keyType) pos
    | .error (.value typeName keyType), some (_, new, _) =>
      raise (.noIndexSetter typeName keyType new.shortTypeName) pos
  | .method pos _ name args => return .method name args pos

/-- Puts a part that was changed back to its spot. -/
def putBack (target : Value) (s : Spot) (part : Walked) : Value :=
  if target.holds s || part.updated then
    match target.write s part.value with
    | .ok whole => whole
    | .error _ => target
  else target

/-- What becomes of a value when an assignment to one of its parts fails: a map has the entry all the same. -/
def afterFailure (target : Value) (s : Spot) (part : Value) : Value :=
  match target, s with
  | .map entries, .entry k => .map (Fields.insert k part entries)
  | _, _ => target

/-- Puts what was assigned to its spot, and checks the size of the whole. -/
def putAssigned (c : Context) (target : Value) (s : Spot) (new : Value) (pos : Position) : Run Walked := do
  match target.write s new with
  | .error fault => return { value := target, result := .error (.raised ⟨fault, pos⟩) }
  | .ok whole => return { value := whole, result := ← outcome (do checkSize c.limits whole pos; return .unit) }

/-- Walks a chain from `target`, which is part of the constant `root`.  With `writes` parts are put back. -/
def walk (c : Context) (root : Option ConstantRoot) (goal : ChainGoal) (writes : Bool) :
    List ChainStep → Value → Run Walked
  | [], target =>
    match goal with
    | .read => pure { value := target, result := .ok target }
    | .assign op new pos => do
      match ← outcome (c.assigned root op target new pos) with
      | .ok v => return { value := v, result := .ok .unit }
      | .error e => return { value := target, result := .error e }
  | link :: rest, target =>
    if link.isOptional && target.isUnit then pure { value := target, result := .ok .unit }
    else do
      match ← outcome (leadOf c goal rest.isEmpty target link) with
      | .error e => return { value := target, result := .error e }
      | .ok (.value v) => return { value := target, result := (← walk c none goal writes rest v).result }
      | .ok (.method name args pos) =>
        let called ← callMethod c root.isSome name target args pos
        match called.result with
        | .error _ => return called
        | .ok v => return { called with result := (← walk c none goal writes rest v).result }
      | .ok (.spot s) =>
        let part ← walk c (if target.holds s then root else none) goal writes rest (target.read s)
        match writes, part.result, assignment? goal rest.isEmpty with
        | false, _, _ => return { value := target, result := part.result }
        | true, .ok _, some (_, _, pos) => putAssigned c target s part.value pos
        | true, .error _, some _ => return { value := afterFailure target s part.value, result := part.result }
        | true, _, none => return { value := putBack target s part, result := part.result }

/-- Whether walking changes anything. -/
def walkWrites (goal : ChainGoal) (links : List ChainStep) : Bool := goal.isAssign || links.any ChainStep.isMethod

end Context

end Sandscript
