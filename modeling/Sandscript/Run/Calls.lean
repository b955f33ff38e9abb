import Sandscript.Library.Functions
import Sandscript.Library.Sorting
import Sandscript.Run.State
import Sandscript.Syntax.Lexer

/-!
# Calls

How a call finds its function.  Functions of the script come first, then those of the library.  Some functions of the
library take a callback: a function value, or the name of a function.  A callback about an item of an array has the
item as `this` if it has no parameter for it, and the place of the item as a further argument if it has a parameter
for that.  A callback about an entry of a map is given the key, and the value in the way of an item.
-/

namespace Sandscript

/-- The ways to run what a script consists of. -/
structure Calls where
  /-- Runs a function with an object for `this`; `inScope` gives it the names of its caller. -/
  invoke : FunctionDef → Option Receiver → (inScope : Bool) → List Value → Position → Run Value
  /-- Runs a function for a function of the library. -/
  callback : FunctionDef → Option Receiver → List Value → Position → Run Value
  /-- Runs a text with the names of its caller. -/
  runText : String → Position → Run Value

/-- What a script runs with. -/
structure Context where
  limits : RunLimits
  functions : List FunctionDef
  calls : Calls

/-- How a call of a function of the library ends, and its first argument as it is then if it may have changed. -/
structure Effect where
  result : Except Stop Value
  object : Option Value := none

namespace Context

open Run

def function? (c : Context) (name : String) (arity : Nat) : Option FunctionDef :=
  c.functions.find? fun f => f.name == name && f.parameters.length == arity

/-- What a name stands for: a variable of the script, or else a function of the script, or else what the run was
given under the name. -/
def find (c : Context) (name : String) (position : Position) : Run Binding := do
  checkName c.limits name position
  let scope := (← get).scope
  match scope.find? fun b => b.name == name && !b.given with
  | some b => return b
  | none =>
    if c.functions.any fun f => f.name == name then
      return { name, value := .fn name [], constant := true }
    match scope.find? (·.name == name) with
    | some b => return b
    | none => raise (.variableNotFound name) position

def closure? (c : Context) (name : String) : Option FunctionDef :=
  c.functions.find? fun f => f.isClosure && f.name == name

/-- Calls a function of the script. -/
def invoke (c : Context) (f : FunctionDef) (this : Option Receiver) (inScope : Bool) (args : List Value)
    (pos : Position) : Run Value := do
  note .script f.name
  c.calls.invoke f this inScope args pos

/-- Calls a function of the script for a function of the library. -/
def callback (c : Context) (f : FunctionDef) (this : Option Receiver) (args : List Value) (pos : Position) :
    Run Value := do
  note .script f.name
  c.calls.callback f this args pos

/-! ### The library -/

def shown? (name : String) (args : List Value) : Option String :=
  match name, args with
  | "print", [] | "debug", [] => some ""
  | "print", [v] => some v.printed
  | "debug", [v] => some (v.nestedText true)
  | _, _ => none

/-- A function of the library that takes no callback. -/
def plain? (name : String) (args : List Value) : Option (Except Fault Effect) :=
  match Library.call? name args with
  | some r => some (r.map fun v => { result := .ok v })
  | none =>
    match args with
    | [] => none
    | object :: rest =>
      (Library.update? name object rest).map fun r => r.map fun (o, v) => { result := .ok v, object := some o }

def checked (c : Context) (e : Effect) (pos : Position) : Run Effect := do
  match e.result with
  | .ok v => checkSize c.limits v pos
  | .error _ => pure ()
  match e.object with
  | some o => checkSize c.limits o pos
  | none => pure ()
  return e

/-- Refuses to call a method on a constant that may change its object. -/
def checkConstant (constant : Bool) (name : String) (args : List Value) (pos : Position) : Run Unit :=
  match args with
  | object :: _ =>
    if constant && Library.mayChange name object then raise (.constantObject name) pos else pure ()
  | [] => pure ()

/-- Calls a function of the library that takes no callback; `constant` tells whether the first argument must not be
changed. -/
def callPlain (c : Context) (constant : Bool) (name : String) (args : List Value) (pos : Position) : Run Effect := do
  step c.limits pos
  match shown? name args with
  | some line =>
    note .library name
    checkSize c.limits (.str line) pos
    print line
    return { result := .ok .unit }
  | none =>
    match plain? name args with
    | some r =>
      note .library name
      checkConstant constant name args pos
      checked c (← ofExcept pos r) pos
    | none => raise (.noFunction name args) pos

/-! ### Callbacks -/

/-- A function that can be called, and the arguments it holds already. -/
structure Callback where
  name : String
  held : List Value

/-- The function that a name stands for, whether there is one or not.  What the language keeps for itself names no
function. -/
def callbackOfName (name : String) : Except Fault Callback :=
  if Lexer.isOwnSpelling name then .error (.badScript (.reserved name))
  else if SyntaxFault.isWord name then .ok ⟨name, []⟩
  else .error (.functionNotFound name)

/-- Calls a function by its name; with a value for `this` that is the first argument of a function of the library. -/
def callByName (c : Context) (name : String) (this : Option Receiver) (args : List Value) (pos : Position) :
    Run Value :=
  match c.function? name args.length with
  | some f => c.callback f this args pos
  | none => do
    let constant := (this.map (·.constant)).getD false
    let e ← c.callPlain constant name ((this.map (·.value)).toList ++ args) pos
    modify fun s => { s with lastThis := (e.object.map fun v => { value := v, constant }) <|> this }
    ofOutcome e.result

/-- Calls back. -/
def callHeld (c : Context) (f : Callback) (this : Option Receiver) (args : List Value) (pos : Position) :
    Run Value :=
  uncounted (callByName c f.name this (f.held ++ args) pos)

def isMissing (name : String) : Stop → Bool
  | .raised ⟨.functionNotFound signature, _⟩ => name.toList.isPrefixOf signature.toList
  | _ => false

/-- Runs the first of some calls whose function is there. -/
def firstPresent (name : String) : List (Run Value) → Run Value → Run Value
  | [], last => last
  | r :: rest, last => do
    match ← outcome r with
    | .ok v => pure v
    | .error e => if isMissing name e then firstPresent name rest last else throw e

/-- Faults of a callback are faults of the function that was given it. -/
def within {α : Type} (caller : String) (pos : Position) (r : Run α) : Run α := do
  match ← outcome r with
  | .ok v => pure v
  | .error (.raised ⟨fault, place⟩) => raise (.inCall caller false fault place) pos
  | .error e => throw e

/-- Calls back with `args` and, where the function has parameters for them, more arguments: `this`, unless the
function of the library keeps it back, and behind it `extras`. -/
def callWith (c : Context) (caller : String) (f : Callback) (this : Option Receiver) (keepsThis : Bool)
    (args extras : List Value) (pos : Position) : Run Value :=
  let moved : List Value → Run Value := fun more => do
    let v ← callHeld c f none (args ++ (this.map (·.value)).toList ++ more) pos
    modify fun s => { s with lastThis := this }
    return v
  let direct : List Value → Run Value := fun more => callHeld c f this (args ++ more) pos
  let movable := this.isSome && !keepsThis
  within caller pos <|
    match c.closure? f.name with
    | some d =>
      let arity := d.parameters.length - f.held.length
      if arity = args.length then direct []
      else if movable && arity = args.length + 1 then moved []
      else if movable && arity = args.length + 1 + extras.length then moved extras
      else direct (if arity = args.length + extras.length then extras else [])
    | none =>
      if movable then firstPresent f.name [direct [], moved []] (moved extras)
      else firstPresent f.name [direct []] (direct extras)

/-! ### Items -/

/-- What became of items, or of entries, about which a callback was asked. -/
structure Inquiry (ι : Type) where
  /-- The answers, each with the item as the callback left it. -/
  asked : List (Value × ι)
  /-- The items about which there is no answer. -/
  rest : List ι
  /-- Why the callback gave no further answer, if it failed. -/
  stopped : Option Stop := none

namespace Inquiry

variable {ι : Type}

/-- All items as they are now. -/
def items (q : Inquiry ι) : List ι := q.asked.map (·.2) ++ q.rest

/-- The items whose answers fit. -/
def fitting (q : Inquiry ι) (fits : Value → Bool) : List ι := (q.asked.filter fun a => fits a.1).map (·.2)

/-- The last item if its answer fits. -/
def last? (q : Inquiry ι) (fits : Value → Bool) : Option (Value × ι) :=
  q.asked.getLast?.filter fun a => fits a.1

/-- The effect of a function that leaves `whole` and has the result `v`, unless a callback failed. -/
def effect (q : Inquiry ι) (whole v : Value) : Effect :=
  { result := match q.stopped with
      | some e => .error e
      | none => .ok v
    object := some whole }

end Inquiry

/-- How a container is given to a callback. -/
structure Asking where
  /-- The function of the library that asks. -/
  caller : String
  callback : Callback
  /-- The items must not be changed. -/
  constant : Bool
  /-- The callback may only have the item for `this`. -/
  keepsThis : Bool := false
  pos : Position

/-- The answer of a callback about a value, and the value as the callback leaves it. -/
def ask (c : Context) (a : Asking) (args extras : List Value) (v : Value) : Run (Except Stop Value × Value) := do
  modify fun s => { s with lastThis := none }
  let this : Receiver := { value := v, constant := a.constant }
  let r ← outcome (callWith c a.caller a.callback (some this) a.keepsThis args extras a.pos)
  return (r, ((← get).lastThis.map (·.value)).getD v)

/-- Asks about the item at the place `i`. -/
def askItem (c : Context) (a : Asking) (i : Nat) (item : Value) : Run (Except Stop Value × Value) :=
  ask c a [] [.int (Int64.ofNat i)] item

/-- Asks about an entry, whatever its place. -/
def askEntry (c : Context) (a : Asking) (_ : Nat) (entry : String × Value) :
    Run (Except Stop Value × (String × Value)) := do
  let (r, v) ← ask c a [.str entry.1] [] entry.2
  return (r, (entry.1, v))

/-- Asks about items, the first of which has the place `i`, as long as the answers say to go on. -/
def askWhile {ι : Type} (about : Nat → ι → Run (Except Stop Value × ι)) (goesOn : Value → Bool) :
    Nat → List ι → Run (Inquiry ι)
  | _, [] => return ⟨[], [], none⟩
  | i, item :: rest => do
    match ← about i item with
    | (.error e, item) => return ⟨[], item :: rest, some e⟩
    | (.ok v, item) =>
      if goesOn v then
        let q ← askWhile about goesOn (i + 1) rest
        return { q with asked := (v, item) :: q.asked }
      else return ⟨[(v, item)], rest, none⟩

def askAll {ι : Type} (about : Nat → ι → Run (Except Stop Value × ι)) (items : List ι) : Run (Inquiry ι) :=
  askWhile about (fun _ => true) 0 items

def isTrue : Value → Bool
  | .bool b => b
  | _ => false

def reduceFrom (c : Context) (caller : String) (f : Callback) (pos : Position) :
    List (Value × Nat) → Value → Run Value
  | [], v => return v
  | (item, i) :: rest, v => do
    let v ← callWith c caller f none false [v, item] [.int (Int64.ofNat i)] pos
    reduceFrom c caller f pos rest v

/-- The answers about two items at a time, the first two of which have the place `i`. -/
def askPairs (c : Context) (caller : String) (f : Callback) (pos : Position) :
    Nat → List (Value × Value) → Run (List Value)
  | _, [] => return []
  | i, (a, b) :: rest => do
    let v ← callWith c caller f none false [a, b] [.int (Int64.ofNat i)] pos
    return v :: (← askPairs c caller f pos (i + 1) rest)

/-- Whether a comparer says that one item has to stand before another; one that fails says that they are equal. -/
def isBefore (c : Context) (f : Callback) (pos : Position) (a b : Value) : Run Bool := do
  match ← outcome (callHeld c f none [a, b] pos) with
  | .ok (.int n) => return n < 0
  | .ok (.bool first) => return first
  | .ok _ | .error (.raised _) => return false
  | .error e => throw e

def dedupBy (same : Value → Value → Run Bool) (last : Value) : List Value → Run (List Value)
  | [] => return []
  | v :: rest => do
    if ← same last v then dedupBy same last rest
    else return v :: (← dedupBy same v rest)

def numbered (items : List Value) : List (Value × Nat) := items.zipIdx

/-- The functions over arrays that take their callback also by name. -/
def namingFunctions : List String :=
  ["map", "filter", "index_of", "some", "all", "dedup", "reduce", "reduce_rev", "sort", "drain", "retain"]

/-- The callback that an argument stands for. -/
def callbackOf? (caller : String) : Value → Option (Except Fault Callback)
  | .fn name held => some (.ok ⟨name, held⟩)
  | .str name => if namingFunctions.contains caller then some (callbackOfName name) else none
  | _ => none

def place (i : Int) : Value := .int (Int64.ofInt i)

/-- Searches behind `start` for an item whose answer fits; `found` makes the result of the place, the answer and the
item. -/
def search (c : Context) (a : Asking) (items : List Value) (start : Nat) (fits : Value → Bool)
    (found : Option (Nat × Value × Value) → Value) : Run Effect := do
  let q ← askWhile (c.askItem a) (fun v => !fits v) start (items.drop start)
  let hit := (q.last? fits).map fun (v, item) => (start + q.asked.length - 1, v, item)
  return q.effect (.arr (items.take start ++ q.items)) (found hit)

/-- Functions over the items of an array that ask a callback.  `rest` are the arguments behind the callback. -/
def asking? (c : Context) (constant : Bool) (name : String) (items rest : List Value) (pos : Position) :
    Option (Callback → Run Effect) :=
  let asking (f : Callback) : Asking := { caller := name, callback := f, constant, pos }
  let from? : Option Nat := match rest with
    | [] => some 0
    | [.int start] => some (Library.Slice.offsetOf items.length start.toInt)
    | _ => none
  let changed (r : Run (List Value)) : Run Effect := do
    return { result := .ok .unit, object := some (.arr (← r)) }
  let reduced (f : Callback) (items : List (Value × Nat)) (start : Value) : Run Effect := do
    return { result := .ok (← reduceFrom c name f pos items start) }
  match name, rest with
  | "map", [] => some fun f => do
    let q ← askAll (c.askItem (asking f)) items
    return q.effect (.arr q.items) (.arr (q.asked.map (·.1)))
  | "for_each", [] => some fun f => do
    let q ← askAll (c.askItem { asking f with keepsThis := true }) items
    return q.effect (.arr q.items) .unit
  | "filter", [] => some fun f => do
    let q ← askAll (c.askItem (asking f)) items
    return q.effect (.arr q.items) (.arr (q.fitting isTrue))
  | "retain", [] => some fun f => do
    let q ← askAll (c.askItem (asking f)) items
    return q.effect (.arr (q.fitting isTrue ++ q.rest)) (.arr (q.fitting fun v => !isTrue v))
  | "drain", [] => some fun f => do
    let q ← askAll (c.askItem (asking f)) items
    return q.effect (.arr ((q.fitting fun v => !isTrue v) ++ q.rest)) (.arr (q.fitting isTrue))
  | "reduce", [] => some fun f => reduced f (numbered items) .unit
  | "reduce", [start] => some fun f => reduced f (numbered items) start
  | "reduce_rev", [] => some fun f => reduced f (numbered items).reverse .unit
  | "reduce_rev", [start] => some fun f => reduced f (numbered items).reverse start
  | "some", [] => some fun f => search c (asking f) items 0 isTrue fun hit => .bool hit.isSome
  | "all", [] => some fun f => search c (asking f) items 0 (fun v => !isTrue v) fun hit => .bool hit.isNone
  | "sort", [] => some fun f => changed (Library.Sorting.sort (isBefore c f pos) items)
  | "dedup", [] => some fun f =>
    match items with
    | [] => return { result := .ok .unit }
    | v :: more =>
      let same (a b : Value) : Run Bool := do
        match ← outcome (callHeld c f none [a, b] pos) with
        | .ok r => return isTrue r
        | .error (.raised _) => return false
        | .error e => throw e
      changed (do return v :: (← dedupBy same v more))
  | "index_of", _ => from?.map fun start f => search c (asking f) items start isTrue fun
    | some (i, _) => place i
    | none => place (-1)
  | "find", _ => from?.map fun start f => search c { asking f with caller := "index_of" } items start isTrue fun
    | some (_, _, item) => item
    | none => .unit
  | "find_map", _ => from?.map fun start f => search c (asking f) items start (fun v => !v.isUnit) fun
    | some (_, v, _) => v
    | none => .unit
  | _, _ => none

/-- Functions over the items of two arrays that ask a callback. -/
def askingPairs? (c : Context) (name : String) (items others : List Value) (pos : Position) :
    Option (Callback → Run Effect) :=
  match name with
  | "zip" => some fun f => do
    return { result := .ok (.arr (← askPairs c name f pos 0 (items.zip others))) }
  | _ => none

/-- Functions over the entries of a map that ask a callback.  While entries are drained or retained, the map is
empty, and so it stays where the callback fails. -/
def askingEntries? (c : Context) (constant : Bool) (name : String) (entries : List (String × Value))
    (rest : List Value) (pos : Position) : Option (Callback → Run Effect) :=
  let asked (f : Callback) : Run (Inquiry (String × Value)) :=
    askAll (c.askEntry { caller := name, callback := f, constant, pos }) entries
  let left (q : Inquiry (String × Value)) (fits : Value → Bool) : Value :=
    .map (if q.stopped.isSome then [] else q.fitting fits)
  match name, rest with
  | "filter", [] => some fun f => do
    let q ← asked f
    return q.effect (.map q.items) (.map (q.fitting isTrue))
  | "retain", [] => some fun f => do
    let q ← asked f
    return q.effect (left q isTrue) (.map (q.fitting fun v => !isTrue v))
  | "drain", [] => some fun f => do
    let q ← asked f
    return q.effect (left q fun v => !isTrue v) (.map (q.fitting isTrue))
  | _, _ => none

/-- What a call of a function of the library asks about: the callback that it is given, and what is done with it. -/
def asked? (c : Context) (constant : Bool) (name : String) (args : List Value) (pos : Position) :
    Option (Except Fault Callback × (Callback → Run Effect)) :=
  match args with
  | [.arr items, .arr others, .fn f held] =>
    (askingPairs? c name items others pos).map fun run => (.ok ⟨f, held⟩, run)
  | .arr items :: g :: rest =>
    (callbackOf? name g).bind fun f => (asking? c constant name items rest pos).map fun run => (f, run)
  | .map entries :: .fn f held :: rest =>
    (askingEntries? c constant name entries rest pos).map fun run => (.ok ⟨f, held⟩, run)
  | _ => none

/-- Calls a function of the library; `constant` tells whether the first argument must not be changed. -/
def callLibrary (c : Context) (constant : Bool) (name : String) (args : List Value) (pos : Position) : Run Effect :=
  match asked? c constant name args pos with
  | some (callback, run) => do
    step c.limits pos
    note .asking name
    checkConstant constant name args pos
    checked c (← run (← ofExcept pos callback)) pos
  | none => c.callPlain constant name args pos

/-- Calls a function value. -/
def callFunction (c : Context) (name : String) (held args : List Value) (pos : Position) : Run Value := do
  let args := held ++ args
  match c.function? name args.length with
  | some f => c.invoke f none false args pos
  | none => ofOutcome (← c.callLibrary false name args pos).result

end Context

end Sandscript
