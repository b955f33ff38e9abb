import Sandscript.Run.Chain

/-!
# Steps that a script is made of

What the evaluation of a script does apart from going through its tree: calls by name, assignments to variables,
names of namespaces, the labels of a `switch` and the values that a `for` loop goes through.
-/

namespace Sandscript

namespace Value

mutual

/-- Equality as a `switch` sees it: the kinds have to be the same, and a floating-point number has to be the same in
every bit. -/
def identical : Value → Value → Bool
  | unit, unit => true
  | bool a, bool b => a == b
  | int a, int b => a == b
  | float a, float b => a == b
  | dec a, dec b => a.eqv b
  | char a, char b => a == b
  | str a, str b => a == b
  | arr as, arr bs => identicalItems as bs
  | map as, map bs => identicalEntries as bs
  | blob a, blob b => a == b
  | range a b, range c d => a == c && b == d
  | rangeIncl a b, rangeIncl c d => a == c && b == d
  | _, _ => false

def identicalItems : List Value → List Value → Bool
  | [], [] => true
  | a :: as, b :: bs => a.identical b && identicalItems as bs
  | _, _ => false

def identicalEntries : List (String × Value) → List (String × Value) → Bool
  | [], [] => true
  | (k, a) :: as, (l, b) :: bs => k == l && a.identical b && identicalEntries as bs
  | _, _ => false

end

end Value

namespace Label

def isValue (v : Value) : Label → Bool
  | value w => v.identical w
  | range .. => false

/-- Whether a range holds the value. -/
def covers (v : Value) : Label → Bool
  | value _ => false
  | range lo hi inclusive =>
    match v with
    | .int n => lo ≤ n && (if inclusive then n ≤ hi else n < hi)
    | .float x =>
      let first := Library.toFloat lo
      let last := Library.toFloat hi
      first.le x && (if inclusive then x.le last else x.lt last)
    | .dec d =>
      let below := d.compare (.ofInt64 hi)
      (Decimal.ofInt64 lo).compare d != .gt && (below == .lt || (inclusive && below == .eq))
    | _ => false

end Label

namespace Case

def labels : Case → List Label
  | mk labels _ _ => labels

/-- The rule by which the cases for a value are found: ranges count only where no case names the value. -/
def ruleFor (v : Value) (cases : List Case) : Label → Bool :=
  if cases.any fun k => k.labels.any (Label.isValue v) then Label.isValue v else Label.covers v

end Case

/-! ### What loops go through -/

inductive Sequence where
  | items (vs : List Value)
  /-- The integers from `next` up to, but not including, `stop`. -/
  | integers (next stop : Int)
  | series (s : Series)

namespace Sequence

def of? : Value → Option Sequence
  | .arr vs => some (.items vs)
  | .str s => some (.items (s.toList.map .char))
  | .range lo hi => some (.integers lo.toInt hi.toInt)
  | .rangeIncl lo hi => some (.integers lo.toInt (hi.toInt + 1))
  | .series s => some (.series s)
  | _ => none

/-- The first value and what follows it. -/
def next? : Sequence → Option (Value × Sequence)
  | items [] => none
  | items (v :: rest) => some (v, items rest)
  | integers n stop => if n < stop then some (.int (Int64.ofInt n), integers (n + 1) stop) else none
  | series s => s.next?.map fun (v, rest) => (v, series rest)

end Sequence

namespace Context

open Run

/-! ### Variables -/

def rootOf (b : Binding) (pos : Position) : Option ConstantRoot :=
  if b.constant then some ⟨b.name, pos⟩ else none

/-- Assigns to a variable, with an operator or without. -/
def assignVariable (c : Context) (name : String) (namePos : Position) (op : Option BinaryOp) (v : Value)
    (pos : Position) : Run Unit := do
  step c.limits namePos
  let b ← c.find name namePos
  assign name (← c.assigned (rootOf b namePos) op b.value v pos)

def currentThis (pos : Position) : Run Receiver := do
  match (← get).this with
  | some r => pure r
  | none => raise .unboundThis pos

def readThis (pos : Position) : Run Value := do return (← currentThis pos).value

def setThis (v : Value) : Run Unit := modify fun s => { s with this := s.this.map ({ · with value := v }) }

def rootOfThis (r : Receiver) (pos : Position) : Option ConstantRoot :=
  if r.constant then some ⟨"this", pos⟩ else none

def assignThis (c : Context) (thisPos : Position) (op : Option BinaryOp) (v : Value) (pos : Position) : Run Unit := do
  step c.limits thisPos
  let r ← currentThis thisPos
  setThis (← c.assigned (rootOfThis r thisPos) op r.value v pos)

/-- Walks a chain that starts at a variable. -/
def walkVariable (c : Context) (name : String) (namePos : Position) (goal : ChainGoal) (links : List ChainStep) :
    Run Value := do
  step c.limits namePos
  let b ← c.find name namePos
  let writes := walkWrites goal links
  let w ← c.walk (rootOf b namePos) goal writes links b.value
  if writes then assign name w.value
  ofOutcome w.result

/-- Walks a chain that starts at `this`. -/
def walkThis (c : Context) (thisPos : Position) (goal : ChainGoal) (links : List ChainStep) : Run Value := do
  step c.limits thisPos
  let r ← currentThis thisPos
  let writes := walkWrites goal links
  let w ← c.walk (rootOfThis r thisPos) goal writes links r.value
  if writes then setThis w.value
  ofOutcome w.result

/-- Walks a chain that starts at a value. -/
def walkValue (c : Context) (v : Value) (goal : ChainGoal) (links : List ChainStep) : Run Value := do
  ofOutcome (← c.walk none goal (walkWrites goal links) links v).result

/-- A name of a namespace. -/
def qualified (root : Position) (path : List String) (name : String) : Run Value :=
  if path = ["math"] then
    match Library.constants.lookup name with
    | some x => pure (.float x)
    | none => raise (.variableNotFound ("math::" ++ name)) root
  else raise (.moduleNotFound ("::".intercalate path)) root

/-! ### Calls -/

/-- What the first argument of a call is taken from, so that the call can change it. -/
inductive Source where
  | value
  | named (name : String)
  | this

/-- The arguments of a call. -/
structure Arguments where
  values : List Value
  source : Source := .value
  firstPos : Position := .none

namespace Source

/-- Gives what an argument was taken from a new value. -/
def store (v : Value) : Source → Run Unit
  | value => pure ()
  | named name => assign name v
  | this => setThis v

end Source

/-- The value of a variable as the first argument of a call; a constant is not changed by the call. -/
def variableArgument (c : Context) (name : String) (pos : Position) : Run (Value × Source) := do
  let b ← c.find name pos
  return (b.value, if b.constant then .value else .named name)

/-- The value of `this` as the first argument of a call. -/
def thisArgument (pos : Position) : Run (Value × Source) := do
  let r ← currentThis pos
  return (r.value, if r.constant then .value else .this)

/-- Function values and texts of scripts as arguments of the functions of the language itself. -/
def languageCall? (c : Context) (name : String) (a : Arguments) (pos : Position) : Option (Run Value) :=
  match name, a.values with
  | "Fn", [.str s] => some do
    let f ← ofExcept a.firstPos (callbackOfName s)
    return .fn f.name f.held
  | "Fn", [v] => some (raise (.mismatch "string" v.typeName) a.firstPos)
  | "eval", [.str s] => some (c.calls.runText s a.firstPos)
  | "eval", [v] => some (raise (.mismatch "string" v.typeName) a.firstPos)
  | "type_of", [v] => some (pure (.str v.shortTypeName))
  | "is_shared", [_] => some (pure (.bool false))
  | "is_def_var", [.str s] => some do return .bool ((← get).scope.any (·.name == s))
  | "is_def_fn", [.str s, .int n] => some (pure (.bool ((c.function? s n.toInt.toNat).isSome)))
  | "call", .fn f held :: rest => some (c.callFunction f held rest pos)
  | "curry", .fn f held :: rest => some (pure (.fn f (held ++ rest)))
  | _, _ => none

/-- Calls a function by its name. -/
def callNamed (c : Context) (name : String) (inScope : Bool) (a : Arguments) (pos : Position) : Run Value :=
  match languageCall? c name a pos with
  | some r => do
    note .language name
    r
  | none =>
    match c.function? name a.values.length with
    | some f => c.invoke f none inScope a.values pos
    | none => do
      let e ← c.callLibrary false name a.values pos
      if let some v := e.object then a.source.store v
      ofOutcome e.result

/-- Calls a function of a namespace. -/
def callQualified (path : List String) (name : String) (a : Arguments) (pos : Position) : Run Value :=
  if path = ["math"] then
    match Library.mathCall? name a.values with
    | some v => do
      note .library name
      return v
    | none => raise (.noFunction ("math::" ++ name) a.values) pos
  else raise (.moduleNotFound ("::".intercalate path)) pos

end Context

end Sandscript
