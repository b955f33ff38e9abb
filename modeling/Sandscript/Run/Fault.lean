import Sandscript.Syntax.Fault
import Sandscript.Syntax.Token
import Sandscript.Value.Text

/-!
# What a script can raise

A fault is the cause of an error at run time, and a `Raised` is a fault with the place where it happened.  A fault
that leaves a function is kept inside the fault of the call.  Faults of the engine's own limits cannot be caught by
a script.
-/

namespace Sandscript

/-- Why an operation on numbers has no result.  The operands are kept as they are written. -/
inductive ArithmeticFault where
  | overflow (op : BinaryOp) (x y : String)
  | divisionByZero (x y : String)
  | negativePower (x y : String)
  | negation
  | undefinedSign
  | zeroStep
deriving DecidableEq, Repr

namespace ArithmeticFault

private def overflowName : BinaryOp → String
  | .add => "Addition overflow"
  | .sub => "Subtraction overflow"
  | .mul => "Multiplication overflow"
  | .div => "Division overflow"
  | .rem => "Modulo division by zero or overflow"
  | _ => "Exponential overflow"

def message : ArithmeticFault → String
  | overflow op x y => overflowName op ++ ": " ++ x ++ " " ++ op.spelling ++ " " ++ y
  | divisionByZero x y => "Division by zero: " ++ x ++ " / " ++ y
  | negativePower x y => "Integer raised to a negative power: " ++ x ++ " ** " ++ y
  | negation => "integer overflow"
  | undefinedSign => "Sign of NaN is undefined"
  | zeroStep => "step value cannot be zero"

end ArithmeticFault

/-- What is addressed by a number. -/
inductive Addressed where
  | array
  | text
  | bits
deriving DecidableEq, Repr

namespace Addressed

private def label : Addressed → String
  | array => "Array"
  | text => "String"
  | bits => "Bit-field"

private def whole : Addressed → String
  | array => "array"
  | text => "string"
  | bits => "bit-field"

private def unit : Addressed → String
  | array => "element"
  | text => "character"
  | bits => "bit"

def message (a : Addressed) (size : Nat) (index : Int) : String :=
  a.label ++ " index " ++ toString index ++ " out of bounds: " ++
    (if size = 0 then a.whole ++ " is empty"
     else "only " ++ toString size ++ " " ++ a.unit ++ (if size = 1 then "" else "s") ++ " in " ++ a.whole)

end Addressed

/-- What a limit on data counts. -/
inductive Measured where
  | text
  | items
  | entries
deriving DecidableEq, Repr

namespace Measured

def label : Measured → String
  | text => "Length of string"
  | items => "Size of array/BLOB"
  | entries => "Size of object map"

end Measured

inductive Fault where
  /-- Thrown by the script, or refused by a function of the library. -/
  | thrown (value : Value)
  | variableNotFound (name : String)
  | moduleNotFound (name : String)
  | functionNotFound (signature : String)
  | unboundThis
  | arithmetic (reason : ArithmeticFault)
  | mismatch (expected found : String)
  | outOfBounds (what : Addressed) (size : Nat) (index : Int)
  | noGetter (property typeName : String)
  | noSetter (property typeName valueType : String)
  | noIndexer (typeName keyType : String)
  /-- A subscript cannot be assigned to. -/
  | noIndexSetter (typeName keyType valueType : String)
  | notIterable
  | constantChanged (name : String)
  /-- A method that changes its object was called on a constant. -/
  | constantObject (method : String)
  /-- A text that was to be run is no script. -/
  | badScript (fault : SyntaxFault)
  | stackOverflow
  | tooManyOperations
  | tooLarge (what : Measured)
  /-- The fault of a called function, and where it happened in there. -/
  | inCall (function : String) (isClosure : Bool) (inner : Fault) (place : Position)
deriving Inhabited

/-- A fault and the place where it is reported. -/
structure Raised where
  fault : Fault
  position : Position
deriving Inhabited

namespace Fault

/-- A refusal by the library. -/
def refusal (message : String) : Fault := thrown (.str message)

/-- A call that no function takes. -/
def noFunction (name : String) (args : List Value) : Fault :=
  functionNotFound (name ++ " (" ++ ", ".intercalate (args.map Value.signatureName) ++ ")")

/-- Faults of the limits of the engine; no script can catch them, and calls do not wrap them. -/
def isSystem : Fault → Bool
  | badScript _ | stackOverflow | tooManyOperations | tooLarge _ => true
  | _ => false

def message : Fault → String
  | thrown v => if v.text.isEmpty then "Runtime error" else "Runtime error: " ++ v.text
  | variableNotFound name => "Variable not found: " ++ name
  | moduleNotFound name => "Module not found: " ++ name
  | functionNotFound signature => "Function not found: " ++ signature
  | unboundThis => "'this' not bound"
  | arithmetic reason => reason.message
  | mismatch expected found => "Data type incorrect: " ++ found ++ " (expecting " ++ expected ++ ")"
  | outOfBounds what size index => what.message size index
  | noGetter property typeName =>
    "Unknown property '" ++ property ++ "' - a getter is not registered for type '" ++ typeName ++ "'"
  | noSetter property typeName valueType =>
    "No writable property '" ++ property ++ "' - a setter is not registered for type '" ++ typeName ++
      "' to handle '" ++ valueType ++ "'"
  | noIndexer typeName keyType => "Indexer unavailable: " ++ typeName ++ " [" ++ keyType ++ "]"
  | noIndexSetter typeName keyType valueType =>
    "Indexer unavailable: " ++ typeName ++ " [" ++ keyType ++ "] = " ++ valueType
  | notIterable => "For loop expects iterable type"
  | constantChanged name => "Cannot modify constant " ++ name
  | constantObject method => "Non-pure method '" ++ method ++ "' cannot be called on constant"
  | badScript fault => "Syntax error: " ++ fault.message
  | stackOverflow => "Stack overflow"
  | tooManyOperations => "Too many operations"
  | tooLarge what => what.label ++ " too large"
  | inCall function isClosure inner place =>
    inner.message ++ place.suffix ++
      (if isClosure then "\nin closure call" else "\nin call to function '" ++ function ++ "'")

/-! ### Faults as values -/

/-- The name that a script sees of a fault it caught. -/
def kindName : Fault → String
  | thrown _ => "ErrorRuntime"
  | variableNotFound _ => "ErrorVariableNotFound"
  | moduleNotFound _ => "ErrorModuleNotFound"
  | functionNotFound _ => "ErrorFunctionNotFound"
  | unboundThis => "ErrorUnboundThis"
  | arithmetic _ => "ErrorArithmetic"
  | mismatch _ _ => "ErrorMismatchDataType"
  | outOfBounds .array _ _ => "ErrorArrayBounds"
  | outOfBounds .text _ _ => "ErrorStringBounds"
  | outOfBounds .bits _ _ => "ErrorBitFieldBounds"
  | noGetter _ _ | noSetter _ _ _ => "ErrorDotExpr"
  | noIndexer _ _ | noIndexSetter _ _ _ => "ErrorIndexingType"
  | notIterable => "ErrorFor"
  | constantChanged _ => "ErrorAssignmentToConstant"
  | constantObject _ => "ErrorNonPureMethodCallOnConstant"
  | badScript _ => "ErrorParsing"
  | stackOverflow => "ErrorStackOverflow"
  | tooManyOperations => "ErrorTooManyOperations"
  | tooLarge _ => "ErrorDataTooLarge"
  | inCall _ _ _ _ => "ErrorInFunctionCall"

private def details : Fault → List (String × Value)
  | variableNotFound name | constantChanged name => [("variable", .str name)]
  | moduleNotFound name => [("module", .str name)]
  | functionNotFound signature => [("function", .str signature)]
  | mismatch expected found => [("requested", .str expected), ("actual", .str found)]
  | outOfBounds _ size index => [("length", .int (Int64.ofNat size)), ("index", .int (Int64.ofInt index))]
  | noGetter property typeName => [("property", .str (noGetter property typeName).message)]
  | noSetter property typeName valueType => [("property", .str (noSetter property typeName valueType).message)]
  | noIndexer typeName keyType => [("type", .str (typeName ++ " [" ++ keyType ++ "]"))]
  | noIndexSetter typeName keyType valueType =>
    [("type", .str (typeName ++ " [" ++ keyType ++ "] = " ++ valueType))]
  | inCall function _ _ _ => [("function", .str function), ("source", .str "")]
  | _ => []

/-- What was thrown inside of calls, if it was thrown by a script or by the library. -/
def thrown? : Fault → Option Value
  | thrown v => some v
  | inCall _ _ inner _ => inner.thrown?
  | _ => none

end Fault

namespace Raised

/-- The message with the place. -/
def message (r : Raised) : String := r.fault.message ++ r.position.suffix

/-- What a script is given when it catches the fault: the value that was thrown, or a map about the fault. -/
def caughtValue (r : Raised) : Value :=
  match r.fault.thrown? with
  | some v => v
  | none =>
    let place :=
      if r.position.isNone then []
      else [("line", Value.int (Int64.ofNat r.position.line)), ("position", .int (Int64.ofNat r.position.column))]
    let kind := [("error", .str r.fault.kindName), ("message", .str r.fault.message)]
    .map (Fields.ofPairs (kind ++ place ++ r.fault.details))

end Raised

end Sandscript
