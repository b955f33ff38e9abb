/-!
# Failures

Three kinds of failure.  A `Rejection` refuses a script before any record is touched.  A `RunError` is the failure of
one record, which is then kept as it was.  An `EngineError` concerns what surrounds a run: policies, arguments,
serialized data.
-/

namespace Sandscript

/-! ### Rejected scripts -/

inductive Rejection where
  | empty
  | tooLarge (size limit : Nat)
  | syntaxError (message : String)
  | forbiddenConstruct (construct : String) (line : Option Nat)
  | forbiddenCall (name : String) (line : Option Nat)
  | forbiddenAttribute (name : String) (line : Option Nat)
  | notCompiled (message : String)
deriving DecidableEq, Repr

namespace Rejection

private def lineSuffix : Option Nat → String
  | some line => " (line " ++ toString line ++ ")"
  | none => ""

def message : Rejection → String
  | empty => "script is empty"
  | tooLarge size limit =>
    "script is " ++ toString size ++ " bytes, exceeding the " ++ toString limit ++ " byte limit"
  | syntaxError message => "syntax error: " ++ message
  | forbiddenConstruct construct line => "forbidden construct: " ++ construct ++ lineSuffix line
  | forbiddenCall name line => "forbidden call: " ++ name ++ "()" ++ lineSuffix line
  | forbiddenAttribute name line => "forbidden attribute access: " ++ name ++ lineSuffix line
  | notCompiled message => "compilation failed: " ++ message

/-- Refused by a rule about names and constructs, not by the parser or a size. -/
def isPolicyViolation : Rejection → Bool
  | forbiddenConstruct .. | forbiddenCall .. | forbiddenAttribute .. => true
  | _ => false

def isSyntaxError : Rejection → Bool
  | syntaxError _ => true
  | _ => false

end Rejection

/-! ### Failed records -/

inductive RunErrorKind where
  | timeout
  | exception
  | invalidReturnType
  | missingRequiredField
deriving DecidableEq, Repr

namespace RunErrorKind

def tag : RunErrorKind → String
  | timeout => "timeout"
  | exception => "exception"
  | invalidReturnType => "invalid-return-type"
  | missingRequiredField => "missing-required-field"

def all : List RunErrorKind := [timeout, exception, invalidReturnType, missingRequiredField]

def ofTag? (s : String) : Option RunErrorKind := all.find? (·.tag == s)

theorem ofTag?_tag (k : RunErrorKind) : ofTag? k.tag = some k := by cases k <;> decide

end RunErrorKind

inductive RunError where
  | timeout (budgetMs : Nat)
  | exception (message : String)
  | invalidReturnType (typeName : String)
  | missingRequiredField (field : String)
deriving DecidableEq, Repr

namespace RunError

def kind : RunError → RunErrorKind
  | timeout _ => .timeout
  | exception _ => .exception
  | invalidReturnType _ => .invalidReturnType
  | missingRequiredField _ => .missingRequiredField

def message : RunError → String
  | timeout budgetMs => "script timed out after " ++ toString budgetMs ++ "ms"
  | exception message => "script raised: " ++ message
  | invalidReturnType typeName => "script must produce a map of JSON values, got " ++ typeName
  | missingRequiredField field => "record is missing required field '" ++ field ++ "'"

def isTimeout (e : RunError) : Bool := e.kind == .timeout

end RunError

/-! ### Failures around a run -/

inductive EngineError where
  | rejected (reason : Rejection)
  | configuration (message : String)
  | serialization (message : String)
  | invalidArgument (message : String)
deriving DecidableEq, Repr

namespace EngineError

def message : EngineError → String
  | rejected reason => "script rejected: " ++ reason.message
  | configuration message => "Configuration error: " ++ message
  | serialization message => "Serialization error: " ++ message
  | invalidArgument message => "Invalid argument: " ++ message

def isRejection : EngineError → Bool
  | rejected _ => true
  | _ => false

def isConfiguration : EngineError → Bool
  | configuration _ => true
  | _ => false

def isSerialization : EngineError → Bool
  | serialization _ => true
  | _ => false

end EngineError

/-! ### Results -/

/-- What passes a test has not failed. -/
theorem exists_ok_of_any {ε α : Type} {x : Except ε α} {test : α → Bool} (h : x.toOption.any test = true) :
    ∃ a, x = .ok a ∧ test a = true := by
  cases x with
  | error e => cases h
  | ok a => exact ⟨a, rfl, h⟩

end Sandscript
