import Sandscript.Syntax.Position

/-!
# Syntax errors

What can be wrong with the text of a script, and how it is said.
-/

namespace Sandscript

inductive SyntaxFault where
  -- characters that form no token
  | unexpected (text : String)
  | openString
  | badEscape (text : String)
  | badNumber (text : String)
  | badCharacter (text : String)
  | badName (text : String)
  | stringTooLong (limit : Nat)
  | improper (symbol note : String)
  -- tokens that form no script
  | unknownOperator (text : String)
  | reserved (word : String)
  | missing (token purpose : String)
  | expressionExpected (kind : String)
  | mismatch (expected found : String)
  | badIndex (reason : String)
  | incomplete
  | variableExpected
  | propertyExpected
  | functionNameExpected
  | parametersExpected (function : String)
  | bodyExpected (function : String)
  | duplicateFunction (function : String) (parameters : Nat)
  | duplicateParameter (function parameter : String)
  | duplicateProperty (name : String)
  | duplicateVariable (name : String)
  | defaultNotLast
  | conditionalDefault
  | numberAfterRange
  | misplacedFunction
  | misplacedExport
  | misplacedBreak
  | constantAssigned (name : String)
  | notAssignable
  | scopeCapture (reason : String)
  | tooDeep
  | literalTooLarge (kind : String) (limit : Nat)
deriving DecidableEq, Repr

namespace SyntaxFault

private def parameterCount : Nat → String
  | 0 => "no parameters"
  | 1 => "1 parameter"
  | n => toString n ++ " parameters"

/-- A word, as opposed to a symbol: letters, digits and underscores with a letter in front of any digit. -/
def isWord (s : String) : Bool :=
  match s.toList.dropWhile (· == '_') with
  | c :: rest => c.isAlpha && rest.all fun d => d.isAlphanum || d == '_'
  | [] => false

def message : SyntaxFault → String
  | unexpected text => "Unexpected '" ++ text ++ "'"
  | openString => "Open string is not terminated"
  | badEscape text => "Invalid escape sequence: '" ++ text ++ "'"
  | badNumber text => "Invalid number: '" ++ text ++ "'"
  | badCharacter text => "Invalid character: '" ++ text ++ "'"
  | badName text => "Variable name is not proper: '" ++ text ++ "'"
  | stringTooLong limit => "Length of string exceeds the maximum limit (" ++ toString limit ++ ")"
  | improper symbol note => if note.isEmpty then "Invalid symbol encountered: '" ++ symbol ++ "'" else note
  | unknownOperator text => "Unknown operator: '" ++ text ++ "'"
  | reserved word => "'" ++ word ++ "' is a reserved " ++ (if isWord word then "keyword" else "symbol")
  | missing token purpose => "Expecting '" ++ token ++ "' " ++ purpose
  | expressionExpected kind => "Expecting " ++ kind ++ " expression"
  | mismatch expected found => "Expecting " ++ expected ++ ", not " ++ found
  | badIndex reason => reason
  | incomplete => "Script is incomplete"
  | variableExpected => "Expecting name of a variable"
  | propertyExpected => "Expecting name of a property"
  | functionNameExpected => "Expecting function name in function declaration"
  | parametersExpected function => "Expecting parameters for function " ++ function
  | bodyExpected function => "Expecting body statement block for function " ++ function
  | duplicateFunction function n => "Function " ++ function ++ " with " ++ parameterCount n ++ " already exists"
  | duplicateParameter function parameter =>
    "Duplicated parameter " ++ parameter ++ " for function " ++ function
  | duplicateProperty name => "Duplicated property for object map literal: " ++ name
  | duplicateVariable name => "Duplicated variable name: " ++ name
  | defaultNotLast => "Default switch case must be the last"
  | conditionalDefault => "This switch case cannot have a condition"
  | numberAfterRange => "Numeric switch case cannot follow a range case"
  | misplacedFunction =>
    "Function definitions must be at global level and cannot be inside a block or another function"
  | misplacedExport => "Export statement can only appear at global level"
  | misplacedBreak => "Break statement should only be used inside a loop"
  | constantAssigned name =>
    if name.isEmpty then "Cannot assign to a constant value" else "Cannot assign to constant " ++ name
  | notAssignable => "Expression cannot be assigned to"
  | scopeCapture reason => reason
  | tooDeep => "Expression exceeds maximum complexity"
  | literalTooLarge kind limit => kind ++ " exceeds the maximum limit (" ++ toString limit ++ ")"

end SyntaxFault

structure SyntaxError where
  fault : SyntaxFault
  position : Position
deriving DecidableEq, Repr

namespace SyntaxError

def message (e : SyntaxError) : String := e.fault.message ++ e.position.suffix

end SyntaxError

end Sandscript
