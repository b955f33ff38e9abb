import Sandscript.Errors
import Sandscript.Names
import Sandscript.Policy.Basic
import Sandscript.Script
import Sandscript.Syntax.Parser

/-!
# Validation

A script is checked before it runs: its size, its syntax, and every use it makes of what the policy has an opinion on.
`Program.uses` lists these uses in the order in which the tree is walked, parents before their parts and functions
behind the main statements.  The walk does not enter the value of a `break`, and a subscript counts only as the last
link of its chain.
-/

namespace Sandscript

/-- What a policy has an opinion on. -/
inductive Construct where
  | importing
  | exporting
  /-- A closure that uses a variable of the scopes around it. -/
  | captured
  | call (name : String)
  | method (name : String)
  /-- A function named by a literal where a callback is expected. -/
  | callback (name : String)
  | property (name : String)
  /-- A subscript with a literal key. -/
  | subscript (key : String)
deriving DecidableEq, Repr

structure Use where
  construct : Construct
  position : Position
deriving DecidableEq, Repr

/-! ### The walk -/

def literalText? : Expr → Option String
  | .literal _ (.str s) => some s
  | _ => none

/-- A call of `name`; a literal given to a function that takes callbacks counts as a call of what it names. -/
def Construct.ofCall (plain : Construct) (name : String) (args : List Expr) : Construct :=
  if Names.callbackFunctions.contains name then
    match args.findSome? literalText? with
    | some target => .callback target
    | none => plain
  else plain

mutual

def Expr.uses : Expr → List Use
  | .literal .. | .var .. | .qualified .. | .this _ => []
  | .capture p _ _ => [⟨.captured, p⟩]
  | .text _ pieces => usesAll pieces
  | .array _ items => usesAll items
  | .map _ entries => usesEntries entries
  | .unary _ _ arg => arg.uses
  | .binary _ _ lhs rhs => lhs.uses ++ rhs.uses
  | .call p _ name _ args => ⟨.ofCall (.call name) name args, p⟩ :: usesAll args
  | .chain _ root links => usesLinks root.uses links
  | .statement s => s.uses

def usesAll : List Expr → List Use
  | [] => []
  | e :: rest => e.uses ++ usesAll rest

def usesEntries : List (String × Expr) → List Use
  | [] => []
  | (_, e) :: rest => e.uses ++ usesEntries rest

/-- The uses in a chain of which `before` are those of the part in front of the links. -/
def usesLinks (before : List Use) : List Link → List Use
  | [] => before
  | [.index p _ (.literal _ (.str key))] => ⟨.subscript key, p⟩ :: before
  | l :: rest => before ++ usesLinks l.uses rest

def Link.uses : Link → List Use
  | .property _ p _ name => [⟨.property name, p⟩]
  | .index _ _ key => key.uses
  | .method _ p _ name args => ⟨.ofCall (.method name) name args, p⟩ :: usesAll args

def Stmt.uses : Stmt → List Use
  | .expr e => e.uses
  | .declare _ _ _ _ value => usesOption value
  | .assign _ _ target value => target.uses ++ value.uses
  | .block _ body => usesBody body
  | .ifElse _ condition yes no => condition.uses ++ usesBody yes ++ usesBody no
  | .switch _ subject cases otherwise => subject.uses ++ usesCases cases ++ usesDefault otherwise
  | .whileLoop _ condition _ body => usesOption condition ++ usesBody body
  | .doWhile _ _ body condition => condition.uses ++ usesBody body
  | .forIn _ _ _ source _ body => source.uses ++ usesBody body
  | .breakLoop .. | .continueLoop _ => []
  | .returnValue _ value => usesOption value
  | .throwValue _ value => usesOption value
  | .tryCatch _ body _ handler => usesBody body ++ usesBody handler
  | .importModule p path _ => ⟨.importing, p⟩ :: path.uses
  | .exportName p _ _ => [⟨.exporting, p⟩]

def usesBody : List Stmt → List Use
  | [] => []
  | s :: rest => s.uses ++ usesBody rest

def usesOption : Option Expr → List Use
  | none => []
  | some e => e.uses

def usesDefault : Option Stmt → List Use
  | none => []
  | some s => s.uses

/-- A case without a label is never taken and not walked. -/
def usesCases : List Case → List Use
  | [] => []
  | .mk [] _ _ :: rest => usesCases rest
  | .mk (_ :: _) guard action :: rest => usesOption guard ++ action.uses ++ usesCases rest

end

def Program.uses (p : Program) : List Use := usesBody p.main ++ p.functions.flatMap fun f => usesBody f.body

/-! ### The verdict -/

def capturedText : String :=
  "closure capturing an outer variable (closures may only use their parameters; use a `for` loop or pass the value " ++
    "to a function instead)"

/-- Why a use is refused. -/
def Use.rejection? (u : Use) : Option Rejection :=
  let line := u.position.line?
  match u.construct with
  | .importing => some (.forbiddenConstruct "import statement" line)
  | .exporting => some (.forbiddenConstruct "export statement" line)
  | .captured => some (.forbiddenConstruct capturedText line)
  | .call name | .method name | .callback name =>
    if Names.isForbiddenCall name then some (.forbiddenCall name line) else none
  | .property name | .subscript name =>
    if Names.isForbiddenAttribute name then some (.forbiddenAttribute name line) else none

/-- Checks the scripts of a policy. -/
structure Validator where
  maxScriptBytes : Nat
  guards : Guards

namespace Validator

def ofPolicy (p : Policy) : Validator := ⟨p.maxScriptBytes.toNat, p.guards⟩

/-- The parser of the check: only nesting is limited, and no word is taken out of the language. -/
def parserLimits (v : Validator) : ParserLimits :=
  { maxDepth := v.guards.maxExprDepth.toNat, maxFunctionDepth := v.guards.maxFnExprDepth.toNat }

def validate (v : Validator) (script : Script) : Except Rejection Unit :=
  if script.isBlank then .error .empty
  else if v.maxScriptBytes < script.size then .error (.tooLarge script.size v.maxScriptBytes)
  else
    match Program.parse v.parserLimits script.source with
    | .error e => .error (.syntaxError e.message)
    | .ok program =>
      match program.uses.findSome? Use.rejection? with
      | some r => .error r
      | none => .ok ()

end Validator

end Sandscript
