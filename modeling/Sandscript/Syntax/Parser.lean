import Sandscript.Syntax.Lexer
import Sandscript.Syntax.Tree

/-!
# From tokens to trees

The parser reads one token ahead.  Every statement and every expression stands on a level of nesting, and a script that
nests too deeply is refused at the place where the level would be passed.  Names are looked up while parsing: a closure
that uses a name of the scopes around it is a capture, and a constant cannot be assigned to.

The grammar is written as one step over the parsers of the parts of a construct; `grammar` iterates the step as often
as there may be tokens.
-/

namespace Sandscript

/-- What the parser of a backend admits.  Zero means no limit. -/
structure ParserLimits where
  lexer : Lexer.Limits := {}
  maxArray : Nat := 0
  maxMap : Nat := 0
  maxDepth : Nat := 64
  maxFunctionDepth : Nat := 32

namespace Parser

/-! ### State -/

/-- A name in scope. -/
structure Entry where
  name : String
  constant : Bool

structure State where
  rest : List Located
  /-- The functions so far, the last first. -/
  functions : List FunctionDef := []
  /-- The names in scope, the innermost first. -/
  scope : List Entry := []
  /-- Names used but not found in scope, the last first. -/
  outer : List String := []
  /-- The number of tokens of the script. -/
  size : Nat

abbrev Parse := StateT State (Except SyntaxError)

/-- Where in a script the parser is. -/
structure Setting where
  limits : ParserLimits
  level : Nat := 0
  maxLevel : Nat
  position : Position := ⟨1, 0⟩
  isGlobal : Bool := true
  inFunction : Bool := false
  inLoop : Bool := false
  /-- `|` ends an expression. -/
  barEnds : Bool := false

def fail {α : Type} (fault : SyntaxFault) (position : Position) : Parse α := throw ⟨fault, position⟩

def missing {α : Type} (token purpose : String) (position : Position) : Parse α :=
  fail (.missing token purpose) position

/-- Refuses a construct with more parts than the script has tokens, which no construct has. -/
def endless {α : Type} : Parse α := fail .incomplete .none

def peek : Parse Located := do
  match (← get).rest with
  | t :: _ => return t
  | [] => return ⟨.finish, .none⟩

/-- Takes the next token; the end of the script stays. -/
def take : Parse Located := do
  let s ← get
  match s.rest with
  | t :: r :: rest => do
    set { s with rest := r :: rest }
    return t
  | [t] => return t
  | [] => return ⟨.finish, .none⟩

def drop : Parse Unit := do let _ ← take

/-- Takes the next token if it is the given one. -/
def accept (t : Token) : Parse Bool := do
  if (← peek).token = t then do
    drop
    return true
  else return false

/-- Takes the given token; if another stands there, the script is refused for what `purpose` says. -/
def require (t : Token) (purpose : String) : Parse Unit := do
  let next ← take
  if next.token = t then return
  match next.token with
  | .bad fault => fail fault next.position
  | _ => missing t.spelling purpose next.position

/-- One level deeper. -/
def Setting.deeper (s : Setting) : Parse Setting :=
  if 0 < s.maxLevel ∧ s.maxLevel < s.level + 1 then fail .tooDeep s.position
  else return { s with level := s.level + 1 }

def Setting.move (s : Setting) (p : Position) : Setting := { s with position := p }

def enter (name : String) (constant : Bool) : Parse Unit :=
  modify fun s => { s with scope := ⟨name, constant⟩ :: s.scope }

/-- Parses with a scope of its own inside the current one. -/
def withScope {α : Type} (p : Parse α) : Parse α := do
  let outside := (← get).scope
  let a ← p
  modify fun s => { s with scope := outside }
  return a

def find? (name : String) : Parse (Option Entry) := do return (← get).scope.find? (·.name == name)

/-- Notes the use of a variable. -/
def noteUse (name : String) : Parse Unit := do
  let s ← get
  if s.scope.any (·.name == name) || s.functions.any (·.name == name) || s.outer.contains name then return
  set { s with outer := name :: s.outer }

/-! ### Shapes of expressions -/

/-- Why an expression cannot be a condition. -/
def notBool? : Expr → Option String
  | .literal _ v =>
    match v with
    | .bool _ => none
    | .int _ => some "a number"
    | .float _ => some "a floating-point number"
    | .char _ => some "a character"
    | .str _ => some "a string"
    | v => some v.typeName
  | .text .. => some "a string"
  | .array .. => some "an array"
  | .map .. => some "an object map"
  | _ => none

/-- Why an expression cannot be iterated over. -/
def notIterable? : Expr → Option String
  | .literal _ v =>
    match v with
    | .str _ | .arr _ | .range _ _ | .rangeIncl _ _ | .fn _ _ => none
    | .bool _ => some "a boolean"
    | .int _ => some "a number"
    | .float _ => some "a floating-point number"
    | .char _ => some "a character"
    | v => some v.typeName
  | .map .. => some "an object map"
  | _ => none

def requireBool (e : Expr) : Parse Expr :=
  match notBool? e with
  | some found => fail (.mismatch "a boolean expression" found) e.position
  | none => return e

mutual

/-- The value of an expression that holds only literals. -/
def constant? : Expr → Option Value
  | .literal _ v => some v
  | .array _ items => (constants? items).map .arr
  | .map _ entries => (constantEntries? entries).map fun es => .map (Fields.ofPairs es)
  | _ => none

def constants? : List Expr → Option (List Value)
  | [] => some []
  | e :: rest =>
    match constant? e, constants? rest with
    | some v, some vs => some (v :: vs)
    | _, _ => none

def constantEntries? : List (String × Expr) → Option (List (String × Value))
  | [] => some []
  | (k, e) :: rest =>
    match constant? e, constantEntries? rest with
    | some v, some vs => some ((k, v) :: vs)
    | _, _ => none

end

/-- The bound of a range that a literal stands for; `()` leaves the range open. -/
def bound? (open' : Int64) : Expr → Option Int64
  | .literal _ (.int n) => some n
  | .literal _ .unit => some open'
  | _ => none

/-- What a switch case may be compared with: a literal, or a range of integers. -/
def label? : Expr → Option Label
  | .binary _ .range lo hi =>
    match bound? 0 lo, bound? Int64.maxValue hi with
    | some lo, some hi => some (.range lo hi false)
    | _, _ => none
  | .binary _ .rangeIncl lo hi =>
    match bound? 0 lo, bound? Int64.maxValue hi with
    | some lo, some hi => some (.range lo hi true)
    | _, _ => none
  | e => (constant? e).map .value

def Label.isEmpty : Label → Bool
  | .value _ => false
  | .range lo hi inclusive => if inclusive then hi < lo else hi ≤ lo

/-- A statement that ends without a semicolon. -/
def endsItself : Stmt → Bool
  | .ifElse .. | .switch .. | .whileLoop .. | .forIn .. | .tryCatch .. | .block .. => true
  | _ => false

/-- What kind of literal an expression is, as far as subscripts are concerned. -/
def keyKind? : Expr → Option String
  | .literal _ (.int _) => some "a number"
  | .literal _ (.str _) | .text .. => some "a string"
  | .literal _ (.float _) => some "a float"
  | .literal _ (.char _) => some "a character"
  | .literal _ .unit => some "()"
  | .literal _ (.bool _) | .binary _ .and _ _ | .binary _ .or _ _ => some "a boolean"
  | _ => none

/-- Why a literal cannot be a subscript of a literal. -/
def indexMisfit? (root key : Expr) : Option String :=
  match root with
  | .map .. =>
    match keyKind? key with
    | none | some "a string" => none
    | some kind => some ("Object map expects string index, not " ++ kind)
  | .literal _ (.int _) | .literal _ (.str _) | .array .. | .text .. =>
    match keyKind? key with
    | none | some "a number" => none
    | some "a string" => some "Array, string or bit-field expects numeric index, not a string"
    | some kind => some ("Array, string or bit-field expects integer index, not " ++ kind)
  | _ => none

/-! ### Names -/

/-- The name of a variable. -/
def variableName : Parse (String × Position) := do
  let t ← take
  match t.token with
  | .name s => return (s, t.position)
  | .reserved s => if SyntaxFault.isWord s then fail (.reserved s) t.position else fail .variableExpected t.position
  | .bad fault => fail fault t.position
  | _ => fail .variableExpected t.position

/-! ### The grammar -/

/-- The parsers of the parts of a construct. -/
structure Grammar where
  expr : Setting → Parse Expr
  unary : Setting → Parse Expr
  binary : Setting → Nat → Expr → Parse Expr
  /-- A primary expression with its links; the flag tells whether it follows a period. -/
  primary : Setting → Bool → Parse Expr
  stmt : Setting → Parse (Option Stmt)
  ifElse : Setting → Parse Stmt
  subscripts : Setting → Expr → Bool → Parse (List Link)

section step

variable (g : Grammar)

/-- A condition, which must not be a block, an assignment or a literal of another type. -/
def condition (s : Setting) : Parse Expr := do
  refuseBlock
  let e ← g.expr s >>= requireBool
  let next ← peek
  match next.token with
  | .symbol .assign => fail (.improper "=" "Possibly a typo of '=='?") next.position
  | _ => return e
where
  refuseBlock : Parse Unit := do
    let next ← peek
    match next.token with
    | .symbol .leftBrace => fail (.expressionExpected "a boolean") next.position
    | .finish => fail .incomplete next.position
    | _ => return

def statementsFrom (s : Setting) : Nat → List Stmt → Parse (List Stmt)
  | 0, _ => endless
  | n + 1, done => do
    let next ← peek
    match next.token with
    | .symbol .rightBrace => do
      drop
      return done.reverse
    | .finish => missing "\x7d" "to terminate this block" next.position
    | _ =>
      match ← g.stmt s with
      | none => statementsFrom s n done
      | some stmt =>
        let next ← peek
        match next.token with
        | .symbol .rightBrace => do
          drop
          return (stmt :: done).reverse
        | .symbol .semicolon => do
          drop
          statementsFrom s n (stmt :: done)
        | t =>
          if endsItself stmt then statementsFrom s n (stmt :: done)
          else
            match t with
            | .bad fault => fail fault next.position
            | _ => missing ";" "to terminate this statement" next.position

/-- The place of the opening brace, and the statements up to the closing one. -/
def blockWithPlace (s : Setting) : Parse (Position × List Stmt) := do
  let first ← take
  match first.token with
  | .symbol .leftBrace => do
    let s ← s.deeper
    let body ← withScope (statementsFrom g { s.move first.position with isGlobal := false } (← get).size [])
    return (first.position, body)
  | .bad fault => fail fault first.position
  | _ => missing "\x7b" "to start a statement block" first.position

def block (s : Setting) : Parse (List Stmt) := do return (← blockWithPlace g s).2

def arrayItems (s : Setting) : Nat → List Expr → Parse (List Expr)
  | 0, _ => endless
  | n + 1, done => do
    let next ← peek
    if 0 < s.limits.maxArray ∧ s.limits.maxArray ≤ done.length then
      fail (.literalTooLarge "Size of array literal" s.limits.maxArray) next.position
    match next.token with
    | .symbol .rightBracket => do
      drop
      return done.reverse
    | .finish => missing "]" "to end this array literal" next.position
    | _ =>
      let item ← g.expr s
      let next ← peek
      match next.token with
      | .symbol .comma => do
        drop
        arrayItems s n (item :: done)
      | .symbol .rightBracket => arrayItems s n (item :: done)
      | .finish => missing "]" "to end this array literal" next.position
      | .bad fault => fail fault next.position
      | _ => missing "," "to separate the items of this array literal" next.position

def mapEntries (s : Setting) : Nat → List (String × Expr) → Parse (List (String × Expr))
  | 0, _ => endless
  | n + 1, done => do
    let unended := "to end this object map literal"
    let first ← take
    let name ← match first.token with
      | .symbol .rightBrace => return done.reverse
      | .finish => missing "\x7d" unended first.position
      | .name name | .str name =>
        if done.any (·.1 == name) then fail (.duplicateProperty name) first.position else pure name
      | .openStr _ => fail .propertyExpected first.position
      | .bad fault => fail fault first.position
      | .reserved word =>
        if SyntaxFault.isWord word then fail (.reserved word) first.position
        else other done first.position
      | _ => other done first.position
    require (.symbol .colon) ("to follow the property '" ++ name ++ "' in this object map literal")
    if 0 < s.limits.maxMap ∧ s.limits.maxMap ≤ done.length then
      fail (.literalTooLarge "Number of properties in object map literal" s.limits.maxMap) (← peek).position
    let value ← g.expr s
    let next ← peek
    match next.token with
    | .symbol .comma => do
      drop
      mapEntries s n ((name, value) :: done)
    | .symbol .rightBrace => mapEntries s n ((name, value) :: done)
    | .name _ => missing "," "to separate the items of this object map literal" next.position
    | .bad fault => fail fault next.position
    | _ => missing "\x7d" unended next.position
where
  other (done : List (String × Expr)) (p : Position) : Parse String :=
    if done.isEmpty then missing "\x7d" "to end this object map literal" p else fail .propertyExpected p

def callArguments (s : Setting) (name : String) : Nat → List Expr → Parse (List Expr)
  | 0, _ => endless
  | n + 1, done => do
    let args ← match (← peek).token with
      | .symbol .rightParen => pure done
      | _ => pure ((← g.expr s) :: done)
    let next ← peek
    match next.token with
    | .symbol .rightParen => do
      drop
      return args.reverse
    | .symbol .comma => do
      drop
      callArguments s name n args
    | .finish => missing ")" ("to close the arguments list of this function call '" ++ name ++ "'") next.position
    | .bad fault => fail fault next.position
    | _ => missing "," ("to separate the arguments to function call '" ++ name ++ "'") next.position

/-- The arguments behind an opening parenthesis. -/
def arguments (s : Setting) (name : String) : Parse (List Expr) := do
  let next ← peek
  match next.token with
  | .finish => missing ")" ("to close the arguments list of this function call '" ++ name ++ "'") next.position
  | .bad fault => fail fault next.position
  | .symbol .rightParen => do
    drop
    return []
  | _ => callArguments g s name (← get).size []

def textPieces (s : Setting) : Nat → List Expr → Parse (List Expr)
  | 0, _ => endless
  | n + 1, done => do
    let (p, body) ← blockWithPlace g s
    let done := .statement (.block p body) :: done
    let next ← take
    match next.token with
    | .str text => return (if text.isEmpty then done else .literal next.position (.str text) :: done).reverse
    | .openStr text =>
      textPieces s n (if text.isEmpty then done else .literal next.position (.str text) :: done)
    | .bad fault => fail fault next.position
    | _ => fail .openString next.position

/-- The parameters of a function or closure, up to the token `close`. -/
def parameters (close : Token) (function purpose separating : String) :
    Nat → List String → Parse (List String)
  | 0, _ => endless
  | n + 1, done => do
    let first ← take
    if first.token = close then return done.reverse
    let name ← match first.token with
      | .name name =>
        if done.contains name then fail (.duplicateParameter function name) first.position else pure name
      | .bad fault => fail fault first.position
      | .reserved word => fail (.reserved word) first.position
      | .keyword _ | .operator .within => fail .variableExpected first.position
      | _ => missing close.spelling purpose first.position
    enter name false
    let next ← take
    if next.token = close then return (name :: done).reverse
    match next.token with
    | .symbol .comma => parameters close function purpose separating n (name :: done)
    | .bad fault => fail fault next.position
    | _ => missing "," separating next.position

/-- Parses a function with a scope of its own; the names it uses from outside are returned with the result. -/
def isolated {α : Type} (p : Parse α) : Parse (α × List String) := do
  let outside ← get
  set { outside with scope := [], outer := [] }
  let a ← p
  let inside ← get
  set { inside with scope := outside.scope, outer := outside.outer }
  return (a, inside.outer.reverse)

/-- A closure; its first token has not been taken. -/
def closure (s : Setting) : Parse Expr := do
  let position := s.position
  let inner := { s with maxLevel := s.limits.maxFunctionDepth, isGlobal := false, inFunction := true, inLoop := false,
                        barEnds := false }
  let inner ← inner.deeper
  let ((params, body), outer) ← isolated do
    let first ← take
    let params ←
      if first.token = .operator .or then pure []
      else
        parameters (.operator .bor) "" "to close the parameters list of anonymous function or closure"
          "to separate the parameters of anonymous function" (← get).size []
    let body ← match ← g.stmt inner with
      | none => pure []
      | some (.block _ body) => pure body
      | some stmt => pure [stmt]
    return (params, body)
  outer.forM noteUse
  let name := "anon$" ++ toString (← get).functions.length
  modify fun st =>
    { st with functions := ⟨name, outer ++ params, body, true⟩ :: st.functions }
  return if outer.isEmpty then .literal position (.fn name []) else .capture position name outer

/-- A named function behind `fn`, whose place is the position of the setting. -/
def functionDef (s : Setting) : Parse Unit := do
  let first ← take
  let name ← match first.token with
    | .name name => pure name
    | .reserved word => fail (.reserved word) first.position
    | _ => fail .functionNameExpected first.position
  let (params, body) ← Prod.fst <$> isolated do
    let next ← peek
    let params ← match next.token with
      | .symbol .emptyParens => do
        drop
        pure []
      | .symbol .leftParen => do
        drop
        parameters (.symbol .rightParen) name ("to close the parameters list of function '" ++ name ++ "'")
          ("to separate the parameters of function '" ++ name ++ "'") (← get).size []
      | _ => fail (.parametersExpected name) next.position
    let next ← peek
    match next.token with
    | .symbol .leftBrace => return (params, ← block g s)
    | _ => fail (.bodyExpected name) next.position
  if (← get).functions.any fun f => f.name == name && f.parameters.length == params.length then
    fail (.duplicateFunction name params.length) s.position
  modify fun st => { st with functions := ⟨name, params, body, false⟩ :: st.functions }

/-! #### Statements -/

/-- A label of a case; whatever is wrong with it, it is no literal. -/
def switchLabel (s : Setting) : Parse Expr := fun st =>
  match g.expr { s with barEnds := true } st with
  | .ok r => .ok r
  | .error e => .error ⟨.expressionExpected "literal", e.position⟩

def switchLabels (s : Setting) : Nat → List Expr → Parse (List Expr)
  | 0, _ => endless
  | n + 1, done => do
    let e ← switchLabel g s
    if ← accept (.operator .bor) then switchLabels s n (e :: done) else return (e :: done).reverse

/-- The values that the labels of a case stand for.  `ranges` tells whether a range has come before. -/
def labelsOf : List Expr → Bool → List Label → Parse (List Label × Bool)
  | [], ranges, done => return (done.reverse, ranges)
  | e :: rest, ranges, done =>
    match label? e with
    | none => fail (.expressionExpected "a literal") e.position
    | some (.range lo hi inclusive) =>
      let l := Label.range lo hi inclusive
      if Label.isEmpty l then labelsOf rest ranges done else labelsOf rest true (l :: done)
    | some (.value v) =>
      match ranges, v with
      | true, .int _ | true, .float _ => fail .numberAfterRange e.position
      | _, _ => labelsOf rest ranges (.value v :: done)

structure Cases where
  done : List Case := []
  otherwise : Option Stmt := none
  defaultPlace : Position := .none
  ranges : Bool := false

def switchCases (s : Setting) : Nat → Cases → Parse Cases
  | 0, _ => endless
  | n + 1, c => do
    let unended := "to end this switch block"
    let next ← peek
    match next.token with
    | .symbol .rightBrace => do
      drop
      return c
    | .finish => missing "\x7d" unended next.position
    | t =>
      let isDefault := t = .symbol .underscore && c.otherwise.isNone
      let (labels, guard) ←
        if isDefault then do
          drop
          let after ← peek
          if after.token = .keyword .ifKw then fail .conditionalDefault after.position
          pure ([], none)
        else if c.otherwise.isSome then fail .defaultNotLast c.defaultPlace
        else do
          let labels ← switchLabels g s (← get).size []
          let guard ← if ← accept (.keyword .ifKw) then some <$> condition g s else pure none
          pure (labels, guard)
      require (.symbol .arrow) "in this switch case"
      let parsed ← g.stmt s
      let action := parsed.getD (.block .none [])
      let c ←
        if isDefault then pure { c with otherwise := some action, defaultPlace := next.position }
        else do
          let (labels, ranges) ← labelsOf labels c.ranges []
          pure { c with done := .mk labels guard action :: c.done, ranges }
      let after ← peek
      match after.token with
      | .symbol .comma => do
        drop
        switchCases s n c
      | .symbol .rightBrace => switchCases s n c
      | .finish => missing ")" unended after.position
      | .bad fault => fail fault after.position
      | _ =>
        if (parsed.map endsItself).getD false then switchCases s n c
        else missing "," "to separate the items in this switch block" after.position

def switch (s : Setting) : Parse Stmt := do
  let s ← s.deeper
  drop
  let subject ← g.expr s
  require (.symbol .leftBrace) "to start a switch block"
  let c ← switchCases g s (← get).size {}
  return .switch s.position subject c.done.reverse c.otherwise

def whileLoop (s : Setting) : Parse Stmt := do
  let s ← s.deeper
  let first ← take
  let guard ← if first.token = .keyword .whileKw then some <$> condition g s else pure none
  let (place, body) ← blockWithPlace g { s with inLoop := true }
  return .whileLoop s.position guard place body

def doLoop (s : Setting) : Parse Stmt := do
  let s ← s.deeper
  drop
  let body ← block g { s with inLoop := true }
  let next ← take
  let repeats ← match next.token with
    | .keyword .whileKw => pure true
    | .keyword .untilKw => pure false
    | _ => missing "while" "for the do statement" next.position
  return .doWhile s.position repeats body (← condition g s)

def forLoop (s : Setting) : Parse Stmt := do
  let s ← s.deeper
  drop
  let (item, counter) ←
    if ← accept (.symbol .leftParen) then do
      let (item, _) ← variableName
      let next ← peek
      if !(← accept (.symbol .comma)) then missing "," "after the iteration variable name" next.position
      let (counter, p) ← variableName
      if counter == item then fail (.duplicateVariable counter) p
      let next ← peek
      if !(← accept (.symbol .rightParen)) then missing ")" "to close the iteration variable" next.position
      pure (item, some counter)
    else do pure ((← variableName).1, none)
  require (.operator .within) "after the iteration variable"
  condition.refuseBlock
  let source ← g.expr s
  if let some found := notIterable? source then fail (.mismatch "an iterable value" found) source.position
  let (place, body) ← withScope do
    counter.forM (enter · false)
    enter item false
    blockWithPlace g { s with inLoop := true }
  return .forIn s.position item counter source place body

def ifElseStep (s : Setting) : Parse Stmt := do
  let s ← (s.move (← peek).position).deeper
  drop
  let test ← condition g s
  let yes ← block g s
  let no ←
    if ← accept (.keyword .elseKw) then
      if (← peek).token = .keyword .ifKw then do pure [← g.ifElse s] else block g s
    else pure []
  return .ifElse s.position test yes no

def declaration (s : Setting) (exported constant : Bool) : Parse Stmt := do
  let s ← s.deeper
  drop
  let (name, _) ← variableName
  let value ← if ← accept (.symbol .assign) then some <$> g.expr s else pure none
  enter name constant
  return .declare s.position exported constant name value

def importModule (s : Setting) : Parse Stmt := do
  let s ← s.deeper
  drop
  let path ← g.expr s
  let newName ← if ← accept (.keyword .asKw) then do pure (some (← variableName).1) else pure none
  return .importModule s.position path newName

def exportName (s : Setting) : Parse Stmt := do
  let s ← s.deeper
  drop
  let next ← peek
  match next.token with
  | .keyword .letKw => declaration g (s.move next.position) true false
  | .keyword .constKw => declaration g (s.move next.position) true true
  | _ => do
    let (name, _) ← variableName
    let newName ← if ← accept (.keyword .asKw) then do pure (some (← variableName).1) else pure none
    return .exportName s.position name newName

def tryCatch (s : Setting) : Parse Stmt := do
  let s ← s.deeper
  drop
  let body ← block g s
  let catchPlace := (← peek).position
  if !(← accept (.keyword .catchKw)) then missing "catch" "for the 'try' statement" catchPlace
  let error ←
    if ← accept (.symbol .leftParen) then do
      let (name, _) ← variableName
      let next ← peek
      if !(← accept (.symbol .rightParen)) then missing ")" "to enclose the catch variable" next.position
      pure (some name)
    else pure none
  let handler ← withScope do
    error.forM (enter · false)
    block g (s.move catchPlace)
  return .tryCatch s.position body error handler

/-- A value behind `return`, `throw` or `break`, if one stands there. -/
def optionalValue (s : Setting) (closes : Bool) : Parse (Option Expr) := do
  match (← peek).token with
  | .finish | .symbol .semicolon | .symbol .comma => return none
  | .symbol .rightBrace => if closes then return none else some <$> (s.deeper >>= g.expr)
  | _ => some <$> (s.deeper >>= g.expr)

/-! #### Assignments -/

/-- The place of the first link that cannot be assigned through. -/
def unassignable? : List Link → Option Position
  | [] => none
  | [.method _ p ..] => some p
  | [_] => none
  | .method _ p .. :: _ => some p
  | _ :: rest => unassignable? rest

def checkTarget (op : Option BinaryOp) (opPlace : Position) (target : Expr) : Parse Unit := do
  match target with
  | .this _ | .qualified .. => return
  | .var p name =>
    match ← find? name with
    | some ⟨_, true⟩ => fail (.constantAssigned name) p
    | _ => return
  | .chain _ root links =>
    match unassignable? links with
    | some p => fail .notAssignable p
    | none =>
      match root with
      | .var .. | .this _ | .qualified .. => return
      | _ => fail .notAssignable root.position
  | .binary _ .and .. | .binary _ .or .. | .binary _ .coalesce .. =>
    if op.isNone then fail (.improper "=" "Possibly a typo of '=='?") opPlace else fail .notAssignable target.position
  | _ =>
    if (constant? target).isSome then fail (.constantAssigned "") target.position
    else fail .notAssignable target.position

def expressionStmt (s : Setting) : Parse Stmt := do
  let target ← g.expr s
  let next ← peek
  let assigning (op : Option BinaryOp) : Parse Stmt := do
    drop
    let value ← g.expr (s.move next.position)
    checkTarget op next.position target
    return .assign next.position op target value
  match next.token with
  | .symbol .assign => assigning none
  | .assignment op => assigning (some op)
  | _ =>
    match target with
    | .statement s => return s
    | e => return .expr e

/-- A statement; an empty one and the definition of a function are none. -/
def stmtStep (s : Setting) : Parse (Option Stmt) := do
  let next ← peek
  let s := s.move next.position
  let deeper (p : Setting → Parse Stmt) : Parse (Option Stmt) := do return some (← s.deeper >>= p)
  match next.token with
  | .finish => return none
  | .symbol .semicolon => do
    drop
    return none
  | .symbol .leftBrace => deeper fun s => do
    let (p, body) ← blockWithPlace g s
    return .block p body
  | .keyword .fnKw =>
    if s.isGlobal then do
      drop
      define s
      return none
    else fail .misplacedFunction next.position
  | .keyword .privateKw =>
    if s.isGlobal then do
      drop
      let after ← take
      match after.token with
      | .keyword .fnKw => do
        define (s.move after.position)
        return none
      | _ => missing "fn" "following 'private'" after.position
    else fail .misplacedFunction next.position
  | .keyword .ifKw => deeper (ifElseStep g)
  | .keyword .switchKw => deeper (switch g)
  | .keyword .whileKw | .keyword .loopKw => deeper (whileLoop g)
  | .keyword .doKw => deeper (doLoop g)
  | .keyword .forKw => deeper (forLoop g)
  | .keyword .continueKw =>
    if s.inLoop then do
      drop
      return some (.continueLoop next.position)
    else fail .misplacedBreak next.position
  | .keyword .breakKw =>
    if s.inLoop then do
      drop
      return some (.breakLoop next.position (← optionalValue g s true))
    else fail .misplacedBreak next.position
  | .keyword .returnKw => do
    drop
    return some (.returnValue next.position (← optionalValue g s (!s.isGlobal)))
  | .keyword .throwKw => do
    drop
    return some (.throwValue next.position (← optionalValue g s (!s.isGlobal)))
  | .keyword .tryKw => deeper (tryCatch g)
  | .keyword .letKw => deeper (declaration g · false false)
  | .keyword .constKw => deeper (declaration g · false true)
  | .keyword .importKw => deeper (importModule g)
  | .keyword .exportKw => if s.isGlobal then deeper (exportName g) else fail .misplacedExport next.position
  | _ => deeper (expressionStmt g)
where
  define (s : Setting) : Parse Unit := do
    let inner : Setting :=
      { limits := s.limits, maxLevel := s.limits.maxFunctionDepth, position := s.position, isGlobal := false,
        inFunction := true }
    functionDef g (← inner.deeper)

/-! #### Expressions -/

def isPostfix (e : Expr) (t : Token) : Bool :=
  match t, e with
  | .symbol .period, _ | .symbol .optionalPeriod, _ | .symbol .leftBracket, _ | .symbol .optionalBracket, _ => true
  | .symbol .leftParen, .var .. | .symbol .emptyParens, .var .. | .symbol .not, .var .. => true
  | .symbol .doubleColon, .var .. => true
  | .symbol .leftParen, .qualified .. | .symbol .emptyParens, .qualified .. | .symbol .not, .qualified .. => true
  | .symbol .doubleColon, .qualified .. => true
  | _, _ => false

/-- What follows a period, which stands at `op`, becomes links. -/
def linksOf (op : Position) (optional : Bool) : Expr → Parse (List Link)
  | .var p name => return [.property op p optional name]
  | .call p _ name inScope args => do
    if args.isEmpty && (name == "Fn" || name == "eval") then
      fail (.improper name ("'" ++ name ++ "' should not be called in method style. Try " ++ name ++ "(...);")) p
    if inScope then fail (.scopeCapture "method-call style does not support running within the caller's scope") p
    return [.method op p optional name args]
  | .chain _ root links => do return (← linksOf op optional root) ++ links
  | e => fail .propertyExpected e.position

def pathOf (e : Expr) : Position × Position × List String × String :=
  match e with
  | .var p name => (p, p, [], name)
  | .qualified p root path name => (p, root, path, name)
  | e => (e.position, e.position, [], "")

/-- The chain of `e` and further links.  The links of a chain in parentheses stay apart. -/
def extend (pos : Position) (open' : Bool) (e : Expr) (links : List Link) : Expr :=
  match open', e with
  | true, .chain p root before => .chain p root (before ++ links)
  | _, _ => .chain pos e links

/-- Links and calls behind an expression.  `open'` tells whether `e` is a chain that may be extended. -/
def postfixFrom (s : Setting) : Nat → Bool → Expr → Parse Expr
  | 0, _, _ => endless
  | n + 1, open', e => do
    let next ← peek
    if !isPostfix e next.token then return e
    drop
    let s := s.move next.position
    match next.token with
    | .symbol .leftParen | .symbol .emptyParens | .symbol .not => do
      let (p, _, path, name) := pathOf e
      if next.token = .symbol .not && !path.isEmpty then
        match (← peek).token with
        | .symbol .leftParen | .symbol .emptyParens => fail (.unexpected "!") next.position
        | _ => fail (.improper "!" "'!' cannot be used to call module functions") next.position
      let s ← (s.move p).deeper
      let args ← match next.token with
        | .symbol .emptyParens => pure []
        | .symbol .leftParen => arguments g s name
        | _ => do
          let after ← peek
          if ← accept (.symbol .emptyParens) then pure []
          else if ← accept (.symbol .leftParen) then arguments g s name
          else missing "(" "to start arguments list of function call" after.position
      postfixFrom s n false (.call p path name (next.token = .symbol .not) args)
    | .symbol .doubleColon => do
      let (_, root, path, name) := pathOf e
      let (member, p) ← variableName
      postfixFrom s n false (.qualified p root (path ++ [name]) member)
    | .symbol .leftBracket | .symbol .optionalBracket => do
      let links ← g.subscripts (← s.deeper) e (next.token = .symbol .optionalBracket)
      postfixFrom s n true (extend next.position open' e links)
    | _ => do
      let rest ← g.primary (← s.deeper) true
      let links ← linksOf next.position (next.token = .symbol .optionalPeriod) rest
      postfixFrom s n true (extend next.position open' e links)

/-- One subscript behind its opening bracket, and the subscripts that follow it directly. -/
def subscriptsStep (s : Setting) (root : Expr) (optional : Bool) : Parse (List Link) := do
  let key ← g.expr s
  if let some reason := indexMisfit? root key then fail (.badIndex reason) key.position
  let next ← peek
  let link := Link.index s.position optional key
  match next.token with
  | .symbol .rightBracket => do
    drop
    let after ← peek
    match after.token with
    | .symbol .leftBracket | .symbol .optionalBracket => do
      drop
      let rest ← g.subscripts (← (s.move after.position).deeper) (.this .none)
        (after.token = .symbol .optionalBracket)
      return link :: rest
    | _ => return [link]
  | .bad fault => fail fault next.position
  | _ => missing "]" "for a matching [ in this index expression" next.position

def parenthesized (s : Setting) : Parse Expr := do
  let s ← s.deeper
  drop
  let e ← g.expr s
  require (.symbol .rightParen) "for a matching ( in this expression"
  return e

def primaryStep (s : Setting) (afterPeriod : Bool) : Parse Expr := do
  let first ← peek
  let p := first.position
  let s := s.move p
  let literal (v : Value) : Parse Expr := do
    drop
    return .literal p v
  let statement (parse : Setting → Parse Stmt) : Parse Expr := do return .statement (← s.deeper >>= parse)
  if afterPeriod then
    match first.token with
    | .name _ => pure ()
    | .reserved word =>
      if Names.reservedMethods.contains word then pure () else fail (.reserved word) p
    | _ => fail .propertyExpected p
  let root ← match first.token with
    | .finish => fail .incomplete p
    | .symbol .emptyParens => literal .unit
    | .keyword .trueKw => literal (.bool true)
    | .keyword .falseKw => literal (.bool false)
    | .symbol .leftBrace => statement fun s => do
      let (p, body) ← blockWithPlace g s
      return .block p body
    | .symbol .leftParen => parenthesized g s
    | .keyword .ifKw => statement (ifElseStep g)
    | .keyword .whileKw | .keyword .loopKw => statement (whileLoop g)
    | .keyword .doKw => statement (doLoop g)
    | .keyword .forKw => statement (forLoop g)
    | .keyword .switchKw => statement (switch g)
    | .operator .bor | .operator .or => closure g s
    | .symbol .leftBracket => do
      let s ← s.deeper
      let s ← s.deeper
      drop
      pure (.array p (← arrayItems g s (← get).size []))
    | .symbol .mapStart => do
      let s ← s.deeper
      let s ← s.deeper
      drop
      pure (.map p (← mapEntries g s (← get).size []))
    | .int n => literal (.int n)
    | .float x => literal (.float x)
    | .char c => literal (.char c)
    | .str t => literal (.str t)
    | .openStr t => do
      drop
      let s ← s.deeper
      let start := if t.isEmpty then [] else [.literal p (.str t)]
      pure (.text p (← textPieces g s (← get).size start))
    | .name name => do
      drop
      let next ← peek
      match next.token with
      | .symbol .leftParen | .symbol .not | .symbol .emptyParens => pure ()
      | .symbol .doubleColon =>
        if afterPeriod then fail (.improper "::" "") next.position
      | _ => if !afterPeriod then noteUse name
      pure (.var p name)
    | .reserved word => do
      drop
      let next ← peek
      let isCall := next.token = .symbol .leftParen || next.token = .symbol .emptyParens
      if isCall && (Names.reservedFunctions.contains word || afterPeriod) then pure (.var p word)
      else if word == "this" then
        if s.inFunction then pure (.this p)
        else fail (.improper word "'this' can only be used in functions") p
      else fail (.reserved word) p
    | .bad fault => fail fault p
    | t => fail (.unexpected t.spelling) p
  postfixFrom g s (← get).size false root

def unaryStep (s : Setting) : Parse Expr := do
  let first ← peek
  let s := s.move first.position
  let operand : Parse Expr := do
    drop
    g.unary (← s.deeper)
  match first.token with
  | .sign true | .operator .sub => do
    match ← operand with
    | .literal _ (.int n) =>
      return .literal first.position (if n = Int64.minValue then .float (.ofInt (2 ^ 63)) else .int (-n))
    | .literal _ (.float x) => return .literal first.position (.float x.neg)
    | e => return .unary first.position .minus e
  | .sign false | .operator .add => do
    match ← operand with
    | .literal p (.int n) => return .literal p (.int n)
    | .literal p (.float x) => return .literal p (.float x)
    | e => return .unary first.position .plus e
  | .symbol .not => return .unary first.position .not (← operand)
  | .finish => fail .incomplete first.position
  | _ => g.primary s false

/-- The operator at the front, unless the expression ends there. -/
def operator? (s : Setting) : Parse (Option BinaryOp) := do
  let next ← peek
  match next.token with
  | .operator .bor => return if s.barEnds then none else some .bor
  | .operator op => return some op
  | .reserved text => if SyntaxFault.isWord text then return none else fail (.unknownOperator text) next.position
  | _ => return none

def isRange (op : BinaryOp) : Bool := op = .range || op = .rangeIncl

/-- Whether a range ends in front of a token without an upper bound. -/
def endsRange : Token → Bool
  | .symbol .rightBracket | .symbol .rightParen | .symbol .comma | .symbol .semicolon | .symbol .rightBrace
  | .symbol .arrow => true
  | _ => false

def leaves : Token → Bool
  | .keyword .returnKw | .keyword .throwKw | .keyword .breakKw | .keyword .continueKw => true
  | _ => false

/-- What stands behind an operator: behind `..` and `..=` it may be missing, and behind `??` it may be a statement that
leaves the place. -/
def operand (s : Setting) (op : BinaryOp) : Parse Expr := do
  let next ← peek
  if isRange op && endsRange next.token then return .literal next.position .unit
  if op = .coalesce && leaves next.token then
    match ← g.stmt s with
    | some stmt => return .statement stmt
    | none => return .literal next.position .unit
  g.unary s

/-- Operators behind `lhs` that bind more tightly than `parent`, or as tightly if they bind to the right. -/
def binaryFrom : Nat → Setting → Nat → Expr → Parse Expr
  | 0, _, _, _ => endless
  | n + 1, s, parent, lhs => do
    match ← operator? s with
    | none => return lhs
    | some op =>
      if op.precedence < parent || (op.precedence == parent && !op.bindsRight) then return lhs
      let place := (← take).position
      let rhs ← operand g s op
      let rhs ← match ← operator? s with
        | some next =>
          if op.precedence < next.precedence || (op.precedence == next.precedence && op.bindsRight) then
            g.binary s op.precedence rhs
          else pure rhs
        | none => pure rhs
      let s ← s.deeper
      if op = .and || op = .or then do
        let _ ← requireBool lhs
        let _ ← requireBool rhs
      binaryFrom n (s.move place) parent (.ofOperator place op lhs rhs)

def binaryStep (s : Setting) (parent : Nat) (lhs : Expr) : Parse Expr := do
  binaryFrom g (← get).size (s.move lhs.position) parent lhs

def exprStep (s : Setting) : Parse Expr := do
  let first ← peek
  let s ← (s.move first.position).deeper
  let lhs ← match first.token with
    | .operator .range | .operator .rangeIncl => pure (.literal first.position .unit)
    | _ => g.unary s
  g.binary s 1 lhs

end step

/-- Parsers that refuse everything. -/
def exhausted : Grammar :=
  let refuse {α : Type} (s : Setting) : Parse α := fail .tooDeep s.position
  { expr := refuse, unary := refuse, binary := fun s _ _ => refuse s, primary := fun s _ => refuse s, stmt := refuse,
    ifElse := refuse, subscripts := fun s _ _ => refuse s }

/-- The parsers for scripts that nest at most as often as given. -/
def grammar : Nat → Grammar
  | 0 => exhausted
  | n + 1 =>
    { expr := fun s => exprStep (grammar n) s, unary := fun s => unaryStep (grammar n) s,
      binary := fun s p e => binaryStep (grammar n) s p e, primary := fun s b => primaryStep (grammar n) s b,
      stmt := fun s => stmtStep (grammar n) s, ifElse := fun s => ifElseStep (grammar n) s,
      subscripts := fun s e o => subscriptsStep (grammar n) s e o }

def programFrom (g : Grammar) (s : Setting) : Nat → List Stmt → Parse (List Stmt)
  | 0, _ => endless
  | n + 1, done => do
    if (← peek).token = .finish then return done.reverse
    match ← g.stmt s with
    | none => programFrom g s n done
    | some stmt =>
      let next ← peek
      match next.token with
      | .finish => return (stmt :: done).reverse
      | t =>
        if endsItself stmt then programFrom g s n (stmt :: done)
        else
          match t with
          | .symbol .semicolon => do
            drop
            programFrom g s n (stmt :: done)
          | .bad fault => fail fault next.position
          | _ => missing ";" "to terminate this statement" next.position

end Parser

namespace Program

/-- Parses a script. -/
def parse (limits : ParserLimits) (source : String) : Except SyntaxError Program := do
  let tokens := Lexer.tokens limits.lexer source
  let size := 2 * tokens.length + 2
  let setting : Parser.Setting := { limits, maxLevel := limits.maxDepth }
  let (main, st) ← (Parser.programFrom (Parser.grammar (4 * size)) setting size []).run { rest := tokens, size }
  return { main, functions := st.functions.reverse }

end Program

end Sandscript
