import Sandscript.Run.Dispatch
import Sandscript.Syntax.Parser

/-!
# Evaluation

What the parts of a script do when it runs.  Evaluation goes through the tree; the functions of the script are reached
by the calls of the context, which allow one level of nesting less each, and loops are bounded by the time of the
run.
-/

namespace Sandscript

open Run

/-- The value of a condition. -/
def toCondition (v : Value) (pos : Position) : Run Bool :=
  match v with
  | .bool b => pure b
  | v => raise (.mismatch "bool" v.typeName) pos

def Stmt.isBlock : Stmt → Bool
  | .block .. => true
  | _ => false

/-- A chain of a single link that needs no values takes no steps for its links. -/
def areSimple : List Link → Bool
  | [.property ..] => true
  | [.index _ _ (.literal ..)] => true
  | [.method _ _ _ _ []] => true
  | _ => false

/-- The place of the period or bracket in front of a link. -/
def Link.operatorPosition : Link → Position
  | .property op .. | .index op .. | .method op .. => op

/-- The place at which a link takes its step: the last one at its own, others at the operator behind them. -/
def stepPosition (own : Position) : List Link → Position
  | [] => own
  | next :: _ => next.operatorPosition

def countIf (c : Context) (counted : Bool) (pos : Position) : Run Unit :=
  if counted then step c.limits pos else pure ()

def checkParts (c : Context) (total : Size) (pos : Position) : Run Unit :=
  match c.limits.guards.bind total.excess? with
  | some what => refuse (.tooLarge what) pos
  | none => pure ()

def isRepeating : Option Expr → Bool
  | none => true
  | some (.literal _ (.bool b)) => b
  | some _ => false

mutual

/-- The value of an expression; with `counted` it is a step of its own. -/
def evalExpr (c : Context) (counted : Bool) : Expr → Run Value
  | .literal pos v => do
    countIf c counted pos
    return v
  | .text pos pieces => do
    countIf c counted pos
    evalPieces c "" pieces
  | .array pos items => do
    countIf c counted pos
    return .arr (← evalItems c {} items)
  | .map pos entries => do
    countIf c counted pos
    return .map (Fields.ofPairs (← evalEntries c {} entries))
  | .var pos name => do
    countIf c counted pos
    return (← c.find name pos).value
  | .qualified pos root path name => do
    countIf c counted pos
    Context.qualified root path name
  | .this pos => do
    countIf c counted pos
    Context.readThis pos
  | .capture pos function outer => do
    countIf c counted pos
    let held ← outer.mapM fun name => do return (← c.find name pos).value
    return .fn function held
  | .unary pos op arg => do
    countIf c counted pos
    let v ← evalExpr c true arg
    if !op.isBuiltIn v then step c.limits pos
    ofExcept pos (op.apply v)
  | .binary pos op lhs rhs => do
    countIf c counted pos
    let a ← evalExpr c (!(op.isLazy && lhs.isUseOf op)) lhs
    match op with
    | .and =>
      if ← toCondition a lhs.position then return .bool (← toCondition (← evalExpr c true rhs) rhs.position)
      else return .bool false
    | .or =>
      if ← toCondition a lhs.position then return .bool true
      else return .bool (← toCondition (← evalExpr c true rhs) rhs.position)
    | .coalesce => if a.isUnit then evalExpr c true rhs else return a
    | _ =>
      let b ← evalExpr c true rhs
      if !op.isBuiltIn a b then step c.limits pos
      let v ← ofExcept pos (op.apply a b)
      checkSize c.limits v pos
      return v
  | .call pos path name inScope args => do
    countIf c counted pos
    let a ← evalArgs c args
    if path.isEmpty then c.callNamed name inScope a pos else Context.callQualified path name a pos
  | .chain pos root links => do
    countIf c counted pos
    let steps ← evalLinks c (areSimple links) links
    match root with
    | .var p name => c.walkVariable name p .read steps
    | .this p => c.walkThis p .read steps
    | e => do c.walkValue (← evalExpr c true e) .read steps
  | .statement s => do
    countIf c counted s.position
    evalStmt c (!s.isBlock) s

def evalExprs (c : Context) : List Expr → Run (List Value)
  | [] => return []
  | e :: rest => do
    let v ← evalExpr c true e
    return v :: (← evalExprs c rest)

/-- The arguments of a call.  A variable or `this` in the first place is looked up behind the others, so that the
function can change it. -/
def evalArgs (c : Context) : List Expr → Run Context.Arguments
  | [] => return { values := [] }
  | .var p name :: rest => do
    step c.limits p
    let vs ← evalExprs c rest
    let (v, source) ← c.variableArgument name p
    return { values := v :: vs, source, firstPos := p }
  | .this p :: rest => do
    step c.limits p
    let vs ← evalExprs c rest
    let (v, source) ← Context.thisArgument p
    return { values := v :: vs, source, firstPos := p }
  | e :: rest => do
    let v ← evalExpr c true e
    return { values := v :: (← evalExprs c rest), firstPos := e.position }

/-- The items of an array; `total` is the size of those in front. -/
def evalItems (c : Context) (total : Size) : List Expr → Run (List Value)
  | [] => return []
  | e :: rest => do
    let v ← evalExpr c true e
    let total := total + { items := 1 } + v.size
    checkParts c total e.position
    return v :: (← evalItems c total rest)

def evalEntries (c : Context) (total : Size) : List (String × Expr) → Run (List (String × Value))
  | [] => return []
  | (k, e) :: rest => do
    let v ← evalExpr c true e
    let total := total + { entries := 1 } + v.size
    checkParts c total e.position
    return (k, v) :: (← evalEntries c total rest)

/-- The pieces of a text behind those that give `s`. -/
def evalPieces (c : Context) (s : String) : List Expr → Run Value
  | [] => return .str s
  | e :: rest => do
    let v ← evalExpr c true e
    let s := s ++ v.printed
    checkSize c.limits (.str s) e.position
    evalPieces c s rest

/-- The links of a chain with the values that they need. -/
def evalLinks (c : Context) (simple : Bool) : List Link → Run (List ChainStep)
  | [] => return []
  | .property _ pos optional name :: rest => do
    countIf c (!simple) (stepPosition pos rest)
    return .property pos optional name :: (← evalLinks c simple rest)
  | .index op optional key :: rest => do
    countIf c (!simple) (stepPosition key.position rest)
    let k ← evalExpr c (!simple) key
    return .index op key.position optional k :: (← evalLinks c simple rest)
  | .method _ pos optional name args :: rest => do
    countIf c (!simple) (stepPosition pos rest)
    let vs ← evalExprs c args
    return .method pos optional name vs :: (← evalLinks c simple rest)

def evalOption (c : Context) : Option Expr → Run Value
  | none => return .unit
  | some e => evalExpr c true e

/-- Whether a condition holds; a missing one does. -/
def evalCondition (c : Context) : Option Expr → Run Bool
  | none => return true
  | some e => do toCondition (← evalExpr c true e) e.position

/-- Assigns a value to what an expression names.  The names of namespaces are constant. -/
def evalAssign (c : Context) (op : Option BinaryOp) (v : Value) (pos : Position) : Expr → Run Unit
  | .var p name => c.assignVariable name p op v pos
  | .this p => Context.assignThis c p op v pos
  | .qualified p root path name => do
    step c.limits p
    let _ ← Context.qualified root path name
    raise (.constantChanged name) p
  | .chain _ root links => do
    let steps ← evalLinks c (areSimple links) links
    let goal := ChainGoal.assign op v pos
    match root with
    | .var p name => do let _ ← c.walkVariable name p goal steps
    | .this p => do let _ ← c.walkThis p goal steps
    | .qualified p root path name => do
      step c.limits p
      let _ ← c.walkValue (← Context.qualified root path name) goal steps
    | _ => pure ()
  | _ => pure ()

/-- The value of a statement; with `counted` it is a step of its own. -/
def evalStmt (c : Context) (counted : Bool) : Stmt → Run Value
  | .expr e => do
    countIf c counted e.position
    evalExpr c true e
  | .declare pos _ constant name value => do
    countIf c counted pos
    declare name (← evalOption c value) constant
    return .unit
  | .assign pos op target value => do
    countIf c counted pos
    if let .this p := target then
      let _ ← Context.readThis p
    let v ← evalExpr c true value
    evalAssign c op v pos target
    return .unit
  | .block pos body => do
    countIf c counted pos
    withNames (evalStmts c .unit body)
  | .ifElse pos condition yes no => do
    countIf c counted pos
    if ← toCondition (← evalExpr c true condition) condition.position then withNames (evalStmts c .unit yes)
    else withNames (evalStmts c .unit no)
  | .switch pos subject cases otherwise => do
    countIf c counted pos
    let v ← evalExpr c true subject
    match ← evalCases c (Case.ruleFor v cases) cases with
    | some r => return r
    | none => evalDefault c otherwise
  | .whileLoop pos condition bodyPos stmts => do
    countIf c counted pos
    let always := isRepeating condition
    rounds (fun () => do
      let goesOn ← if always then pure true else evalCondition c condition
      if !goesOn then return .done .unit
      if stmts.isEmpty then
        step c.limits bodyPos
        return .again ()
      match ← body (withNames do let _ ← evalStmts c .unit stmts) with
      | some v => return .done v
      | none => return .again ()) c.limits.time ()
  | .doWhile pos repeats stmts condition => do
    countIf c counted pos
    rounds (fun () => do
      match ← outcome (withNames (evalStmts c .unit stmts)) with
      | .error .nextRound => return .again ()
      | .error (.leftLoop v) => return .done v
      | .error e => throw e
      | .ok _ =>
        let holds ← toCondition (← evalExpr c true condition) condition.position
        return if holds == repeats then .again () else .done .unit) c.limits.time ()
  | .forIn pos item counter source bodyPos stmts => do
    countIf c counted pos
    let v ← evalExpr c true source
    match Sequence.of? v with
    | none => raise .notIterable source.position
    | some values =>
      rounds (fun (i, values) => do
        match values.next? with
        | none => return .done .unit
        | some (v, rest) =>
          let left ← body (withNames do
            match counter with
            | some name => declare name (.int (Int64.ofNat i)) false
            | none => pure ()
            declare item v false
            if stmts.isEmpty then step c.limits bodyPos
            let _ ← evalStmts c .unit stmts)
          match left with
          | some r => return .done r
          | none => return .again (i + 1, rest)) c.limits.time (0, values)
  | .breakLoop pos value => do
    countIf c counted pos
    throw (.leftLoop (← evalOption c value))
  | .continueLoop pos => do
    countIf c counted pos
    throw .nextRound
  | .returnValue pos value => do
    countIf c counted pos
    throw (.returned (← evalOption c value))
  | .throwValue pos value => do
    countIf c counted pos
    raise (.thrown (← evalOption c value)) pos
  | .tryCatch pos stmts error handler => do
    countIf c counted pos
    match ← outcome (withNames (evalStmts c .unit stmts)) with
    | .ok v => return v
    | .error (.raised r) =>
      if r.fault.isSystem then throw (.raised r)
      let handled ← outcome (withNames do
        match error with
        | some name => declare name r.caughtValue false
        | none => pure ()
        evalStmts c .unit handler)
      match handled with
      | .ok _ => return .unit
      | .error (.raised ⟨.thrown .unit, place⟩) => raise r.fault place
      | .error e => throw e
    | .error e => throw e
  | .importModule pos path _ => do
    countIf c counted pos
    match ← evalExpr c true path with
    | .str name => raise (.moduleNotFound name) path.position
    | v => raise (.mismatch "string" v.typeName) path.position
  | .exportName pos _ _ => do
    countIf c counted pos
    return .unit

/-- The value of the last of some statements, or `last` if there are none. -/
def evalStmts (c : Context) (last : Value) : List Stmt → Run Value
  | [] => return last
  | s :: rest => do
    let v ← evalStmt c true s
    evalStmts c v rest

def evalDefault (c : Context) : Option Stmt → Run Value
  | none => return .unit
  | some s => do
    step c.limits s.position
    withNames (evalStmt c (!s.isBlock) s)

/-- The value of the first case that the rule finds and whose guard holds. -/
def evalCases (c : Context) (rule : Label → Bool) : List Case → Run (Option Value)
  | [] => return none
  | .mk labels guard action :: rest => do
    let taken ← if labels.any rule then evalCondition c guard else pure false
    if taken then do
      step c.limits action.position
      return some (← withNames (evalStmt c (!action.isBlock) action))
    else evalCases c rule rest

end

end Sandscript
