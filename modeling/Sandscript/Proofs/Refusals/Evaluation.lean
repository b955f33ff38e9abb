import Sandscript.Proofs.Refusals.Chains
import Sandscript.Run.Evaluation

/-!
# Evaluation without refusals

Evaluation goes through the tree in the same way with limits and without: the limits on data and names are looked at in
between, and change nothing as long as they refuse nothing.
-/

namespace Sandscript

open Run Context

variable {P : Prop} {c : Context} {calls : Calls}

private theorem toCondition_remembers (v : Value) (pos : Position) : Remembers (toCondition v pos) := by
  cases v with
  | bool b => exact .pure _
  | _ => exact .raised _ _

private theorem toCondition_agrees (v : Value) (pos : Position) : Agrees P (toCondition v pos) (toCondition v pos) :=
  .self (toCondition_remembers v pos)

private theorem countIf_agrees (counted : Bool) (pos : Position) :
    Agrees P (countIf c counted pos) (countIf (c.unguarded calls) counted pos) := by
  unfold countIf
  split
  · exact .step _ _
  · exact .pure _

private theorem checkParts_agrees (total : Size) (pos : Position) :
    Agrees P (checkParts c total pos) (checkParts (c.unguarded calls) total pos) := by
  unfold checkParts
  split
  · exact .refused _ _ (.pure _)
  · exact .pure _

/-- The values of the variables that a closure holds. -/
private theorem held_agrees (pos : Position) (names : List String) :
    Agrees P (names.mapM fun name => do return (← c.find name pos).value)
      (names.mapM fun name => do return (← (c.unguarded calls).find name pos).value) := by
  induction names with
  | nil => exact .pure _
  | cons name rest ih =>
    rw [List.mapM_cons, List.mapM_cons]
    exact ((find_agrees _ _).bind fun _ => .pure _).bind fun v => ih.bind fun _ => .pure _

/-! ### The recursion of the evaluation

The theorems below follow the clauses of `evalExpr` and its siblings one by one. -/

mutual

private theorem evalExpr_agrees (h : c.calls.Agree P calls) (counted : Bool) :
    ∀ e : Expr, Agrees P (evalExpr c counted e) (evalExpr (c.unguarded calls) counted e)
  | .literal .. => by
    rw [evalExpr, evalExpr]
    exact (countIf_agrees _ _).bind fun _ => .pure _
  | .text _ pieces => by
    rw [evalExpr, evalExpr]
    exact (countIf_agrees _ _).bind fun _ => evalPieces_agrees h _ pieces
  | .array _ items => by
    rw [evalExpr, evalExpr]
    exact (countIf_agrees _ _).bind fun _ => (evalItems_agrees h _ items).bind fun _ => .pure _
  | .map _ entries => by
    rw [evalExpr, evalExpr]
    exact (countIf_agrees _ _).bind fun _ => (evalEntries_agrees h _ entries).bind fun _ => .pure _
  | .var .. => by
    rw [evalExpr, evalExpr]
    exact (countIf_agrees _ _).bind fun _ => (find_agrees _ _).bind fun _ => .pure _
  | .qualified .. => by
    rw [evalExpr, evalExpr]
    exact (countIf_agrees _ _).bind fun _ => .self (qualified_remembers _ _ _)
  | .this _ => by
    rw [evalExpr, evalExpr]
    exact (countIf_agrees _ _).bind fun _ => .self (readThis_remembers _)
  | .capture .. => by
    rw [evalExpr, evalExpr]
    exact (countIf_agrees _ _).bind fun _ => (held_agrees _ _).bind fun _ => .pure _
  | .unary _ _ arg => by
    rw [evalExpr, evalExpr]
    refine (countIf_agrees _ _).bind fun _ => (evalExpr_agrees h true arg).bind fun v => ?_
    split
    · exact (Agrees.step _ _).bind fun _ => .ofExcept _ _
    · exact .ofExcept _ _
  | .binary pos op lhs rhs => by
    have hrhs := evalExpr_agrees h true rhs
    have hsecond : Agrees P (do return Value.bool (← toCondition (← evalExpr c true rhs) rhs.position))
        (do return Value.bool (← toCondition (← evalExpr (c.unguarded calls) true rhs) rhs.position)) :=
      hrhs.bind fun _ => (toCondition_agrees _ _).bind fun _ => .pure _
    rw [evalExpr, evalExpr]
    refine (countIf_agrees _ _).bind fun _ => (evalExpr_agrees h _ lhs).bind fun a => ?_
    split
    · refine (toCondition_agrees _ _).bind fun b => ?_
      split
      · exact hsecond
      · exact .pure _
    · refine (toCondition_agrees _ _).bind fun b => ?_
      split
      · exact .pure _
      · exact hsecond
    · split
      · exact hrhs
      · exact .pure _
    · refine hrhs.bind fun b => ?_
      have hend : Agrees P
          (do
            let v ← ofExcept pos (op.apply a b)
            checkSize c.limits v pos
            return v)
          (do
            let v ← ofExcept pos (op.apply a b)
            checkSize c.limits.unguarded v pos
            return v) :=
        (Agrees.ofExcept _ _).bind fun v => (Agrees.checkSize _ _ _).bind fun _ => .pure _
      split
      · exact (Agrees.step _ _).bind fun _ => hend
      · exact hend
  | .call _ path name _ args => by
    rw [evalExpr, evalExpr]
    refine (countIf_agrees _ _).bind fun _ => (evalArgs_agrees h args).bind fun a => ?_
    split
    · exact callNamed_agrees h _ _ _ _
    · exact .self (callQualified_remembers _ _ _ _)
  | .chain _ root links => by
    rw [evalExpr, evalExpr]
    refine (countIf_agrees _ _).bind fun _ => (evalLinks_agrees h _ links).bind fun steps => ?_
    split
    · exact walkVariable_agrees h _ _ _ _
    · exact walkThis_agrees h _ _ _
    · exact (evalExpr_agrees h true root).bind fun v => walkValue_agrees h _ _ _
  | .statement s => by
    rw [evalExpr, evalExpr]
    exact (countIf_agrees _ _).bind fun _ => evalStmt_agrees h _ s

private theorem evalExprs_agrees (h : c.calls.Agree P calls) :
    ∀ es : List Expr, Agrees P (evalExprs c es) (evalExprs (c.unguarded calls) es)
  | [] => by
    rw [evalExprs, evalExprs]
    exact .pure _
  | e :: rest => by
    rw [evalExprs, evalExprs]
    exact (evalExpr_agrees h true e).bind fun _ => (evalExprs_agrees h rest).bind fun _ => .pure _

private theorem evalArgs_agrees (h : c.calls.Agree P calls) :
    ∀ es : List Expr, Agrees P (evalArgs c es) (evalArgs (c.unguarded calls) es)
  | [] => by
    rw [evalArgs, evalArgs]
    exact .pure _
  | e :: rest => by
    have hvalues := evalExprs_agrees h rest
    unfold evalArgs
    split
    · rename_i heq
      cases heq
    · rename_i heq
      cases heq
      refine (Agrees.step _ _).bind fun _ => hvalues.bind fun vs => ?_
      exact (variableArgument_agrees _ _).bind fun _ => .pure _
    · rename_i heq
      cases heq
      refine (Agrees.step _ _).bind fun _ => hvalues.bind fun vs => ?_
      exact (Agrees.self (thisArgument_remembers _)).bind fun _ => .pure _
    · rename_i heq
      cases heq
      exact (evalExpr_agrees h true e).bind fun v => hvalues.bind fun _ => .pure _

private theorem evalItems_agrees (h : c.calls.Agree P calls) (total : Size) :
    ∀ es : List Expr, Agrees P (evalItems c total es) (evalItems (c.unguarded calls) total es)
  | [] => by
    rw [evalItems, evalItems]
    exact .pure _
  | e :: rest => by
    rw [evalItems, evalItems]
    refine (evalExpr_agrees h true e).bind fun _ => (checkParts_agrees _ _).bind fun _ => ?_
    exact (evalItems_agrees h _ rest).bind fun _ => .pure _

private theorem evalEntries_agrees (h : c.calls.Agree P calls) (total : Size) :
    ∀ es : List (String × Expr), Agrees P (evalEntries c total es) (evalEntries (c.unguarded calls) total es)
  | [] => by
    rw [evalEntries, evalEntries]
    exact .pure _
  | (_, e) :: rest => by
    rw [evalEntries, evalEntries]
    refine (evalExpr_agrees h true e).bind fun _ => (checkParts_agrees _ _).bind fun _ => ?_
    exact (evalEntries_agrees h _ rest).bind fun _ => .pure _

private theorem evalPieces_agrees (h : c.calls.Agree P calls) (s : String) :
    ∀ es : List Expr, Agrees P (evalPieces c s es) (evalPieces (c.unguarded calls) s es)
  | [] => by
    rw [evalPieces, evalPieces]
    exact .pure _
  | e :: rest => by
    rw [evalPieces, evalPieces]
    refine (evalExpr_agrees h true e).bind fun _ => (Agrees.checkSize _ _ _).bind fun _ => ?_
    exact evalPieces_agrees h _ rest

private theorem evalLinks_agrees (h : c.calls.Agree P calls) (simple : Bool) :
    ∀ links : List Link, Agrees P (evalLinks c simple links) (evalLinks (c.unguarded calls) simple links)
  | [] => by
    rw [evalLinks, evalLinks]
    exact .pure _
  | .property .. :: rest => by
    rw [evalLinks, evalLinks]
    exact (countIf_agrees _ _).bind fun _ => (evalLinks_agrees h simple rest).bind fun _ => .pure _
  | .index _ _ key :: rest => by
    rw [evalLinks, evalLinks]
    refine (countIf_agrees _ _).bind fun _ => (evalExpr_agrees h _ key).bind fun k => ?_
    exact (evalLinks_agrees h simple rest).bind fun _ => .pure _
  | .method _ _ _ _ args :: rest => by
    rw [evalLinks, evalLinks]
    refine (countIf_agrees _ _).bind fun _ => (evalExprs_agrees h args).bind fun vs => ?_
    exact (evalLinks_agrees h simple rest).bind fun _ => .pure _

private theorem evalOption_agrees (h : c.calls.Agree P calls) :
    ∀ e : Option Expr, Agrees P (evalOption c e) (evalOption (c.unguarded calls) e)
  | none => by
    rw [evalOption, evalOption]
    exact .pure _
  | some e => by
    rw [evalOption, evalOption]
    exact evalExpr_agrees h true e

private theorem evalCondition_agrees (h : c.calls.Agree P calls) :
    ∀ e : Option Expr, Agrees P (evalCondition c e) (evalCondition (c.unguarded calls) e)
  | none => by
    rw [evalCondition, evalCondition]
    exact .pure _
  | some e => by
    rw [evalCondition, evalCondition]
    exact (evalExpr_agrees h true e).bind fun _ => toCondition_agrees _ _

private theorem evalAssign_agrees (h : c.calls.Agree P calls) (op : Option BinaryOp) (v : Value) (pos : Position) :
    ∀ target : Expr, Agrees P (evalAssign c op v pos target) (evalAssign (c.unguarded calls) op v pos target)
  | .var .. => by
    rw [evalAssign, evalAssign]
    exact assignVariable_agrees _ _ _ _ _
  | .this _ => by
    rw [evalAssign, evalAssign]
    exact assignThis_agrees _ _ _ _
  | .qualified .. => by
    rw [evalAssign, evalAssign]
    exact (Agrees.step _ _).bind fun _ => (Agrees.self (qualified_remembers _ _ _)).bind fun _ => .raised _ _
  | .chain _ root links => by
    rw [evalAssign, evalAssign]
    refine (evalLinks_agrees h _ links).bind fun steps => ?_
    split
    · exact (walkVariable_agrees h _ _ _ _).bind fun _ => .pure _
    · exact (walkThis_agrees h _ _ _).bind fun _ => .pure _
    · refine (Agrees.step _ _).bind fun _ => (Agrees.self (qualified_remembers _ _ _)).bind fun _ => ?_
      exact (walkValue_agrees h _ _ _).bind fun _ => .pure _
    · exact .pure _
  | .literal .. | .text .. | .array .. | .map .. | .capture .. | .unary .. | .binary .. | .call .. | .statement _ => by
    simp only [evalAssign]
    exact .pure _

private theorem evalStmt_agrees (h : c.calls.Agree P calls) (counted : Bool) :
    ∀ s : Stmt, Agrees P (evalStmt c counted s) (evalStmt (c.unguarded calls) counted s)
  | .expr e => by
    rw [evalStmt, evalStmt]
    exact (countIf_agrees _ _).bind fun _ => evalExpr_agrees h true e
  | .declare _ _ _ _ value => by
    rw [evalStmt, evalStmt]
    refine (countIf_agrees _ _).bind fun _ => (evalOption_agrees h value).bind fun v => ?_
    exact (Agrees.declared _ _ _).bind fun _ => .pure _
  | .assign pos op target value => by
    rw [evalStmt, evalStmt]
    have hend : Agrees P
        (do
          let v ← evalExpr c true value
          evalAssign c op v pos target
          return Value.unit)
        (do
          let v ← evalExpr (c.unguarded calls) true value
          evalAssign (c.unguarded calls) op v pos target
          return Value.unit) :=
      (evalExpr_agrees h true value).bind fun v => (evalAssign_agrees h op v pos target).bind fun _ => .pure _
    refine (countIf_agrees _ _).bind fun _ => ?_
    split
    · exact (Agrees.self (readThis_remembers _)).bind fun _ => hend
    · exact hend
  | .block _ body => by
    rw [evalStmt, evalStmt]
    exact (countIf_agrees _ _).bind fun _ => (evalStmts_agrees h _ body).withNames
  | .ifElse _ condition yes no => by
    rw [evalStmt, evalStmt]
    refine (countIf_agrees _ _).bind fun _ => (evalExpr_agrees h true condition).bind fun v => ?_
    refine (toCondition_agrees _ _).bind fun b => ?_
    split
    · exact (evalStmts_agrees h _ yes).withNames
    · exact (evalStmts_agrees h _ no).withNames
  | .switch _ subject cases otherwise => by
    rw [evalStmt, evalStmt]
    refine (countIf_agrees _ _).bind fun _ => (evalExpr_agrees h true subject).bind fun v => ?_
    refine (evalCases_agrees h _ cases).bind fun r => ?_
    split
    · exact .pure _
    · exact evalDefault_agrees h otherwise
  | .whileLoop _ condition bodyPos body => by
    have hbody : Agrees P (do let _ ← evalStmts c .unit body) (do let _ ← evalStmts (c.unguarded calls) .unit body) :=
      (evalStmts_agrees h .unit body).bind fun _ => .pure _
    rw [evalStmt, evalStmt]
    refine (countIf_agrees _ _).bind fun _ => .rounds (fun _ => ?_) _ _
    extract_lets round round'
    -- a round, once it is known whether there is one
    have hround (goesOn : Bool) : Agrees P (round goesOn) (round' goesOn) := by
      dsimp only [round, round']
      split
      · exact .pure _
      split
      · exact (Agrees.step _ _).bind fun _ => .pure _
      · refine hbody.withNames.body.bind fun left => .self ?_
        split
        · exact .pure _
        · exact .pure _
    split
    · exact hround true
    · exact (evalCondition_agrees h condition).bind fun goesOn => hround goesOn
  | .doWhile _ _ body condition => by
    rw [evalStmt, evalStmt]
    refine (countIf_agrees _ _).bind fun _ => .rounds (fun _ => ?_) _ _
    refine (evalStmts_agrees h .unit body).withNames.outcome.bind fun o => ?_
    split
    · exact .pure _
    · exact .pure _
    · exact .thrown _
    · refine (evalExpr_agrees h true condition).bind fun v => ?_
      exact (toCondition_agrees _ _).bind fun _ => .pure _
  | .forIn _ item counter source bodyPos body => by
    have hbody : Agrees P (do let _ ← evalStmts c .unit body) (do let _ ← evalStmts (c.unguarded calls) .unit body) :=
      (evalStmts_agrees h .unit body).bind fun _ => .pure _
    have hitem (v : Value) : Agrees P
        (do
          declare item v false
          if body.isEmpty then step c.limits bodyPos
          let _ ← evalStmts c .unit body)
        (do
          declare item v false
          if body.isEmpty then step c.limits.unguarded bodyPos
          let _ ← evalStmts (c.unguarded calls) .unit body) := by
      refine (Agrees.declared _ _ _).bind fun _ => ?_
      split
      · exact (Agrees.step _ _).bind fun _ => hbody
      · exact hbody
    rw [evalStmt, evalStmt]
    refine (countIf_agrees _ _).bind fun _ => (evalExpr_agrees h true source).bind fun v => ?_
    split
    · exact .raised _ _
    · refine .rounds (fun r => ?_) _ _
      dsimp only
      split
      · exact .pure _
      · rename_i v rest _
        refine Agrees.bind (Agrees.body (Agrees.withNames ?_)) fun left => .self ?_
        · split
          · exact (Agrees.declared _ _ _).bind fun _ => hitem v
          · exact hitem v
        split
        · exact .pure _
        · exact .pure _
  | .breakLoop _ value => by
    rw [evalStmt, evalStmt]
    exact (countIf_agrees _ _).bind fun _ => (evalOption_agrees h value).bind fun _ => .thrown _
  | .continueLoop _ => by
    rw [evalStmt, evalStmt]
    exact (countIf_agrees _ _).bind fun _ => .thrown _
  | .returnValue _ value => by
    rw [evalStmt, evalStmt]
    exact (countIf_agrees _ _).bind fun _ => (evalOption_agrees h value).bind fun _ => .thrown _
  | .throwValue _ value => by
    rw [evalStmt, evalStmt]
    exact (countIf_agrees _ _).bind fun _ => (evalOption_agrees h value).bind fun _ => .raised _ _
  | .tryCatch _ body _ handler => by
    have hhandler := evalStmts_agrees h .unit handler
    rw [evalStmt, evalStmt]
    refine (countIf_agrees _ _).bind fun _ => ?_
    refine (evalStmts_agrees h .unit body).withNames.outcome.bind fun o => ?_
    split
    · exact .pure _
    · extract_lets handle recover handle' recover'
      -- the handler, with or without a variable for what was thrown
      have hrecover (u : PUnit) : Agrees P (recover u) (recover' u) := by
        dsimp only [recover, recover', handle, handle']
        refine Agrees.bind (Agrees.outcome (Agrees.withNames ?_)) fun handled => .self ?_
        · split
          · exact (Agrees.declared _ _ _).bind fun _ => hhandler
          · exact hhandler
        split
        · exact .pure _
        · exact .raised _ _
        · exact .thrown _
      split
      · exact (Agrees.thrown _).bind fun u => hrecover u
      · exact hrecover ⟨⟩
    · exact .thrown _
  | .importModule _ path _ => by
    rw [evalStmt, evalStmt]
    refine (countIf_agrees _ _).bind fun _ => (evalExpr_agrees h true path).bind fun v => .self ?_
    split
    · exact .raised _ _
    · exact .raised _ _
  | .exportName .. => by
    rw [evalStmt, evalStmt]
    exact (countIf_agrees _ _).bind fun _ => .pure _

theorem evalStmts_agrees (h : c.calls.Agree P calls) (last : Value) :
    ∀ body : List Stmt, Agrees P (evalStmts c last body) (evalStmts (c.unguarded calls) last body)
  | [] => by
    rw [evalStmts, evalStmts]
    exact .pure _
  | s :: rest => by
    rw [evalStmts, evalStmts]
    exact (evalStmt_agrees h true s).bind fun v => evalStmts_agrees h v rest

private theorem evalDefault_agrees (h : c.calls.Agree P calls) :
    ∀ s : Option Stmt, Agrees P (evalDefault c s) (evalDefault (c.unguarded calls) s)
  | none => by
    rw [evalDefault, evalDefault]
    exact .pure _
  | some s => by
    rw [evalDefault, evalDefault]
    exact (Agrees.step _ _).bind fun _ => (evalStmt_agrees h _ s).withNames

private theorem evalCases_agrees (h : c.calls.Agree P calls) (rule : Label → Bool) :
    ∀ cases : List Case, Agrees P (evalCases c rule cases) (evalCases (c.unguarded calls) rule cases)
  | [] => by
    rw [evalCases, evalCases]
    exact .pure _
  | .mk [] _ _ :: rest => by
    rw [evalCases, evalCases]
    exact evalCases_agrees h rule rest
  | .mk (l :: labels) guard action :: rest => by
    have haction : Agrees P
        (do
          step c.limits action.position
          return some (← withNames (evalStmt c (!action.isBlock) action)))
        (do
          step c.limits.unguarded action.position
          return some (← withNames (evalStmt (c.unguarded calls) (!action.isBlock) action))) :=
      (Agrees.step _ _).bind fun _ => (evalStmt_agrees h _ action).withNames.bind fun _ => .pure _
    rw [evalCases, evalCases]
    split
    · exact (evalCondition_agrees h guard).bind fun _ => haction.ite (evalCases_agrees h rule rest)
    · exact (Agrees.pure false).bind fun _ => haction.ite (evalCases_agrees h rule rest)

end

end Sandscript
