import Sandscript.Proofs.Operations.Chains
import Sandscript.Run.Evaluation

/-!
# Evaluation with a limit on the operations

Evaluation goes through the tree, and every part of a script obeys the limit as soon as the calls of its context do.  A
`try` statement is the only part that deals with the stops of what is inside of it, and it lets final stops pass.
-/

namespace Sandscript

open Run Context

variable {c : Context} {n : Nat}

private theorem toCondition_obeys (v : Value) (pos : Position) : Obeys n (toCondition v pos) Never := by
  cases v with
  | bool b => exact .pure _
  | _ => exact .raised _ _

private theorem countIf_obeys (hc : c.Metered n) (counted : Bool) (pos : Position) :
    Obeys n (countIf c counted pos) Never := by
  unfold countIf
  split
  · exact hc.step _
  · exact .pure _

private theorem checkParts_obeys (total : Size) (pos : Position) : Obeys n (checkParts c total pos) Never := by
  unfold checkParts
  split
  · exact .refused _ _
  · exact .pure _

private theorem declare_obeys (name : String) (v : Value) (constant : Bool) : Obeys n (declare name v constant) Never :=
  .modified (fun _ => rfl) (fun _ => rfl) fun _ => rfl

/-- The values of the variables that a closure holds. -/
private theorem held_obeys (pos : Position) (names : List String) :
    Obeys n (names.mapM fun name => do return (← c.find name pos).value) Never := by
  induction names with
  | nil => exact .pure _
  | cons name rest ih =>
    rw [List.mapM_cons]
    refine ((find_obeys _ _).bind fun _ => .pure _).bind fun v => ?_
    exact ih.bind fun _ => .pure _

/-! ### Stops inside of statements -/

/-- A handler may raise again what was caught; a final stop of the handler is another matter. -/
private theorem handled_obeys {r : Run Value} (h : Obeys n r Never) (fault : Fault) :
    Obeys n (do
      match ← outcome r with
      | .ok _ => return Value.unit
      | .error (.raised ⟨.thrown .unit, place⟩) => raise fault place
      | .error e => throw e) Never := by
  refine h.outcome.bind_handing (fun o => ?_) fun o ho => ?_
  · split
    · exact .pure _
    · exact .raised _ _
    · exact .thrown _
  · split
    · exact ho.elim
    · cases ho
    · exact .thrown ho

/-! ### The recursion of the evaluation

The theorems below follow the clauses of `evalExpr` and its siblings one by one. -/

mutual

private theorem evalExpr_obeys (hc : c.Metered n) (counted : Bool) : ∀ e : Expr, Obeys n (evalExpr c counted e) Never
  | .literal .. => by
    rw [evalExpr]
    exact (countIf_obeys hc _ _).bind fun _ => .pure _
  | .text _ pieces => by
    rw [evalExpr]
    exact (countIf_obeys hc _ _).bind fun _ => evalPieces_obeys hc _ pieces
  | .array _ items => by
    rw [evalExpr]
    exact (countIf_obeys hc _ _).bind fun _ => (evalItems_obeys hc _ items).bind fun _ => .pure _
  | .map _ entries => by
    rw [evalExpr]
    exact (countIf_obeys hc _ _).bind fun _ => (evalEntries_obeys hc _ entries).bind fun _ => .pure _
  | .var .. => by
    rw [evalExpr]
    exact (countIf_obeys hc _ _).bind fun _ => (find_obeys _ _).bind fun _ => .pure _
  | .qualified .. => by
    rw [evalExpr]
    exact (countIf_obeys hc _ _).bind fun _ => qualified_obeys _ _ _
  | .this _ => by
    rw [evalExpr]
    exact (countIf_obeys hc _ _).bind fun _ => readThis_obeys _
  | .capture .. => by
    rw [evalExpr]
    exact (countIf_obeys hc _ _).bind fun _ => (held_obeys _ _).bind fun _ => .pure _
  | .unary _ _ arg => by
    rw [evalExpr]
    refine (countIf_obeys hc _ _).bind fun _ => (evalExpr_obeys hc true arg).bind fun v => ?_
    split
    · exact (hc.step _).bind fun _ => .ofExcept _ _
    · exact .ofExcept _ _
  | .binary pos op lhs rhs => by
    have hrhs := evalExpr_obeys hc true rhs
    have hsecond : Obeys n (do return Value.bool (← toCondition (← evalExpr c true rhs) rhs.position)) Never :=
      hrhs.bind fun _ => (toCondition_obeys _ _).bind fun _ => .pure _
    rw [evalExpr]
    refine (countIf_obeys hc _ _).bind fun _ => (evalExpr_obeys hc _ lhs).bind fun a => ?_
    split
    · refine (toCondition_obeys _ _).bind fun b => ?_
      split
      · exact hsecond
      · exact .pure _
    · refine (toCondition_obeys _ _).bind fun b => ?_
      split
      · exact .pure _
      · exact hsecond
    · split
      · exact hrhs
      · exact .pure _
    · refine hrhs.bind fun b => ?_
      have hend : Obeys n (do
          let v ← ofExcept pos (op.apply a b)
          checkSize c.limits v pos
          return v) Never :=
        (Obeys.ofExcept _ _).bind fun v => (Obeys.checkSize _ _).bind fun _ => .pure _
      split
      · exact (hc.step _).bind fun _ => hend
      · exact hend
  | .call _ path _ _ args => by
    rw [evalExpr]
    refine (countIf_obeys hc _ _).bind fun _ => (evalArgs_obeys hc args).bind fun a => ?_
    cases path with
    | nil => exact callNamed_obeys hc _ _ _ _
    | cons => exact callQualified_obeys _ _ _ _
  | .chain _ root links => by
    rw [evalExpr]
    refine (countIf_obeys hc _ _).bind fun _ => (evalLinks_obeys hc _ links).bind fun steps => ?_
    split
    · exact walkVariable_obeys hc _ _ _ _
    · exact walkThis_obeys hc _ _ _
    · exact (evalExpr_obeys hc true root).bind fun v => walkValue_obeys hc _ _ _
  | .statement s => by
    rw [evalExpr]
    exact (countIf_obeys hc _ _).bind fun _ => evalStmt_obeys hc _ s

private theorem evalExprs_obeys (hc : c.Metered n) : ∀ es : List Expr, Obeys n (evalExprs c es) Never
  | [] => by
    rw [evalExprs]
    exact .pure _
  | e :: rest => by
    rw [evalExprs]
    exact (evalExpr_obeys hc true e).bind fun _ => (evalExprs_obeys hc rest).bind fun _ => .pure _

private theorem evalArgs_obeys (hc : c.Metered n) : ∀ es : List Expr, Obeys n (evalArgs c es) Never
  | [] => by
    rw [evalArgs]
    exact .pure _
  | e :: rest => by
    have hvalues := evalExprs_obeys hc rest
    unfold evalArgs
    split
    · rename_i heq
      cases heq
    · rename_i heq
      cases heq
      refine (hc.step _).bind fun _ => hvalues.bind fun vs => ?_
      exact (variableArgument_obeys _ _).bind fun _ => .pure _
    · rename_i heq
      cases heq
      refine (hc.step _).bind fun _ => hvalues.bind fun vs => ?_
      exact (thisArgument_obeys _).bind fun _ => .pure _
    · rename_i heq
      cases heq
      exact (evalExpr_obeys hc true e).bind fun v => hvalues.bind fun _ => .pure _

private theorem evalItems_obeys (hc : c.Metered n) (total : Size) :
    ∀ es : List Expr, Obeys n (evalItems c total es) Never
  | [] => by
    rw [evalItems]
    exact .pure _
  | e :: rest => by
    rw [evalItems]
    refine (evalExpr_obeys hc true e).bind fun _ => (checkParts_obeys _ _).bind fun _ => ?_
    exact (evalItems_obeys hc _ rest).bind fun _ => .pure _

private theorem evalEntries_obeys (hc : c.Metered n) (total : Size) :
    ∀ es : List (String × Expr), Obeys n (evalEntries c total es) Never
  | [] => by
    rw [evalEntries]
    exact .pure _
  | (_, e) :: rest => by
    rw [evalEntries]
    refine (evalExpr_obeys hc true e).bind fun _ => (checkParts_obeys _ _).bind fun _ => ?_
    exact (evalEntries_obeys hc _ rest).bind fun _ => .pure _

private theorem evalPieces_obeys (hc : c.Metered n) (s : String) : ∀ es : List Expr, Obeys n (evalPieces c s es) Never
  | [] => by
    rw [evalPieces]
    exact .pure _
  | e :: rest => by
    rw [evalPieces]
    refine (evalExpr_obeys hc true e).bind fun _ => (Obeys.checkSize _ _).bind fun _ => ?_
    exact evalPieces_obeys hc _ rest

private theorem evalLinks_obeys (hc : c.Metered n) (simple : Bool) :
    ∀ links : List Link, Obeys n (evalLinks c simple links) Never
  | [] => by
    rw [evalLinks]
    exact .pure _
  | .property .. :: rest => by
    rw [evalLinks]
    exact (countIf_obeys hc _ _).bind fun _ => (evalLinks_obeys hc simple rest).bind fun _ => .pure _
  | .index _ _ key :: rest => by
    rw [evalLinks]
    refine (countIf_obeys hc _ _).bind fun _ => (evalExpr_obeys hc _ key).bind fun k => ?_
    exact (evalLinks_obeys hc simple rest).bind fun _ => .pure _
  | .method _ _ _ _ args :: rest => by
    rw [evalLinks]
    refine (countIf_obeys hc _ _).bind fun _ => (evalExprs_obeys hc args).bind fun vs => ?_
    exact (evalLinks_obeys hc simple rest).bind fun _ => .pure _

private theorem evalOption_obeys (hc : c.Metered n) : ∀ e : Option Expr, Obeys n (evalOption c e) Never
  | none => by
    rw [evalOption]
    exact .pure _
  | some e => by
    rw [evalOption]
    exact evalExpr_obeys hc true e

private theorem evalCondition_obeys (hc : c.Metered n) : ∀ e : Option Expr, Obeys n (evalCondition c e) Never
  | none => by
    rw [evalCondition]
    exact .pure _
  | some e => by
    rw [evalCondition]
    exact (evalExpr_obeys hc true e).bind fun _ => toCondition_obeys _ _

private theorem evalAssign_obeys (hc : c.Metered n) (op : Option BinaryOp) (v : Value) (pos : Position) :
    ∀ target : Expr, Obeys n (evalAssign c op v pos target) Never
  | .var .. => by
    rw [evalAssign]
    exact assignVariable_obeys hc _ _ _ _ _
  | .this _ => by
    rw [evalAssign]
    exact assignThis_obeys hc _ _ _ _
  | .qualified .. => by
    rw [evalAssign]
    exact (hc.step _).bind fun _ => (qualified_obeys _ _ _).bind fun _ => .raised _ _
  | .chain _ root links => by
    rw [evalAssign]
    refine (evalLinks_obeys hc _ links).bind fun steps => ?_
    split
    · exact (walkVariable_obeys hc _ _ _ _).bind fun _ => .pure _
    · exact (walkThis_obeys hc _ _ _).bind fun _ => .pure _
    · refine (hc.step _).bind fun _ => (qualified_obeys _ _ _).bind fun _ => ?_
      exact (walkValue_obeys hc _ _ _).bind fun _ => .pure _
    · exact .pure _
  | .literal .. | .text .. | .array .. | .map .. | .capture .. | .unary .. | .binary .. | .call .. | .statement _ => by
    simp only [evalAssign]
    exact .pure _

private theorem evalStmt_obeys (hc : c.Metered n) (counted : Bool) : ∀ s : Stmt, Obeys n (evalStmt c counted s) Never
  | .expr e => by
    rw [evalStmt]
    exact (countIf_obeys hc _ _).bind fun _ => evalExpr_obeys hc true e
  | .declare _ _ _ _ value => by
    rw [evalStmt]
    refine (countIf_obeys hc _ _).bind fun _ => (evalOption_obeys hc value).bind fun v => ?_
    exact (declare_obeys _ _ _).bind fun _ => .pure _
  | .assign pos op target value => by
    rw [evalStmt]
    have hend : Obeys n (do
        let v ← evalExpr c true value
        evalAssign c op v pos target
        return Value.unit) Never :=
      (evalExpr_obeys hc true value).bind fun v => (evalAssign_obeys hc op v pos target).bind fun _ => .pure _
    refine (countIf_obeys hc _ _).bind fun _ => ?_
    split
    · exact (readThis_obeys _).bind fun _ => hend
    · exact hend
  | .block _ body => by
    rw [evalStmt]
    exact (countIf_obeys hc _ _).bind fun _ => (evalStmts_obeys hc _ body).withNames
  | .ifElse _ condition yes no => by
    rw [evalStmt]
    refine (countIf_obeys hc _ _).bind fun _ => (evalExpr_obeys hc true condition).bind fun v => ?_
    refine (toCondition_obeys _ _).bind fun b => ?_
    split
    · exact (evalStmts_obeys hc _ yes).withNames
    · exact (evalStmts_obeys hc _ no).withNames
  | .switch _ subject cases otherwise => by
    rw [evalStmt]
    refine (countIf_obeys hc _ _).bind fun _ => (evalExpr_obeys hc true subject).bind fun v => ?_
    refine (evalCases_obeys hc _ cases).bind fun r => ?_
    split
    · exact .pure _
    · exact evalDefault_obeys hc otherwise
  | .whileLoop _ condition bodyPos body => by
    have hbody : Obeys n (do let _ ← evalStmts c .unit body) Never :=
      (evalStmts_obeys hc .unit body).bind fun _ => .pure _
    rw [evalStmt]
    refine (countIf_obeys hc _ _).bind fun _ => .rounds (fun _ => ?_) _ _
    extract_lets round
    -- a round, once it is known whether there is one
    have hround (goesOn : Bool) : Obeys n (round goesOn) Never := by
      dsimp only [round]
      split
      · exact .pure _
      split
      · exact (hc.step _).bind fun _ => .pure _
      · refine hbody.withNames.body.bind fun left => ?_
        split
        · exact .pure _
        · exact .pure _
    split
    · exact hround true
    · exact (evalCondition_obeys hc condition).bind fun goesOn => hround goesOn
  | .doWhile _ _ body condition => by
    rw [evalStmt]
    refine (countIf_obeys hc _ _).bind fun _ => .rounds (fun _ => ?_) _ _
    refine (evalStmts_obeys hc .unit body).withNames.outcome.bind_handing (fun o => ?_) fun o ho => ?_
    · split
      · exact .pure _
      · exact .pure _
      · exact .thrown _
      · refine (evalExpr_obeys hc true condition).bind fun v => ?_
        exact (toCondition_obeys _ _).bind fun _ => .pure _
    · split
      · exact ho.elim
      · exact ho.elim
      · exact .thrown ho
      · exact ho.elim
  | .forIn _ item counter source bodyPos body => by
    have hbody : Obeys n (do let _ ← evalStmts c .unit body) Never :=
      (evalStmts_obeys hc .unit body).bind fun _ => .pure _
    have hitem (v : Value) : Obeys n (do
        declare item v false
        if body.isEmpty then step c.limits bodyPos
        let _ ← evalStmts c .unit body) Never := by
      refine (declare_obeys _ _ _).bind fun _ => ?_
      split
      · exact (hc.step _).bind fun _ => hbody
      · exact hbody
    rw [evalStmt]
    refine (countIf_obeys hc _ _).bind fun _ => (evalExpr_obeys hc true source).bind fun v => ?_
    split
    · exact .raised _ _
    · refine .rounds (fun r => ?_) _ _
      dsimp only
      split
      · exact .pure _
      · rename_i v rest _
        refine (Obeys.withNames ?_).body.bind fun left => ?_
        · split
          · exact (declare_obeys _ _ _).bind fun _ => hitem v
          · exact hitem v
        split
        · exact .pure _
        · exact .pure _
  | .breakLoop _ value => by
    rw [evalStmt]
    exact (countIf_obeys hc _ _).bind fun _ => (evalOption_obeys hc value).bind fun _ => .thrown _
  | .continueLoop _ => by
    rw [evalStmt]
    exact (countIf_obeys hc _ _).bind fun _ => .thrown _
  | .returnValue _ value => by
    rw [evalStmt]
    exact (countIf_obeys hc _ _).bind fun _ => (evalOption_obeys hc value).bind fun _ => .thrown _
  | .throwValue _ value => by
    rw [evalStmt]
    exact (countIf_obeys hc _ _).bind fun _ => (evalOption_obeys hc value).bind fun _ => .raised _ _
  | .tryCatch _ body _ handler => by
    have hhandler := evalStmts_obeys hc .unit handler
    rw [evalStmt]
    refine (countIf_obeys hc _ _).bind fun _ => ?_
    refine (evalStmts_obeys hc .unit body).withNames.outcome.bind_handing (fun o => ?_) fun o ho => ?_
    · split
      · exact .pure _
      · rename_i r
        extract_lets handle recover
        -- the handler, with or without a variable for what was thrown
        have hrecover (u : PUnit) : Obeys n (recover u) Never := by
          dsimp only [recover, handle]
          refine handled_obeys (Obeys.withNames ?_) r.fault
          split
          · exact (declare_obeys _ _ _).bind fun _ => hhandler
          · exact hhandler
        split
        · have hthrown : Obeys n (throw (.raised r) : Run PUnit) Never := .thrown _
          exact hthrown.bind fun u => hrecover u
        · exact hrecover ⟨⟩
      · exact .thrown _
    · split
      · exact ho.elim
      · rename_i r
        extract_lets handle recover
        have hthrown : HandsOn (throw (.raised r) : Run PUnit) Never := .thrown ho
        have hfinal : Stop.Final (.raised r) := ho
        rw [if_pos hfinal.isSystem]
        exact hthrown.bind fun _ h => h.elim
      · exact .thrown ho
  | .importModule _ path _ => by
    rw [evalStmt]
    refine (countIf_obeys hc _ _).bind fun _ => (evalExpr_obeys hc true path).bind fun v => ?_
    split
    · exact .raised _ _
    · exact .raised _ _
  | .exportName .. => by
    rw [evalStmt]
    exact (countIf_obeys hc _ _).bind fun _ => .pure _

theorem evalStmts_obeys (hc : c.Metered n) (last : Value) : ∀ body : List Stmt, Obeys n (evalStmts c last body) Never
  | [] => by
    rw [evalStmts]
    exact .pure _
  | s :: rest => by
    rw [evalStmts]
    exact (evalStmt_obeys hc true s).bind fun v => evalStmts_obeys hc v rest

private theorem evalDefault_obeys (hc : c.Metered n) : ∀ s : Option Stmt, Obeys n (evalDefault c s) Never
  | none => by
    rw [evalDefault]
    exact .pure _
  | some s => by
    rw [evalDefault]
    exact (hc.step _).bind fun _ => (evalStmt_obeys hc _ s).withNames

private theorem evalCases_obeys (hc : c.Metered n) (rule : Label → Bool) :
    ∀ cases : List Case, Obeys n (evalCases c rule cases) Never
  | [] => by
    rw [evalCases]
    exact .pure _
  | .mk labels guard action :: rest => by
    have hend (taken : Bool) : Obeys n (if taken then do
        step c.limits action.position
        return some (← withNames (evalStmt c (!action.isBlock) action))
        else evalCases c rule rest) Never := by
      split
      · refine (hc.step _).bind fun _ => ?_
        exact (evalStmt_obeys hc _ action).withNames.bind fun _ => .pure _
      · exact evalCases_obeys hc rule rest
    rw [evalCases]
    split
    · exact (evalCondition_obeys hc guard).bind fun taken => hend taken
    · exact hend false

end

end Sandscript
