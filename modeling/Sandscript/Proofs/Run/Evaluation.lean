import Sandscript.Proofs.Run.Chain
import Sandscript.Proofs.Syntax.Parts
import Sandscript.Run.Evaluation

/-!
# The calls of an evaluation

Evaluation goes through the tree, and the calls that a part brings about are those that it spells out and those of what
is inside of it.  A part `Spells` the functions of the language that it and the parts inside of it name, as far as a
run can reach them; evaluating it makes no other calls to the language itself.
-/

namespace Sandscript

namespace Part

/-- The name that a part calls as it is written. -/
def called? : Part → Option String
  | expr (.call _ [] name _ _) => some name
  | link (.method _ _ _ name _) => some name
  | _ => none

/-- The functions of the language that a part calls have `spelled` names, at whatever depth. -/
def Spells (spelled : String → Prop) (p : Part) : Prop :=
  ∀ q, Within live p q → ∀ name, q.called? = some name → name ∈ languageFunctions → spelled name

def AllSpell (spelled : String → Prop) (ps : List Part) : Prop := ∀ p ∈ ps, p.Spells spelled

variable {spelled : String → Prop} {p : Part} {ps qs : List Part}

theorem Spells.name (h : p.Spells spelled) {name : String} (hp : p.called? = some name) :
    name ∈ languageFunctions → spelled name := h p (Within.refl p) name hp

private theorem Spells.parts (h : p.Spells spelled) : AllSpell spelled p.live :=
  fun _ hq r hqr => h r (Within.step hq hqr)

@[simp]
private theorem allSpell_nil : AllSpell spelled [] ↔ True := by simp [AllSpell]

@[simp]
private theorem allSpell_cons : AllSpell spelled (p :: ps) ↔ p.Spells spelled ∧ AllSpell spelled ps :=
  by simp [AllSpell]

@[simp]
private theorem allSpell_append : AllSpell spelled (ps ++ qs) ↔ AllSpell spelled ps ∧ AllSpell spelled qs := by
  simp [AllSpell, or_imp, forall_and]

end Part

open Run Context Sandscript.Part

variable {c : Context} {spelled : String → Prop}

private theorem toCondition_keeps (v : Value) (pos : Position) : c.Keeps spelled (toCondition v pos) Free := by
  cases v with
  | bool b => exact .pure trivial
  | _ => exact .raised _ _

private theorem countIf_keeps (counted : Bool) (pos : Position) : c.Keeps spelled (countIf c counted pos) Free := by
  unfold countIf
  split
  · exact .step _ _
  · exact .pure trivial

private theorem checkParts_keeps (total : Size) (pos : Position) : c.Keeps spelled (checkParts c total pos) Free := by
  unfold checkParts
  split
  · exact .refused _ _
  · exact .pure trivial

private theorem declare_keeps (name : String) (v : Value) (constant : Bool) :
    c.Keeps spelled (declare name v constant) Free :=
  .modified fun _ => .of_called_eq rfl (List.suffix_cons _ _)

/-- The values of the variables that a closure holds. -/
private theorem held_keeps (pos : Position) (names : List String) :
    c.Keeps spelled (names.mapM fun name => do return (← c.find name pos).value) Free := by
  induction names with
  | nil => exact .pure trivial
  | cons name rest ih =>
    rw [List.mapM_cons]
    refine ((find_keeps _ _).bind fun _ _ => .pure trivial).bind fun v (_ : Free v) => ?_
    exact ih.bind fun _ _ => .pure trivial

/-! ### The recursion of the evaluation

The theorems below follow the clauses of `evalExpr` and its siblings one by one. -/

mutual

private theorem evalExpr_keeps (hc : c.Confined spelled) (counted : Bool) :
    ∀ e : Expr, (Part.expr e).Spells spelled → c.Keeps spelled (evalExpr c counted e) Free
  | .literal .., _ => by
    rw [evalExpr]
    exact (countIf_keeps _ _).bind fun _ _ => .pure trivial
  | .text _ pieces, h => by
    have hparts : AllSpell spelled (pieces.map .expr) := by simpa [live, walked, breakValue] using h.parts
    rw [evalExpr]
    exact (countIf_keeps _ _).bind fun _ _ => evalPieces_keeps hc _ pieces hparts
  | .array _ items, h => by
    have hparts : AllSpell spelled (items.map .expr) := by simpa [live, walked, breakValue] using h.parts
    rw [evalExpr]
    refine (countIf_keeps _ _).bind fun _ _ => ?_
    exact (evalItems_keeps hc _ items hparts).bind fun _ _ => .pure trivial
  | .map _ entries, h => by
    have hparts : AllSpell spelled (entries.map fun e => .expr e.2) := by
      simpa [live, walked, breakValue] using h.parts
    rw [evalExpr]
    refine (countIf_keeps _ _).bind fun _ _ => ?_
    exact (evalEntries_keeps hc _ entries hparts).bind fun _ _ => .pure trivial
  | .var .., _ => by
    rw [evalExpr]
    exact (countIf_keeps _ _).bind fun _ _ => (find_keeps _ _).bind fun _ _ => .pure trivial
  | .qualified .., _ => by
    rw [evalExpr]
    exact (countIf_keeps _ _).bind fun _ _ => qualified_keeps _ _ _
  | .this _, _ => by
    rw [evalExpr]
    exact (countIf_keeps _ _).bind fun _ _ => readThis_keeps _
  | .capture .., _ => by
    rw [evalExpr]
    exact (countIf_keeps _ _).bind fun _ _ => (held_keeps _ _).bind fun _ _ => .pure trivial
  | .unary _ _ arg, h => by
    have hparts : (Part.expr arg).Spells spelled := by simpa [live, walked, breakValue] using h.parts
    rw [evalExpr]
    refine (countIf_keeps _ _).bind fun _ _ => (evalExpr_keeps hc true arg hparts).bind fun v _ => ?_
    split
    · exact (KeepsTo.step _ _).bind fun _ _ => .ofExcept _ _
    · exact .ofExcept _ _
  | .binary pos op lhs rhs, h => by
    have hparts : (Part.expr lhs).Spells spelled ∧ (Part.expr rhs).Spells spelled := by
      simpa [live, walked, breakValue] using h.parts
    have hrhs := evalExpr_keeps hc true rhs hparts.2
    have hsecond : c.Keeps spelled (do return Value.bool (← toCondition (← evalExpr c true rhs) rhs.position)) Free :=
      hrhs.bind fun _ _ => (toCondition_keeps _ _).bind fun _ _ => .pure trivial
    rw [evalExpr]
    refine (countIf_keeps _ _).bind fun _ _ => (evalExpr_keeps hc _ lhs hparts.1).bind fun a _ => ?_
    split
    · refine (toCondition_keeps _ _).bind fun b _ => ?_
      split
      · exact hsecond
      · exact .pure trivial
    · refine (toCondition_keeps _ _).bind fun b _ => ?_
      split
      · exact .pure trivial
      · exact hsecond
    · split
      · exact hrhs
      · exact .pure trivial
    · refine hrhs.bind fun b _ => ?_
      have hend : c.Keeps spelled (do
          let v ← ofExcept pos (op.apply a b)
          checkSize c.limits v pos
          return v) Free :=
        (KeepsTo.ofExcept _ _).bind fun v _ => (KeepsTo.checkSize _ _ _).bind fun _ _ => .pure trivial
      split
      · exact (KeepsTo.step _ _).bind fun _ _ => hend
      · exact hend
  | .call _ path name _ args, h => by
    have hparts : AllSpell spelled (args.map .expr) := by simpa [live, walked, breakValue] using h.parts
    rw [evalExpr]
    refine (countIf_keeps _ _).bind fun _ _ => (evalArgs_keeps hc args hparts).bind fun a _ => ?_
    cases path with
    | nil => exact callNamed_keeps hc (h.name rfl) _ _ _
    | cons => exact callQualified_keeps _ _ _ _
  | .chain _ root links, h => by
    have hparts : (Part.expr root).Spells spelled ∧ AllSpell spelled (links.map .link) := by
      simpa [live, walked, breakValue] using h.parts
    rw [evalExpr]
    refine (countIf_keeps _ _).bind fun _ _ => (evalLinks_keeps hc _ links hparts.2).bind fun steps hsteps => ?_
    split
    · exact walkVariable_keeps hc _ _ _ hsteps
    · exact walkThis_keeps hc _ _ hsteps
    · exact (evalExpr_keeps hc true root hparts.1).bind fun v _ => walkValue_keeps hc _ _ hsteps
  | .statement s, h => by
    have hparts : (Part.stmt s).Spells spelled := by simpa [live, walked, breakValue] using h.parts
    rw [evalExpr]
    exact (countIf_keeps _ _).bind fun _ _ => evalStmt_keeps hc _ s hparts

private theorem evalExprs_keeps (hc : c.Confined spelled) :
    ∀ es : List Expr, AllSpell spelled (es.map .expr) → c.Keeps spelled (evalExprs c es) Free
  | [], _ => by
    rw [evalExprs]
    exact .pure trivial
  | e :: rest, h => by
    obtain ⟨he, hrest⟩ := allSpell_cons.1 h
    rw [evalExprs]
    refine (evalExpr_keeps hc true e he).bind fun _ _ => ?_
    exact (evalExprs_keeps hc rest hrest).bind fun _ _ => .pure trivial

private theorem evalArgs_keeps (hc : c.Confined spelled) :
    ∀ es : List Expr, AllSpell spelled (es.map .expr) → c.Keeps spelled (evalArgs c es) Free
  | [], _ => by
    rw [evalArgs]
    exact .pure trivial
  | e :: rest, h => by
    obtain ⟨he, hrest⟩ := allSpell_cons.1 h
    have hvalues := evalExprs_keeps hc rest hrest
    unfold evalArgs
    split
    · rename_i heq
      cases heq
    · rename_i heq
      cases heq
      refine (KeepsTo.step _ _).bind fun _ _ => hvalues.bind fun vs _ => ?_
      exact (variableArgument_keeps _ _).bind fun _ _ => .pure trivial
    · rename_i heq
      cases heq
      refine (KeepsTo.step _ _).bind fun _ _ => hvalues.bind fun vs _ => ?_
      exact (thisArgument_keeps _).bind fun _ _ => .pure trivial
    · rename_i heq
      cases heq
      refine (evalExpr_keeps hc true e he).bind fun v _ => ?_
      exact hvalues.bind fun _ _ => .pure trivial

private theorem evalItems_keeps (hc : c.Confined spelled) (total : Size) :
    ∀ es : List Expr, AllSpell spelled (es.map .expr) → c.Keeps spelled (evalItems c total es) Free
  | [], _ => by
    rw [evalItems]
    exact .pure trivial
  | e :: rest, h => by
    obtain ⟨he, hrest⟩ := allSpell_cons.1 h
    rw [evalItems]
    refine (evalExpr_keeps hc true e he).bind fun _ _ => (checkParts_keeps _ _).bind fun _ _ => ?_
    exact (evalItems_keeps hc _ rest hrest).bind fun _ _ => .pure trivial

private theorem evalEntries_keeps (hc : c.Confined spelled) (total : Size) :
    ∀ es : List (String × Expr), AllSpell spelled (es.map fun e => .expr e.2) →
      c.Keeps spelled (evalEntries c total es) Free
  | [], _ => by
    rw [evalEntries]
    exact .pure trivial
  | (_, e) :: rest, h => by
    obtain ⟨he, hrest⟩ := allSpell_cons.1 h
    rw [evalEntries]
    refine (evalExpr_keeps hc true e he).bind fun _ _ => (checkParts_keeps _ _).bind fun _ _ => ?_
    exact (evalEntries_keeps hc _ rest hrest).bind fun _ _ => .pure trivial

private theorem evalPieces_keeps (hc : c.Confined spelled) (s : String) :
    ∀ es : List Expr, AllSpell spelled (es.map .expr) → c.Keeps spelled (evalPieces c s es) Free
  | [], _ => by
    rw [evalPieces]
    exact .pure trivial
  | e :: rest, h => by
    obtain ⟨he, hrest⟩ := allSpell_cons.1 h
    rw [evalPieces]
    refine (evalExpr_keeps hc true e he).bind fun _ _ => (KeepsTo.checkSize _ _ _).bind fun _ _ => ?_
    exact evalPieces_keeps hc _ rest hrest

private theorem evalLinks_keeps (hc : c.Confined spelled) (simple : Bool) :
    ∀ links : List Link, AllSpell spelled (links.map .link) →
      c.Keeps spelled (evalLinks c simple links) fun steps => ∀ l ∈ steps, l.Fits spelled
  | [], _ => by
    rw [evalLinks]
    exact .pure (by simp)
  | .property .. :: rest, h => by
    obtain ⟨-, hrest⟩ := allSpell_cons.1 h
    rw [evalLinks]
    refine (countIf_keeps _ _).bind fun _ _ => (evalLinks_keeps hc simple rest hrest).bind fun steps hsteps => ?_
    exact .pure (List.forall_mem_cons.2 ⟨trivial, hsteps⟩)
  | .index _ _ key :: rest, h => by
    obtain ⟨hl, hrest⟩ := allSpell_cons.1 h
    have hkey : (Part.expr key).Spells spelled := by simpa [live, walked, breakValue] using hl.parts
    rw [evalLinks]
    refine (countIf_keeps _ _).bind fun _ _ => (evalExpr_keeps hc _ key hkey).bind fun k _ => ?_
    refine (evalLinks_keeps hc simple rest hrest).bind fun steps hsteps => ?_
    exact .pure (List.forall_mem_cons.2 ⟨trivial, hsteps⟩)
  | .method _ _ _ _ args :: rest, h => by
    obtain ⟨hl, hrest⟩ := allSpell_cons.1 h
    have hargs : AllSpell spelled (args.map .expr) := by simpa [live, walked, breakValue] using hl.parts
    rw [evalLinks]
    refine (countIf_keeps _ _).bind fun _ _ => (evalExprs_keeps hc args hargs).bind fun vs _ => ?_
    refine (evalLinks_keeps hc simple rest hrest).bind fun steps hsteps => ?_
    exact .pure (List.forall_mem_cons.2 ⟨hl.name rfl, hsteps⟩)

private theorem evalOption_keeps (hc : c.Confined spelled) :
    ∀ e : Option Expr, AllSpell spelled (e.toList.map .expr) → c.Keeps spelled (evalOption c e) Free
  | none, _ => by
    rw [evalOption]
    exact .pure trivial
  | some e, h => by
    have he : (Part.expr e).Spells spelled := by simpa using h
    rw [evalOption]
    exact evalExpr_keeps hc true e he

private theorem evalCondition_keeps (hc : c.Confined spelled) :
    ∀ e : Option Expr, AllSpell spelled (e.toList.map .expr) → c.Keeps spelled (evalCondition c e) Free
  | none, _ => by
    rw [evalCondition]
    exact .pure trivial
  | some e, h => by
    have he : (Part.expr e).Spells spelled := by simpa using h
    rw [evalCondition]
    exact (evalExpr_keeps hc true e he).bind fun _ _ => toCondition_keeps _ _

private theorem evalAssign_keeps (hc : c.Confined spelled) (op : Option BinaryOp) (v : Value) (pos : Position) :
    ∀ target : Expr, (Part.expr target).Spells spelled → c.Keeps spelled (evalAssign c op v pos target) Free
  | .var .., _ => by
    rw [evalAssign]
    exact assignVariable_keeps _ _ _ _ _
  | .this _, _ => by
    rw [evalAssign]
    exact assignThis_keeps _ _ _ _
  | .qualified .., _ => by
    rw [evalAssign]
    refine (KeepsTo.step _ _).bind fun _ _ => (qualified_keeps _ _ _).bind fun _ _ => ?_
    exact .raised _ _
  | .chain _ root links, h => by
    have hparts : (Part.expr root).Spells spelled ∧ AllSpell spelled (links.map .link) := by
      simpa [live, walked, breakValue] using h.parts
    rw [evalAssign]
    refine (evalLinks_keeps hc _ links hparts.2).bind fun steps hsteps => ?_
    split
    · exact (walkVariable_keeps hc _ _ _ hsteps).bind fun _ _ => .pure trivial
    · exact (walkThis_keeps hc _ _ hsteps).bind fun _ _ => .pure trivial
    · refine (KeepsTo.step _ _).bind fun _ _ => (qualified_keeps _ _ _).bind fun _ _ => ?_
      exact (walkValue_keeps hc _ _ hsteps).bind fun _ _ => .pure trivial
    · exact .pure trivial
  | .literal .., _ | .text .., _ | .array .., _ | .map .., _ | .capture .., _ | .unary .., _ | .binary .., _
  | .call .., _ | .statement _, _ => by
    simp only [evalAssign]
    exact .pure trivial

private theorem evalStmt_keeps (hc : c.Confined spelled) (counted : Bool) :
    ∀ s : Stmt, (Part.stmt s).Spells spelled → c.Keeps spelled (evalStmt c counted s) Free
  | .expr e, h => by
    have hparts : (Part.expr e).Spells spelled := by simpa [live, walked, breakValue] using h.parts
    rw [evalStmt]
    exact (countIf_keeps _ _).bind fun _ _ => evalExpr_keeps hc true e hparts
  | .declare _ _ _ _ value, h => by
    have hparts : AllSpell spelled (value.toList.map .expr) := by simpa [live, walked, breakValue] using h.parts
    rw [evalStmt]
    refine (countIf_keeps _ _).bind fun _ _ => (evalOption_keeps hc value hparts).bind fun v _ => ?_
    exact (declare_keeps _ _ _).bind fun _ _ => .pure trivial
  | .assign pos op target value, h => by
    have hparts : (Part.expr target).Spells spelled ∧ (Part.expr value).Spells spelled := by
      simpa [live, walked, breakValue] using h.parts
    rw [evalStmt]
    have hend : c.Keeps spelled (do
        let v ← evalExpr c true value
        evalAssign c op v pos target
        return Value.unit) Free :=
      (evalExpr_keeps hc true value hparts.2).bind fun v _ =>
        (evalAssign_keeps hc op v pos target hparts.1).bind fun _ _ => .pure trivial
    refine (countIf_keeps _ _).bind fun _ _ => ?_
    split
    · exact (readThis_keeps _).bind fun _ _ => hend
    · exact hend
  | .block _ body, h => by
    have hparts : AllSpell spelled (body.map .stmt) := by simpa [live, walked, breakValue] using h.parts
    rw [evalStmt]
    exact (countIf_keeps _ _).bind fun _ _ => (evalStmts_keeps hc _ body hparts).withNames
  | .ifElse _ condition yes no, h => by
    have hparts : (Part.expr condition).Spells spelled ∧ AllSpell spelled (yes.map .stmt) ∧
        AllSpell spelled (no.map .stmt) := by simpa [live, walked, breakValue] using h.parts
    rw [evalStmt]
    refine (countIf_keeps _ _).bind fun _ _ => (evalExpr_keeps hc true condition hparts.1).bind fun v _ => ?_
    refine (toCondition_keeps _ _).bind fun b _ => ?_
    split
    · exact (evalStmts_keeps hc _ yes hparts.2.1).withNames
    · exact (evalStmts_keeps hc _ no hparts.2.2).withNames
  | .switch _ subject cases otherwise, h => by
    have hparts : (Part.expr subject).Spells spelled ∧ AllSpell spelled (cases.map .arm) ∧
        AllSpell spelled (otherwise.toList.map .stmt) := by simpa [live, walked, breakValue] using h.parts
    rw [evalStmt]
    refine (countIf_keeps _ _).bind fun _ _ => (evalExpr_keeps hc true subject hparts.1).bind fun v _ => ?_
    refine (evalCases_keeps hc _ cases hparts.2.1).bind fun r _ => ?_
    split
    · exact .pure trivial
    · exact evalDefault_keeps hc otherwise hparts.2.2
  | .whileLoop _ condition bodyPos body, h => by
    have hparts : AllSpell spelled (condition.toList.map .expr) ∧ AllSpell spelled (body.map .stmt) := by
      simpa [live, walked, breakValue] using h.parts
    have hbody : c.Keeps spelled (do let _ ← evalStmts c .unit body) Free :=
      (evalStmts_keeps hc .unit body hparts.2).bind fun _ _ => .pure trivial
    rw [evalStmt]
    refine (countIf_keeps _ _).bind fun _ _ => .rounds (fun _ => ?_) _ _
    extract_lets round
    -- a round, once it is known whether there is one
    have hround (goesOn : Bool) : c.Keeps spelled (round goesOn) Free := by
      dsimp only [round]
      split
      · exact .pure trivial
      split
      · exact (KeepsTo.step _ _).bind fun _ _ => .pure trivial
      · refine hbody.withNames.body.bind fun left _ => ?_
        split
        · exact .pure trivial
        · exact .pure trivial
    split
    · exact hround true
    · exact (evalCondition_keeps hc condition hparts.1).bind fun goesOn _ => hround goesOn
  | .doWhile _ _ body condition, h => by
    have hparts : (Part.expr condition).Spells spelled ∧ AllSpell spelled (body.map .stmt) := by
      simpa [live, walked, breakValue] using h.parts
    rw [evalStmt]
    refine (countIf_keeps _ _).bind fun _ _ => .rounds (fun _ => ?_) _ _
    refine (evalStmts_keeps hc .unit body hparts.2).withNames.outcome.bind fun o _ => ?_
    split
    · exact .pure trivial
    · exact .pure trivial
    · exact .thrown _
    · refine (evalExpr_keeps hc true condition hparts.1).bind fun v _ => ?_
      exact (toCondition_keeps _ _).bind fun _ _ => .pure trivial
  | .forIn _ item counter source bodyPos body, h => by
    have hparts : (Part.expr source).Spells spelled ∧ AllSpell spelled (body.map .stmt) := by
      simpa [live, walked, breakValue] using h.parts
    have hbody : c.Keeps spelled (do let _ ← evalStmts c .unit body) Free :=
      (evalStmts_keeps hc .unit body hparts.2).bind fun _ _ => .pure trivial
    have hitem (v : Value) : c.Keeps spelled (do
        declare item v false
        if body.isEmpty then step c.limits bodyPos
        let _ ← evalStmts c .unit body) Free := by
      refine (declare_keeps _ _ _).bind fun _ _ => ?_
      split
      · exact (KeepsTo.step _ _).bind fun _ _ => hbody
      · exact hbody
    rw [evalStmt]
    refine (countIf_keeps _ _).bind fun _ _ => (evalExpr_keeps hc true source hparts.1).bind fun v _ => ?_
    split
    · exact .raised _ _
    · refine .rounds (fun r => ?_) _ _
      dsimp only
      split
      · exact .pure trivial
      · rename_i v rest _
        refine (KeepsTo.withNames ?_).body.bind fun left _ => ?_
        · split
          · exact (declare_keeps _ _ _).bind fun _ _ => hitem v
          · exact hitem v
        split
        · exact .pure trivial
        · exact .pure trivial
  | .breakLoop _ value, h => by
    have hparts : AllSpell spelled (value.toList.map .expr) := by simpa [live, walked, breakValue] using h.parts
    rw [evalStmt]
    exact (countIf_keeps _ _).bind fun _ _ => (evalOption_keeps hc value hparts).bind fun _ _ => .thrown _
  | .continueLoop _, _ => by
    rw [evalStmt]
    exact (countIf_keeps _ _).bind fun _ _ => .thrown _
  | .returnValue _ value, h => by
    have hparts : AllSpell spelled (value.toList.map .expr) := by simpa [live, walked, breakValue] using h.parts
    rw [evalStmt]
    exact (countIf_keeps _ _).bind fun _ _ => (evalOption_keeps hc value hparts).bind fun _ _ => .thrown _
  | .throwValue _ value, h => by
    have hparts : AllSpell spelled (value.toList.map .expr) := by simpa [live, walked, breakValue] using h.parts
    rw [evalStmt]
    exact (countIf_keeps _ _).bind fun _ _ => (evalOption_keeps hc value hparts).bind fun _ _ => .raised _ _
  | .tryCatch _ body _ handler, h => by
    have hparts : AllSpell spelled (body.map .stmt) ∧ AllSpell spelled (handler.map .stmt) := by
      simpa [live, walked, breakValue] using h.parts
    have hhandler := evalStmts_keeps hc .unit handler hparts.2
    rw [evalStmt]
    refine (countIf_keeps _ _).bind fun _ _ => ?_
    refine (evalStmts_keeps hc .unit body hparts.1).withNames.outcome.bind fun o _ => ?_
    split
    · exact .pure trivial
    · extract_lets handle recover
      -- the handler, with or without a variable for what was thrown
      have hrecover (u : PUnit) : c.Keeps spelled (recover u) Free := by
        dsimp only [recover, handle]
        refine (KeepsTo.withNames (R := Free) ?_).outcome.bind fun handled _ => ?_
        · split
          · exact (declare_keeps _ _ _).bind fun _ _ => hhandler
          · exact hhandler
        split
        · exact .pure trivial
        · exact .raised _ _
        · exact .thrown _
      split
      · exact (KeepsTo.thrown (R := Free) _).bind fun u _ => hrecover u
      · exact hrecover ⟨⟩
    · exact .thrown _
  | .importModule _ path _, h => by
    have hparts : (Part.expr path).Spells spelled := by simpa [live, walked, breakValue] using h.parts
    rw [evalStmt]
    refine (countIf_keeps _ _).bind fun _ _ => (evalExpr_keeps hc true path hparts).bind fun v _ => ?_
    split
    · exact .raised _ _
    · exact .raised _ _
  | .exportName .., _ => by
    rw [evalStmt]
    exact (countIf_keeps _ _).bind fun _ _ => .pure trivial

theorem evalStmts_keeps (hc : c.Confined spelled) (last : Value) :
    ∀ body : List Stmt, AllSpell spelled (body.map .stmt) → c.Keeps spelled (evalStmts c last body) Free
  | [], _ => by
    rw [evalStmts]
    exact .pure trivial
  | s :: rest, h => by
    obtain ⟨hs, hrest⟩ := allSpell_cons.1 h
    rw [evalStmts]
    exact (evalStmt_keeps hc true s hs).bind fun v _ => evalStmts_keeps hc v rest hrest

private theorem evalDefault_keeps (hc : c.Confined spelled) :
    ∀ s : Option Stmt, AllSpell spelled (s.toList.map .stmt) → c.Keeps spelled (evalDefault c s) Free
  | none, _ => by
    rw [evalDefault]
    exact .pure trivial
  | some s, h => by
    have hs : (Part.stmt s).Spells spelled := by simpa using h
    rw [evalDefault]
    exact (KeepsTo.step _ _).bind fun _ _ => (evalStmt_keeps hc _ s hs).withNames

private theorem evalCases_keeps (hc : c.Confined spelled) (rule : Label → Bool) :
    ∀ cases : List Case, AllSpell spelled (cases.map .arm) → c.Keeps spelled (evalCases c rule cases) Free
  | [], _ => by
    rw [evalCases]
    exact .pure trivial
  | .mk [] _ _ :: rest, h => by
    obtain ⟨-, hrest⟩ := allSpell_cons.1 h
    rw [evalCases]
    exact evalCases_keeps hc rule rest hrest
  | .mk (l :: labels) guard action :: rest, h => by
    obtain ⟨hcase, hrest⟩ := allSpell_cons.1 h
    have hparts : AllSpell spelled (guard.toList.map .expr) ∧ (Part.stmt action).Spells spelled := by
      simpa [live, walked, breakValue] using hcase.parts
    have haction : c.Keeps spelled (do
        step c.limits action.position
        return some (← withNames (evalStmt c (!action.isBlock) action))) Free :=
      (KeepsTo.step _ _).bind fun _ _ =>
        (evalStmt_keeps hc _ action hparts.2).withNames.bind fun _ _ => .pure trivial
    have hend (taken : Bool) : c.Keeps spelled (if taken then do
        step c.limits action.position
        return some (← withNames (evalStmt c (!action.isBlock) action))
        else evalCases c rule rest) Free := by
      split
      · exact haction
      · exact evalCases_keeps hc rule rest hrest
    rw [evalCases]
    split
    · exact (evalCondition_keeps hc guard hparts.1).bind fun taken _ => hend taken
    · exact hend false

end

end Sandscript
