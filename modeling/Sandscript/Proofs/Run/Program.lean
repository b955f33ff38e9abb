import Sandscript.Proofs.Run.Evaluation
import Sandscript.Run.Program

/-!
# The calls and the names of a program

However deep its functions may call each other, a program calls no functions of the language but those that its parts
spell out, unless it runs a text with `eval` (`Program.called_fits`), and it loses none of the names that it is given
(`Program.names_suffix`).
-/

namespace Sandscript

open Run Context Sandscript.Part

variable {spelled : String → Prop}

private theorem unlessEmpty_keeps {Q : Callee → Prop} {r : Run Value} (h : KeepsTo Q r Free) (f : FunctionDef)
    (this : Option Receiver) : KeepsTo Q (unlessEmpty f this r) Free := by
  unfold unlessEmpty
  split
  · exact (KeepsTo.modified fun _ => .of_eq (by rfl) (by rfl)).bind fun _ _ => .pure trivial
  · exact h

variable {c : Context}

/-- After a call its caller finds the names that it had. -/
private theorem leave_extends {Q : Callee → Prop} {s t : RunState} {own : List Binding} {this : Option Receiver}
    {inScope : Bool} (h : RunState.Extends Q { s with scope := own ++ (if inScope then s.scope else []), this } t) :
    s.Extends Q (s.leave t inScope) := by
  refine ⟨h.called, ?_⟩
  cases inScope with
  | false => exact List.suffix_rfl
  | true =>
    have hnames : s.names <:+ t.names := by
      have hown : s.names <:+ (own ++ s.scope).map (·.name) := by
        rw [List.map_append]
        exact List.suffix_append _ _
      exact hown.trans h.names
    exact (map_name_cutScope hnames).symm ▸ List.suffix_rfl

/-- A function gets names of its own and gives them back; neither is a call. -/
private theorem runFunction_keeps (hc : c.Confined spelled) {f : FunctionDef}
    (hbody : AllSpell spelled (f.body.map .stmt))
    (this : Option Receiver) (inScope : Bool) (args : List Value) (pos : Position) :
    c.Keeps spelled (runFunction c f this inScope args pos) Free := by
  intro s
  unfold runFunction
  extract_lets inner
  have hrun := evalStmts_keeps hc .unit f.body hbody inner
  cases h : evalStmts c .unit f.body inner with
  | ok v t =>
    rw [h] at hrun
    exact ⟨leave_extends hrun.1, trivial⟩
  | error e t =>
    rw [h] at hrun
    cases e with
    | returned v => exact ⟨leave_extends hrun, trivial⟩
    | _ => exact leave_extends hrun

/-- A text may spell out anything. -/
private theorem runText_keeps (hc : c.Confined spelled) (hall : ∀ name, spelled name) (limits : ParserLimits)
    (text : String) (pos : Position) : c.Keeps spelled (runText c limits text pos) Free := by
  intro s
  unfold runText
  extract_lets failed
  cases Program.parse limits text with
  | error e => exact .refl
  | ok p =>
    dsimp only
    cases p.functions.isEmpty with
    | false => exact .refl
    | true =>
      -- nothing is known about the text, and nothing has to be
      have hbody : AllSpell spelled (p.main.map .stmt) := fun _ _ _ _ name _ _ => hall name
      have hrun := evalStmts_keeps hc .unit p.main hbody s
      simp only [Bool.not_true, Bool.false_eq_true, if_false]
      cases h : evalStmts c .unit p.main s with
      | ok v t =>
        rw [h] at hrun
        exact hrun
      | error e t =>
        rw [h] at hrun
        cases e with
        | returned v => exact ⟨hrun, trivial⟩
        | _ => exact hrun

/-- By induction on the levels of nesting that are left; with none left every call fails. -/
theorem callsAt_confined (limits : RunLimits) {functions : List FunctionDef}
    (hbodies : ∀ f ∈ functions, AllSpell spelled (f.body.map .stmt)) (heval : spelled "eval" → ∀ name, spelled name)
    (n : Nat) : Confined { limits, functions, calls := callsAt limits functions n } spelled := by
  have hstep {Q : Callee → Prop} {α : Type} {r : Run α} (pos : Position) (h : KeepsTo Q r Free) :
      KeepsTo Q (do step limits pos; r) Free := (KeepsTo.step limits pos).bind fun _ _ => h
  induction n with
  | zero =>
    refine ⟨fun f _ this _ _ pos => ?_, fun f _ this _ pos => ?_, fun _ _ _ => ?_⟩
    · exact unlessEmpty_keeps (hstep pos (.refused _ _)) f this
    · exact unlessEmpty_keeps (hstep pos (.refused _ _)) f this
    · exact .refused _ _
  | succ n ih =>
    refine ⟨fun f hf this inScope args pos => ?_, fun f hf this args pos => ?_, fun h text pos => ?_⟩
    · exact unlessEmpty_keeps (hstep pos (runFunction_keeps ih (hbodies f hf) this inScope args pos)) f this
    · exact ih.invoke f hf this false args pos
    · exact runText_keeps ih (heval h) {} text pos

namespace Program

/-- However a program ends, its last state tells what it called and which names it left. -/
private theorem exists_last_state {p : Program} (hroots : AllSpell spelled (p.roots.map .stmt))
    (heval : spelled "eval" → ∀ name, spelled name) (limits : RunLimits) (scope : List Binding) :
    ∃ t : RunState, RunState.Extends (Callee.Fits spelled p.functions) { scope } t ∧
      (p.evaluate limits scope).called = t.called.reverse ∧ (p.evaluate limits scope).scope = t.scope := by
  have hmain : AllSpell spelled (p.main.map .stmt) := by
    intro q hq
    rw [roots, List.map_append] at hroots
    exact hroots q (List.mem_append_left _ hq)
  have hbodies : ∀ f ∈ p.functions, AllSpell spelled (f.body.map .stmt) := by
    intro f hf q hq
    obtain ⟨s, hs, rfl⟩ := List.mem_map.1 hq
    exact hroots _ (List.mem_map_of_mem (List.mem_append_right _ (List.mem_flatMap.2 ⟨f, hf, hs⟩)))
  have hc := callsAt_confined limits hbodies heval limits.depth
  have hrun := evalStmts_keeps hc .unit p.main hmain { scope }
  unfold evaluate
  extract_lets c ended
  split <;> rename_i hend <;> rw [hend] at hrun
  · exact ⟨_, hrun.1, rfl, rfl⟩
  · exact ⟨_, hrun, rfl, rfl⟩
  · exact ⟨_, hrun, rfl, rfl⟩
  · exact ⟨_, hrun, rfl, rfl⟩
  · exact ⟨_, hrun, rfl, rfl⟩
  · exact ⟨_, hrun, rfl, rfl⟩

/-- A program loses none of the names that it is given. -/
theorem names_suffix (p : Program) (limits : RunLimits) (scope : List Binding) :
    scope.map (·.name) <:+ (p.evaluate limits scope).scope.map (·.name) := by
  -- what the program calls does not matter
  obtain ⟨t, hext, -, hscope⟩ := @exists_last_state (fun _ => True) p (fun _ _ _ _ _ _ _ => trivial)
    (fun _ _ => trivial) limits scope
  rw [hscope]
  exact hext.names

/-- A name that a program is given still stands for something at its end. -/
theorem exists_value? (p : Program) (limits : RunLimits) (scope : List Binding) {b : Binding} (h : b ∈ scope) :
    ∃ v, (p.evaluate limits scope).value? b.name = some v := by
  have hname : b.name ∈ (p.evaluate limits scope).scope.map (·.name) :=
    (names_suffix p limits scope).subset (List.mem_map_of_mem h)
  obtain ⟨last, hlast, heq⟩ := List.mem_map.1 hname
  have hfound : ((p.evaluate limits scope).scope.find? (·.name == b.name)).isSome := by
    rw [List.find?_isSome]
    exact ⟨last, hlast, by rw [heq, beq_self_eq_true]⟩
  obtain ⟨found, hfound⟩ := Option.isSome_iff_exists.1 hfound
  exact ⟨found.value, by rw [Evaluation.value?, hfound]; rfl⟩

end Program

end Sandscript
