import Sandscript.Proofs.Operations.Evaluation
import Sandscript.Proofs.Run.Program

/-!
# Programs with a limit on their operations

However deep its functions call each other, a program that comes to its end has taken no more steps than its limit
admits, unless it called something that loosens the limit (`Program.steps_le_of_finished`).
-/

namespace Sandscript

open Run Context

variable {c : Context} {n : Nat}

private theorem unlessEmpty_obeys {r : Run Value} (h : Obeys n r Never) (f : FunctionDef) (this : Option Receiver) :
    Obeys n (unlessEmpty f this r) Never := by
  unfold unlessEmpty
  split
  · exact (Obeys.modified (fun _ => by rfl) (fun _ => by rfl) fun _ => by rfl).bind fun _ => .pure _
  · exact h

/-- A final stop leaves a function as it is. -/
private theorem final_leaving {r : Raised} (h : Stop.Final (.raised r)) (f : FunctionDef) (pos : Position) :
    Stop.Final (.raised (r.leaving f pos)) := by
  have hsystem : r.fault.isSystem = true := h
  unfold Raised.leaving
  rw [if_pos hsystem]
  exact hsystem

private theorem runFunction_obeys (hc : c.Metered n) (f : FunctionDef) (this : Option Receiver) (inScope : Bool)
    (args : List Value) (pos : Position) : Obeys n (runFunction c f this inScope args pos) Never := by
  intro s hs
  unfold runFunction
  extract_lets inner
  have hrun := evalStmts_obeys hc .unit f.body inner (hs.of_eq rfl rfl rfl)
  have hleave {t : RunState} (ht : t.Within n) : (s.leave t inScope).Within n := ht.of_eq rfl rfl rfl
  cases h : evalStmts c .unit f.body inner with
  | ok v t =>
    rw [h] at hrun
    exact Or.inl (hleave (hrun.resolve_right id))
  | error e t =>
    rw [h] at hrun
    cases e with
    | returned v => exact Or.inl (hleave (hrun.resolve_right id))
    | raised r => exact hrun.imp hleave fun hfinal => final_leaving hfinal f pos
    | leftLoop v => exact hrun.imp_left hleave
    | nextRound => exact hrun.imp_left hleave
    | outOfTime => exact hrun.imp_left hleave

/-- By induction on the levels of nesting that are left. -/
private theorem callsAt_metered {limits : RunLimits} (hlimit : limits.maxOperations? = some n)
    (functions : List FunctionDef)
    (depth : Nat) : Metered { limits, functions, calls := callsAt limits functions depth } n := by
  have hconfined (k : Nat) : Confined { limits, functions, calls := callsAt limits functions k } fun _ => True :=
    callsAt_confined limits (fun _ _ _ _ _ _ _ _ _ => trivial) (fun _ _ => trivial) k
  induction depth with
  | zero =>
    refine ⟨hlimit, hconfined 0, fun f _ this _ _ pos => unlessEmpty_obeys ?_ f this⟩
    exact (Obeys.step hlimit pos).bind fun _ => .refused _ _
  | succ depth ih =>
    refine ⟨hlimit, hconfined (depth + 1), fun f _ this inScope args pos => unlessEmpty_obeys ?_ f this⟩
    exact (Obeys.step hlimit pos).bind fun _ => runFunction_obeys ih f this inScope args pos

/-- A program that ends and loosens no limit has taken at most as many steps as it may take operations. -/
theorem Program.steps_le_of_finished {p : Program} {limits : RunLimits} {scope : List Binding} {v : Value}
    (hlimit : limits.maxOperations? = some n) (hend : (p.evaluate limits scope).ending = .finished v)
    (hcalled : ∀ callee ∈ (p.evaluate limits scope).called, ¬ callee.Loosens) :
    (p.evaluate limits scope).steps ≤ n := by
  have hrun := evalStmts_obeys (callsAt_metered hlimit p.functions limits.depth) .unit p.main { scope }
    (Or.inr ⟨rfl, Nat.zero_le n⟩)
  have hwithin {s : RunState} (hs : s.Within n) (hnone : ∀ callee ∈ s.called.reverse, ¬ callee.Loosens) :
      s.steps ≤ n := by
    rcases hs with ⟨callee, hcallee, hloosens⟩ | ⟨-, hle⟩
    · exact absurd hloosens (hnone callee (List.mem_reverse.2 hcallee))
    · exact hle
  unfold evaluate at hend hcalled ⊢
  extract_lets at hend hcalled ⊢
  cases h : evalStmts _ .unit p.main { scope } with
  | ok w s =>
    rw [h] at hrun hcalled
    exact hwithin (hrun.resolve_right id) hcalled
  | error e s =>
    rw [h] at hrun hend hcalled
    cases e with
    | returned w => exact hwithin (hrun.resolve_right id) hcalled
    | leftLoop w => exact hwithin (hrun.resolve_right id) hcalled
    | nextRound => exact hwithin (hrun.resolve_right id) hcalled
    | raised r => cases hend
    | outOfTime => cases hend

end Sandscript
