import Sandscript.Proofs.Operations.Rules
import Sandscript.Proofs.Run.Calls

/-!
# Calls with a limit on the operations

A call of the library takes a step and otherwise leaves the counts alone, unless it asks a callback, which loosens the
limit.  What a call of a function of the script does is up to the context (`Context.Metered`).
-/

namespace Sandscript

namespace Context

open Run

/-- What a context runs has a limit of `n` operations, and its functions obey it. -/
structure Metered (c : Context) (n : Nat) : Prop where
  limit : c.limits.maxOperations? = some n
  confined : c.Confined fun _ => True
  invoke : ∀ f ∈ c.functions, ∀ this inScope args pos, Obeys n (c.calls.invoke f this inScope args pos) Never

variable {c : Context} {n : Nat}

theorem Metered.step (hc : c.Metered n) (pos : Position) : Obeys n (Run.step c.limits pos) Never :=
  .step hc.limit pos

theorem Metered.invokes (hc : c.Metered n) {f : FunctionDef} (hf : f ∈ c.functions) (this : Option Receiver)
    (inScope : Bool) (args : List Value) (pos : Position) : Obeys n (c.invoke f this inScope args pos) Never :=
  (Obeys.noted _ _).bind fun _ => hc.invoke f hf this inScope args pos

theorem find_obeys (name : String) (pos : Position) : Obeys n (c.find name pos) Never := by
  unfold find
  refine (Obeys.checkName _ _).bind fun _ => Obeys.read.bind fun s => ?_
  dsimp only
  split
  · exact .pure _
  · split
    · exact .pure _
    · split
      · exact .pure _
      · exact .raised _ _

/-! ### The library -/

private theorem checked_obeys (e : Effect) (pos : Position) : Obeys n (c.checked e pos) Never := by
  unfold checked
  extract_lets finish checkObject
  have hobject (u : PUnit) : Obeys n (checkObject u) Never := by
    dsimp only [checkObject, finish]
    split
    · exact (Obeys.checkSize _ _).bind fun _ => .pure _
    · exact .pure _
  split
  · exact (Obeys.checkSize _ _).bind fun u => hobject u
  · exact hobject ⟨⟩

private theorem checkConstant_obeys (constant : Bool) (name : String) (args : List Value) (pos : Position) :
    Obeys n (checkConstant constant name args pos) Never := by
  unfold checkConstant
  split
  · split
    · exact .raised _ _
    · exact .pure _
  · exact .pure _

private theorem callPlain_obeys (hc : c.Metered n) (constant : Bool) (name : String) (args : List Value)
    (pos : Position) :
    Obeys n (c.callPlain constant name args pos) Never := by
  unfold callPlain
  refine (hc.step _).bind fun _ => ?_
  split
  · refine (Obeys.noted _ _).bind fun _ => (Obeys.checkSize _ _).bind fun _ => ?_
    exact (Obeys.modified (fun _ => by rfl) (fun _ => by rfl) fun _ => by rfl).bind fun _ => .pure _
  · split
    · refine (Obeys.noted _ _).bind fun _ => (checkConstant_obeys _ _ _ _).bind fun _ => ?_
      exact (Obeys.ofExcept _ _).bind fun e => checked_obeys e pos
    · exact .raised _ _

theorem callLibrary_obeys (hc : c.Metered n) (constant : Bool) (name : String) (args : List Value) (pos : Position) :
    Obeys n (c.callLibrary constant name args pos) Never := by
  unfold callLibrary
  split
  · rename_i callback run hrun
    have hasked : c.Keeps (fun _ => True) (do
        checkConstant constant name args pos
        checked c (← run (← ofExcept pos callback)) pos) Free := by
      refine (checkConstant_keeps _ _ _ _).bind fun _ _ => (KeepsTo.ofExcept _ _).bind fun f _ => ?_
      exact (asked?_keeps hc.confined hrun f).bind fun e _ => checked_keeps e pos
    exact (hc.step _).bind fun _ => .noted_bind (Or.inl rfl) hasked
  · exact callPlain_obeys hc _ _ _ _

theorem callFunction_obeys (hc : c.Metered n) (name : String) (held args : List Value) (pos : Position) :
    Obeys n (c.callFunction name held args pos) Never := by
  unfold callFunction
  dsimp only
  split
  · rename_i f hf
    exact hc.invokes (mem_of_function? hf) _ _ _ _
  · exact (callLibrary_obeys hc _ _ _ _).bind fun e => .ofOutcome _

end Context

end Sandscript
