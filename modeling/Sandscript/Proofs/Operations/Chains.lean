import Sandscript.Proofs.Operations.Calls
import Sandscript.Proofs.Run.Chain

/-!
# Chains with a limit on the operations

A chain whose walk is stopped still has to put back what was changed, so the stop is carried in the result of the walk
(`Walked.Stopped`) until the variable or the value at the start of the chain has been written.
-/

namespace Sandscript

open Run

/-- The walk was stopped for good. -/
def Walked.Stopped (w : Walked) : Prop := Holds Never w.result

namespace Context

variable {c : Context} {n : Nat}

/-! ### Parts of a walk -/

private theorem assigned_obeys (hc : c.Metered n) (root : Option ConstantRoot) (op : Option BinaryOp) (old new : Value)
    (pos : Position) : Obeys n (c.assigned root op old new pos) Never := by
  unfold assigned
  split
  · exact .raised _ _
  · split
    · exact .pure _
    · refine (Obeys.steps hc.limit _ _).bind fun _ => (Obeys.ofExcept _ _).bind fun v => ?_
      exact (Obeys.checkSize _ _).bind fun _ => .pure _

/-- A stop that was made a value is the result of the walk. -/
private theorem outcome_obeys {r : Run Value} (h : Obeys n r Never) {f : Except Stop Value → Walked}
    (hf : ∀ o, (f o).result = o) :
    Obeys n (do return f (← outcome r)) Walked.Stopped := by
  refine h.outcome.bind_handing (fun _ => .pure _) fun o ho => .pure ?_
  unfold Walked.Stopped
  rw [hf]
  exact ho

private theorem onThis_obeys {call : Option Receiver → Run Value} (h : ∀ this, Obeys n (call this) Never)
    (target : Value) (constant : Bool) : Obeys n (onThis target constant call) Walked.Stopped := by
  refine (h _).outcome.bind_handing (fun _ => Obeys.read.bind fun _ => .pure _) fun o ho => ?_
  exact HandsOn.read_bind fun _ => .pure ho

private theorem libraryMethod_obeys (hc : c.Metered n) (constant : Bool) (name : String) (target : Value)
    (args : List Value) (pos : Position) : Obeys n (c.libraryMethod constant name target args pos) Walked.Stopped := by
  unfold libraryMethod
  refine (callLibrary_obeys hc _ _ _ _).outcome.bind_handing (fun o => ?_) fun o ho => ?_
  · split
    · exact .pure _
    · exact .pure _
  · cases o with
    | error e => exact .pure ho
    | ok effect => exact ho.elim

private theorem callMethod_obeys (hc : c.Metered n) (constant : Bool) (name : String) (target : Value)
    (args : List Value) (pos : Position) : Obeys n (c.callMethod constant name target args pos) Walked.Stopped := by
  unfold callMethod
  extract_lets entry? function own gives
  clear_value entry?
  have hfunction (f : String) (args : List Value) : Obeys n (function f args) Walked.Stopped := by
    dsimp only [function]
    split
    · rename_i d hd
      exact onThis_obeys (fun this => hc.invokes (mem_of_function? hd) this _ _ _) target constant
    · exact libraryMethod_obeys hc _ _ _ _ _
  have hown {r : Run Walked} (hr : Obeys n r Walked.Stopped) : Obeys n (own r) Walked.Stopped :=
    (Obeys.noted _ _).bind fun _ => hr
  have hgives (v : Value) : Obeys n (gives v) Walked.Stopped := hown (.pure _)
  -- first the methods of the language, then those of the script and of the library
  split
  · exact hgives _
  · exact hgives _
  · exact hown (outcome_obeys (callFunction_obeys hc _ _ _ _) fun _ => rfl)
  · exact hown (hfunction _ _)
  · exact hgives _
  · split
    · exact hfunction _ _
    · exact hfunction _ _

private theorem propertyOf_obeys (hc : c.Metered n) (goal : ChainGoal) (isLast : Bool) (name : String) (target : Value)
    (pos : Position) : Obeys n (c.propertyOf goal isLast name target pos) Never := by
  unfold propertyOf
  refine (hc.step _).bind fun _ => ?_
  split
  · exact .raised _ _
  · exact .raised _ _
  · exact .pure _
  · exact (assigned_obeys hc _ _ _ _ _).bind fun _ => .raised _ _

private theorem leadOf_obeys (hc : c.Metered n) (goal : ChainGoal) (isLast : Bool) (target : Value) (link : ChainStep) :
    Obeys n (c.leadOf goal isLast target link) Never := by
  cases link with
  | property pos optional name =>
    dsimp only [leadOf]
    split
    · exact (hc.step _).bind fun _ => .pure _
    · exact propertyOf_obeys hc _ _ _ _ _
  | index pos keyPos optional key =>
    refine (hc.step _).bind fun _ => ?_
    split
    · exact .pure _
    · exact .raised _ _
    · exact .raised _ _
    · exact .raised _ _
  | method pos optional name args => exact .pure _

private theorem putAssigned_obeys (target : Value) (s : Spot) (new : Value) (pos : Position) :
    Obeys n (c.putAssigned target s new pos) Walked.Stopped := by
  unfold putAssigned
  split
  · exact .pure _
  · exact outcome_obeys ((Obeys.checkSize _ _).bind fun _ => .pure _) fun _ => rfl

/-! ### Walking -/

private theorem walk_obeys (hc : c.Metered n) (root : Option ConstantRoot) (goal : ChainGoal) (writes : Bool)
    (links : List ChainStep) (target : Value) : Obeys n (c.walk root goal writes links target) Walked.Stopped := by
  induction links generalizing root target with
  | nil =>
    unfold walk
    split
    · exact .pure _
    · refine (assigned_obeys hc _ _ _ _ _).outcome.bind_handing (fun o => ?_) fun o ho => ?_
      · split
        · exact .pure _
        · exact .pure _
      · cases o with
        | error e => exact .pure ho
        | ok v => exact ho.elim
  | cons link rest ih =>
    unfold walk
    split
    · exact .pure _
    refine (leadOf_obeys hc goal _ target link).outcome.bind_handing (fun o => ?_) fun o ho => ?_
    · split
      · exact .pure _
      · exact (ih _ _).bind_handing (fun _ => .pure _) fun _ hpart => .pure hpart
      · refine (callMethod_obeys hc _ _ _ _ _).bind_handing (fun called => ?_) fun called hcalled => ?_
        · split
          · exact .pure _
          · exact (ih _ _).bind_handing (fun _ => .pure _) fun _ hpart => .pure hpart
        · -- a method that was stopped ends the walk
          cases hresult : called.result with
          | error e => exact .pure hcalled
          | ok v =>
            rw [Walked.Stopped, hresult] at hcalled
            exact hcalled.elim
      · refine (ih _ _).bind_handing (fun part => ?_) fun part hpart => ?_
        · split
          · exact .pure _
          · exact putAssigned_obeys _ _ _ _
          · exact .pure _
          · exact .pure _
        · -- however a part is put back, its stop is the stop of the whole
          split
          · exact .pure hpart
          · rename_i hok _
            rw [Walked.Stopped, hok] at hpart
            exact hpart.elim
          · exact .pure hpart
          · exact .pure hpart
    · cases o with
      | error e => exact .pure ho
      | ok lead => exact ho.elim

/-! ### Variables -/

private theorem currentThis_obeys (pos : Position) : Obeys n (currentThis pos) Never := by
  refine Obeys.read.bind fun s => ?_
  split
  · exact .pure _
  · exact .raised _ _

theorem readThis_obeys (pos : Position) : Obeys n (readThis pos) Never :=
  (currentThis_obeys pos).bind fun _ => .pure _

private theorem assign_obeys (name : String) (v : Value) : Obeys n (Run.assign name v) Never :=
  .modified (fun _ => rfl) (fun _ => rfl) fun _ => rfl

private theorem setThis_obeys (v : Value) : Obeys n (setThis v) Never :=
  .modified (fun _ => by rfl) (fun _ => by rfl) fun _ => by rfl

theorem assignVariable_obeys (hc : c.Metered n) (name : String) (namePos : Position) (op : Option BinaryOp) (v : Value)
    (pos : Position) : Obeys n (c.assignVariable name namePos op v pos) Never :=
  (hc.step _).bind fun _ => (find_obeys _ _).bind fun _ => (assigned_obeys hc _ _ _ _ _).bind fun _ => assign_obeys _ _

theorem assignThis_obeys (hc : c.Metered n) (thisPos : Position) (op : Option BinaryOp) (v : Value) (pos : Position) :
    Obeys n (c.assignThis thisPos op v pos) Never :=
  (hc.step _).bind fun _ => (currentThis_obeys _).bind fun _ => (assigned_obeys hc _ _ _ _ _).bind fun _ =>
    setThis_obeys _

/-- What has been walked is stored, even if the walk was stopped, and the stop goes on behind it. -/
theorem walkVariable_obeys (hc : c.Metered n) (name : String) (namePos : Position) (goal : ChainGoal)
    (links : List ChainStep) : Obeys n (c.walkVariable name namePos goal links) Never := by
  refine (hc.step _).bind fun _ => (find_obeys _ _).bind fun b => ?_
  refine (walk_obeys hc _ _ _ _ _).bind_handing (fun w => ?_) fun w hw => ?_
  · split
    · exact (assign_obeys _ _).bind fun _ => .ofOutcome _
    · exact .ofOutcome _
  · split
    · exact HandsOn.modify_bind (.ofOutcome hw)
    · exact .ofOutcome hw

theorem walkThis_obeys (hc : c.Metered n) (thisPos : Position) (goal : ChainGoal) (links : List ChainStep) :
    Obeys n (c.walkThis thisPos goal links) Never := by
  refine (hc.step _).bind fun _ => (currentThis_obeys _).bind fun r => ?_
  refine (walk_obeys hc _ _ _ _ _).bind_handing (fun w => ?_) fun w hw => ?_
  · split
    · exact (setThis_obeys _).bind fun _ => .ofOutcome _
    · exact .ofOutcome _
  · split
    · exact HandsOn.modify_bind (.ofOutcome hw)
    · exact .ofOutcome hw

theorem walkValue_obeys (hc : c.Metered n) (v : Value) (goal : ChainGoal) (links : List ChainStep) :
    Obeys n (c.walkValue v goal links) Never :=
  (walk_obeys hc _ _ _ _ _).bind_handing (fun _ => .ofOutcome _) fun _ hw => .ofOutcome hw

theorem qualified_obeys (root : Position) (path : List String) (name : String) :
    Obeys n (qualified root path name) Never := by
  unfold qualified
  split
  · split
    · exact .pure _
    · exact .raised _ _
  · exact .raised _ _

/-! ### Calls by name -/

theorem variableArgument_obeys (name : String) (pos : Position) : Obeys n (c.variableArgument name pos) Never :=
  (find_obeys _ _).bind fun _ => .pure _

theorem thisArgument_obeys (pos : Position) : Obeys n (thisArgument pos) Never :=
  (currentThis_obeys _).bind fun _ => .pure _

private theorem store_obeys (source : Source) (v : Value) : Obeys n (source.store v) Never := by
  cases source with
  | value => exact .pure _
  | named name => exact assign_obeys name v
  | this => exact setThis_obeys v

private theorem languageCall?_obeys (hc : c.Metered n) {name : String} (heval : name ≠ "eval") {a : Arguments}
    {pos : Position} {r : Run Value} (h : c.languageCall? name a pos = some r) : Obeys n r Never := by
  unfold languageCall? at h
  split at h
  case h_1 =>
    cases h
    exact (Obeys.ofExcept _ _).bind fun _ => .pure _
  case h_2 =>
    cases h
    exact .raised _ _
  case h_3 | h_4 => exact absurd rfl heval
  case h_7 =>
    cases h
    exact Obeys.read.bind fun _ => .pure _
  case h_9 =>
    cases h
    exact callFunction_obeys hc _ _ _ _
  case h_5 | h_6 | h_8 | h_10 =>
    cases h
    exact .pure _
  case h_11 => cases h

theorem callNamed_obeys (hc : c.Metered n) (name : String) (inScope : Bool) (a : Arguments) (pos : Position) :
    Obeys n (c.callNamed name inScope a pos) Never := by
  unfold callNamed
  split
  · rename_i r hr
    by_cases heval : name = "eval"
    · exact .noted_bind (Or.inr ⟨rfl, heval⟩) (languageCall?_keeps hc.confined (fun _ => trivial) hr)
    · exact (Obeys.noted _ _).bind fun _ => languageCall?_obeys hc heval hr
  · split
    · rename_i f hf
      exact hc.invokes (mem_of_function? hf) _ _ _ _
    · refine (callLibrary_obeys hc _ _ _ _).bind fun e => ?_
      split
      · exact (store_obeys _ _).bind fun _ => .ofOutcome _
      · exact .ofOutcome _

theorem callQualified_obeys (path : List String) (name : String) (a : Arguments) (pos : Position) :
    Obeys n (callQualified path name a pos) Never := by
  unfold callQualified
  split
  · split
    · exact (Obeys.noted _ _).bind fun _ => .pure _
    · exact .raised _ _
  · exact .raised _ _

end Context

end Sandscript
