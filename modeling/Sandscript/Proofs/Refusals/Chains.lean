import Sandscript.Proofs.Refusals.Calls

/-!
# Chains without refusals

A chain is walked in the same way with limits and without, and so are the steps around it: assignments, `this` and calls
by name.
-/

namespace Sandscript

namespace Context

open Run

variable {P : Prop} {c : Context} {calls : Calls}

/-! ### Links -/

private theorem assigned_agrees (root : Option ConstantRoot) (op : Option BinaryOp) (old new : Value) (pos : Position) :
    Agrees P (c.assigned root op old new pos) ((c.unguarded calls).assigned root op old new pos) := by
  unfold assigned
  split
  · exact .raised _ _
  · split
    · exact .pure _
    · refine (Agrees.steps _ _ _).bind fun _ => (Agrees.ofExcept _ _).bind fun v => ?_
      exact (Agrees.checkSize _ _ _).bind fun _ => .pure _

private theorem onThis_agrees {call call' : Option Receiver → Run Value} (h : ∀ this, Agrees P (call this) (call' this))
    (target : Value) (constant : Bool) : Agrees P (onThis target constant call) (onThis target constant call') :=
  (h _).outcome.bind fun _ => Agrees.read.bind fun _ => .pure _

private theorem propertyOf_agrees (goal : ChainGoal) (isLast : Bool) (name : String) (target : Value) (pos : Position) :
    Agrees P (c.propertyOf goal isLast name target pos)
      ((c.unguarded calls).propertyOf goal isLast name target pos) := by
  unfold propertyOf
  refine (Agrees.step _ _).bind fun _ => ?_
  split
  · exact .raised _ _
  · exact .raised _ _
  · exact .pure _
  · exact (assigned_agrees _ _ _ _ _).bind fun _ => .raised _ _

private theorem leadOf_agrees (goal : ChainGoal) (isLast : Bool) (target : Value) (link : ChainStep) :
    Agrees P (c.leadOf goal isLast target link) ((c.unguarded calls).leadOf goal isLast target link) := by
  cases link with
  | property pos optional name =>
    dsimp only [leadOf]
    split
    · exact (Agrees.step _ _).bind fun _ => .pure _
    · exact propertyOf_agrees _ _ _ _ _
  | index pos keyPos optional key =>
    refine (Agrees.step _ _).bind fun _ => .self ?_
    split
    · exact .pure _
    · exact .raised _ _
    · exact .raised _ _
    · exact .raised _ _
  | method pos optional name args => exact .pure _

private theorem putAssigned_agrees (target : Value) (s : Spot) (new : Value) (pos : Position) :
    Agrees P (c.putAssigned target s new pos) ((c.unguarded calls).putAssigned target s new pos) := by
  unfold putAssigned
  split
  · exact .pure _
  · refine Agrees.bind (Agrees.outcome ?_) fun _ => .pure _
    exact (Agrees.checkSize _ _ _).bind fun _ => .pure _

variable (h : c.calls.Agree P calls)

include h

private theorem libraryMethod_agrees (constant : Bool) (name : String) (target : Value) (args : List Value)
    (pos : Position) :
    Agrees P (c.libraryMethod constant name target args pos)
      ((c.unguarded calls).libraryMethod constant name target args pos) := by
  refine (callLibrary_agrees h _ _ _ _).outcome.bind fun o => .self ?_
  split
  · exact .pure _
  · exact .pure _

private theorem callMethod_agrees (constant : Bool) (name : String) (target : Value) (args : List Value)
    (pos : Position) :
    Agrees P (c.callMethod constant name target args pos)
      ((c.unguarded calls).callMethod constant name target args pos) := by
  unfold callMethod
  extract_lets entry? function own gives function'
  clear_value entry?
  have hfunction (f : String) (args : List Value) : Agrees P (function f args) (function' f args) := by
    dsimp only [function, function']
    rw [function?_unguarded]
    split
    · exact onThis_agrees (fun this => invoke_agrees h _ this _ _ _) target constant
    · exact libraryMethod_agrees h _ _ _ _ _
  have hown {r r' : Run Walked} (hr : Agrees P r r') : Agrees P (own r) (own r') := (Agrees.noted _ _).bind fun _ => hr
  have hgives (v : Value) : Agrees P (gives v) (gives v) := hown (.pure _)
  -- first the methods of the language, then those of the script and of the library
  split
  · exact hgives _
  · exact hgives _
  · exact hown ((callFunction_agrees h _ _ _ _).outcome.bind fun _ => .pure _)
  · exact hown (hfunction _ _)
  · exact hgives _
  · split
    · exact hfunction _ _
    · exact hfunction _ _

/-! ### Walking -/

private theorem walk_agrees (root : Option ConstantRoot) (goal : ChainGoal) (writes : Bool) (links : List ChainStep)
    (target : Value) :
    Agrees P (c.walk root goal writes links target) ((c.unguarded calls).walk root goal writes links target) := by
  induction links generalizing root target with
  | nil =>
    unfold walk
    split
    · exact .pure _
    · refine (assigned_agrees _ _ _ _ _).outcome.bind fun o => .self ?_
      split
      · exact .pure _
      · exact .pure _
  | cons link rest ih =>
    unfold walk
    split
    · exact .pure _
    refine (leadOf_agrees goal _ target link).outcome.bind fun o => ?_
    split
    · exact .pure _
    · exact (ih _ _).bind fun _ => .pure _
    · refine (callMethod_agrees h _ _ _ _ _).bind fun called => ?_
      split
      · exact .pure _
      · exact (ih _ _).bind fun _ => .pure _
    · refine (ih _ _).bind fun part => ?_
      split
      · exact .pure _
      · exact putAssigned_agrees _ _ _ _
      · exact .pure _
      · exact .pure _

omit h

/-! ### Variables -/

private theorem currentThis_remembers (pos : Position) : Remembers (currentThis pos) := by
  refine Remembers.read.bind fun s => ?_
  split
  · exact .pure _
  · exact .raised _ _

theorem readThis_remembers (pos : Position) : Remembers (readThis pos) :=
  (currentThis_remembers pos).bind fun _ => .pure _

private theorem setThis_remembers (v : Value) : Remembers (setThis v) := .modified fun _ => by rfl

theorem assignVariable_agrees (name : String) (namePos : Position) (op : Option BinaryOp) (v : Value) (pos : Position) :
    Agrees P (c.assignVariable name namePos op v pos) ((c.unguarded calls).assignVariable name namePos op v pos) :=
  (Agrees.step _ _).bind fun _ => (find_agrees _ _).bind fun _ =>
    (assigned_agrees _ _ _ _ _).bind fun _ => .assigned _ _

theorem assignThis_agrees (thisPos : Position) (op : Option BinaryOp) (v : Value) (pos : Position) :
    Agrees P (c.assignThis thisPos op v pos) ((c.unguarded calls).assignThis thisPos op v pos) :=
  (Agrees.step _ _).bind fun _ => (Agrees.self (currentThis_remembers _)).bind fun _ =>
    (assigned_agrees _ _ _ _ _).bind fun _ => .self (setThis_remembers _)

include h

theorem walkVariable_agrees (name : String) (namePos : Position) (goal : ChainGoal) (links : List ChainStep) :
    Agrees P (c.walkVariable name namePos goal links) ((c.unguarded calls).walkVariable name namePos goal links) := by
  refine (Agrees.step _ _).bind fun _ => (find_agrees _ _).bind fun b => ?_
  refine (walk_agrees h _ _ _ _ _).bind fun w => ?_
  split
  · exact (Agrees.assigned _ _).bind fun _ => .ofOutcome _
  · exact .ofOutcome _

theorem walkThis_agrees (thisPos : Position) (goal : ChainGoal) (links : List ChainStep) :
    Agrees P (c.walkThis thisPos goal links) ((c.unguarded calls).walkThis thisPos goal links) := by
  refine (Agrees.step _ _).bind fun _ => (Agrees.self (currentThis_remembers _)).bind fun r => ?_
  refine (walk_agrees h _ _ _ _ _).bind fun w => ?_
  split
  · exact (Agrees.self (setThis_remembers _)).bind fun _ => .ofOutcome _
  · exact .ofOutcome _

theorem walkValue_agrees (v : Value) (goal : ChainGoal) (links : List ChainStep) :
    Agrees P (c.walkValue v goal links) ((c.unguarded calls).walkValue v goal links) :=
  (walk_agrees h _ _ _ _ _).bind fun _ => .ofOutcome _

omit h

theorem qualified_remembers (root : Position) (path : List String) (name : String) :
    Remembers (qualified root path name) := by
  unfold qualified
  split
  · split
    · exact .pure _
    · exact .raised _ _
  · exact .raised _ _

/-! ### Calls by name -/

theorem variableArgument_agrees (name : String) (pos : Position) :
    Agrees P (c.variableArgument name pos) ((c.unguarded calls).variableArgument name pos) :=
  (find_agrees _ _).bind fun _ => .pure _

theorem thisArgument_remembers (pos : Position) : Remembers (thisArgument pos) :=
  (currentThis_remembers _).bind fun _ => .pure _

private theorem store_remembers (source : Source) (v : Value) : Remembers (source.store v) := by
  cases source with
  | value => exact .pure _
  | named name => exact .assigned name v
  | this => exact setThis_remembers v

theorem callQualified_remembers (path : List String) (name : String) (a : Arguments) (pos : Position) :
    Remembers (callQualified path name a pos) := by
  unfold callQualified
  split
  · split
    · exact (Remembers.noted _ _).bind fun _ => .pure _
    · exact .raised _ _
  · exact .raised _ _

include h

private theorem languageCall?_agrees (name : String) (a : Arguments) (pos : Position) :
    Option.Rel (Agrees P) (c.languageCall? name a pos) ((c.unguarded calls).languageCall? name a pos) := by
  unfold languageCall?
  split
  case h_1 => exact .some ((Agrees.ofExcept _ _).bind fun _ => .pure _)
  case h_2 | h_4 => exact .some (.raised _ _)
  case h_3 => exact .some (h.runText _ _)
  case h_7 => exact .some (Agrees.read.bind fun _ => .pure _)
  case h_9 => exact .some (callFunction_agrees h _ _ _ _)
  case h_5 | h_6 | h_8 | h_10 => exact .some (.pure _)
  case h_11 => exact .none

theorem callNamed_agrees (name : String) (inScope : Bool) (a : Arguments) (pos : Position) :
    Agrees P (c.callNamed name inScope a pos) ((c.unguarded calls).callNamed name inScope a pos) := by
  have hlanguage := languageCall?_agrees h name a pos
  unfold callNamed
  rw [function?_unguarded]
  generalize c.languageCall? name a pos = run? at hlanguage ⊢
  generalize (c.unguarded calls).languageCall? name a pos = run'? at hlanguage ⊢
  cases hlanguage with
  | some hrun => exact (Agrees.noted _ _).bind fun _ => hrun
  | none =>
    dsimp only
    split
    · exact invoke_agrees h _ _ _ _ _
    · refine (callLibrary_agrees h _ _ _ _).bind fun e => .self ?_
      split
      · exact (store_remembers _ _).bind fun _ => .ofOutcome _
      · exact .ofOutcome _

end Context

end Sandscript
