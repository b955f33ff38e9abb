import Sandscript.Proofs.Run.Calls

/-!
# The calls of a chain and of the steps around it

The methods of a chain are spelled out by the script, and so are the names of the functions that it calls by name.
-/

namespace Sandscript

/-- Of the functions of the language, the link calls one with a `spelled` name at most. -/
def ChainStep.Fits (spelled : String → Prop) : ChainStep → Prop
  | .method _ _ name _ => name ∈ languageFunctions → spelled name
  | .property .. | .index .. => True

namespace Context

open Run

variable {c : Context} {spelled : String → Prop}

/-! ### Chains -/

private theorem assigned_keeps (root : Option ConstantRoot) (op : Option BinaryOp) (old new : Value) (pos : Position) :
    c.Keeps spelled (c.assigned root op old new pos) Free := by
  unfold assigned
  split
  · exact .raised _ _
  · split
    · exact .pure trivial
    · refine (KeepsTo.steps _ _ _).bind fun _ _ => (KeepsTo.ofExcept _ _).bind fun v _ => ?_
      exact (KeepsTo.checkSize _ _ _).bind fun _ _ => .pure trivial

private theorem onThis_keeps {call : Option Receiver → Run Value} (h : ∀ this, c.Keeps spelled (call this) Free)
    (target : Value) (constant : Bool) : c.Keeps spelled (onThis target constant call) Free :=
  (h _).outcome.bind fun _ _ => KeepsTo.read.bind fun _ _ => .pure trivial

private theorem libraryMethod_keeps (hc : c.Confined spelled) (constant : Bool) (name : String) (target : Value)
    (args : List Value) (pos : Position) : c.Keeps spelled (c.libraryMethod constant name target args pos) Free := by
  unfold libraryMethod
  refine (callLibrary_keeps hc _ _ _ _).outcome.bind fun o _ => ?_
  split
  · exact .pure trivial
  · exact .pure trivial

private theorem callMethod_keeps (hc : c.Confined spelled) (constant : Bool) {name : String}
    (hname : name ∈ languageFunctions → spelled name) (target : Value) (args : List Value) (pos : Position) :
    c.Keeps spelled (c.callMethod constant name target args pos) Free := by
  unfold callMethod
  extract_lets entry? function own gives
  clear_value entry?
  have hfunction (f : String) (args : List Value) : c.Keeps spelled (function f args) Free := by
    dsimp only [function]
    split
    · rename_i d hd
      exact onThis_keeps (fun this => hc.invokes (mem_of_function? hd) this _ _ _) target constant
    · exact libraryMethod_keeps hc _ _ _ _ _
  have hown {r : Run Walked} (hmem : name ∈ languageFunctions) (hr : c.Keeps spelled r Free) :
      c.Keeps spelled (own r) Free := (KeepsTo.noted (hname hmem)).bind fun _ _ => hr
  have hgives (hmem : name ∈ languageFunctions) (v : Value) : c.Keeps spelled (gives v) Free :=
    hown hmem (.pure trivial)
  -- first the methods of the language, then those of the script and of the library
  split
  · exact hgives (by decide) _
  · exact hgives (by decide) _
  · refine hown (by decide) ?_
    exact (callFunction_keeps hc _ _ _ _).outcome.bind fun _ _ => .pure trivial
  · exact hown (by decide) (hfunction _ _)
  · exact hgives (by decide) _
  · split
    · exact hfunction _ _
    · exact hfunction _ _

/-- Where a link leads that calls no function of the language but a `spelled` one. -/
def Lead.Fits (spelled : String → Prop) : Lead → Prop
  | .method name _ _ => name ∈ languageFunctions → spelled name
  | .spot _ | .value _ => True

private theorem propertyOf_keeps (goal : ChainGoal) (isLast : Bool) (name : String) (target : Value) (pos : Position) :
    c.Keeps spelled (c.propertyOf goal isLast name target pos) (Lead.Fits spelled) := by
  unfold propertyOf
  refine (KeepsTo.step _ _).bind fun _ _ => ?_
  split
  · exact .raised _ _
  · exact .raised _ _
  · exact .pure trivial
  · exact (assigned_keeps _ _ _ _ _).bind fun _ _ => .raised _ _

private theorem leadOf_keeps (goal : ChainGoal) (isLast : Bool) (target : Value) {link : ChainStep}
    (hlink : link.Fits spelled) : c.Keeps spelled (c.leadOf goal isLast target link) (Lead.Fits spelled) := by
  cases link with
  | property pos optional name =>
    dsimp only [leadOf]
    split
    · refine (KeepsTo.step _ _).bind fun _ _ => ?_
      exact .pure trivial
    · exact propertyOf_keeps _ _ _ _ _
  | index pos keyPos optional key =>
    refine (KeepsTo.step _ _).bind fun _ _ => ?_
    split
    · exact .pure trivial
    · exact .raised _ _
    · exact .raised _ _
    · exact .raised _ _
  | method pos optional name args => exact .pure hlink

private theorem putAssigned_keeps (target : Value) (s : Spot) (new : Value) (pos : Position) :
    c.Keeps spelled (c.putAssigned target s new pos) Free := by
  unfold putAssigned
  split
  · exact .pure trivial
  · have hsize (whole : Value) :
        c.Keeps spelled (do checkSize c.limits whole pos; return Value.unit : Run Value) Free :=
      (KeepsTo.checkSize _ _ _).bind fun _ _ => .pure trivial
    exact (hsize _).outcome.bind fun _ _ => .pure trivial

private theorem walk_keeps (hc : c.Confined spelled) (root : Option ConstantRoot) (goal : ChainGoal) (writes : Bool)
    {links : List ChainStep} (hlinks : ∀ l ∈ links, l.Fits spelled) (target : Value) :
    c.Keeps spelled (c.walk root goal writes links target) Free := by
  induction links generalizing root target with
  | nil =>
    unfold walk
    split
    · exact .pure trivial
    · refine (assigned_keeps _ _ _ _ _).outcome.bind fun o _ => ?_
      split
      · exact .pure trivial
      · exact .pure trivial
  | cons link rest ih =>
    have hrest : ∀ l ∈ rest, l.Fits spelled := fun l hl => hlinks l (List.mem_cons_of_mem _ hl)
    unfold walk
    split
    · exact .pure trivial
    refine (leadOf_keeps goal _ target (hlinks link List.mem_cons_self)).outcome.bind fun o hlead => ?_
    split
    · exact .pure trivial
    · exact (ih _ hrest _).bind fun _ _ => .pure trivial
    · refine (callMethod_keeps hc _ (hlead _ rfl) _ _ _).bind fun called _ => ?_
      split
      · exact .pure trivial
      · exact (ih _ hrest _).bind fun _ _ => .pure trivial
    · refine (ih _ hrest _).bind fun part _ => ?_
      split
      · exact .pure trivial
      · exact putAssigned_keeps _ _ _ _
      · exact .pure trivial
      · exact .pure trivial

/-! ### Variables -/

private theorem currentThis_keeps (pos : Position) : c.Keeps spelled (currentThis pos) Free := by
  refine KeepsTo.read.bind fun s _ => ?_
  split
  · exact .pure trivial
  · exact .raised _ _

theorem readThis_keeps (pos : Position) : c.Keeps spelled (readThis pos) Free :=
  (currentThis_keeps pos).bind fun _ _ => .pure trivial

private theorem assign_keeps (name : String) (v : Value) : c.Keeps spelled (Run.assign name v) Free :=
  .modified fun s => .of_eq rfl (map_name_store name v s.scope)

private theorem setThis_keeps (v : Value) : c.Keeps spelled (setThis v) Free :=
  .modified fun _ => .of_eq (by rfl) (by rfl)

theorem assignVariable_keeps (name : String) (namePos : Position) (op : Option BinaryOp) (v : Value)
    (pos : Position) : c.Keeps spelled (c.assignVariable name namePos op v pos) Free := by
  refine (KeepsTo.step _ _).bind fun _ _ => (find_keeps _ _).bind fun b _ => ?_
  exact (assigned_keeps _ _ _ _ _).bind fun _ _ => assign_keeps _ _

theorem assignThis_keeps (thisPos : Position) (op : Option BinaryOp) (v : Value) (pos : Position) :
    c.Keeps spelled (c.assignThis thisPos op v pos) Free := by
  refine (KeepsTo.step _ _).bind fun _ _ => (currentThis_keeps _).bind fun r _ => ?_
  exact (assigned_keeps _ _ _ _ _).bind fun _ _ => setThis_keeps _

theorem walkVariable_keeps (hc : c.Confined spelled) (name : String) (namePos : Position) (goal : ChainGoal)
    {links : List ChainStep} (hlinks : ∀ l ∈ links, l.Fits spelled) :
    c.Keeps spelled (c.walkVariable name namePos goal links) Free := by
  refine (KeepsTo.step _ _).bind fun _ _ => (find_keeps _ _).bind fun b _ => ?_
  refine (walk_keeps hc _ _ _ hlinks _).bind fun w _ => ?_
  split
  · exact (assign_keeps _ _).bind fun _ _ => .ofOutcome _
  · exact .ofOutcome _

theorem walkThis_keeps (hc : c.Confined spelled) (thisPos : Position) (goal : ChainGoal)
    {links : List ChainStep} (hlinks : ∀ l ∈ links, l.Fits spelled) :
    c.Keeps spelled (c.walkThis thisPos goal links) Free := by
  refine (KeepsTo.step _ _).bind fun _ _ => (currentThis_keeps _).bind fun r _ => ?_
  refine (walk_keeps hc _ _ _ hlinks _).bind fun w _ => ?_
  split
  · exact (setThis_keeps _).bind fun _ _ => .ofOutcome _
  · exact .ofOutcome _

theorem walkValue_keeps (hc : c.Confined spelled) (v : Value) (goal : ChainGoal)
    {links : List ChainStep} (hlinks : ∀ l ∈ links, l.Fits spelled) :
    c.Keeps spelled (c.walkValue v goal links) Free :=
  (walk_keeps hc _ _ _ hlinks _).bind fun _ _ => .ofOutcome _

theorem qualified_keeps (root : Position) (path : List String) (name : String) :
    c.Keeps spelled (qualified root path name) Free := by
  unfold qualified
  split
  · split
    · exact .pure trivial
    · exact .raised _ _
  · exact .raised _ _

/-! ### Calls by name -/

theorem variableArgument_keeps (name : String) (pos : Position) :
    c.Keeps spelled (c.variableArgument name pos) Free := (find_keeps _ _).bind fun _ _ => .pure trivial

theorem thisArgument_keeps (pos : Position) : c.Keeps spelled (thisArgument pos) Free :=
  (currentThis_keeps _).bind fun _ _ => .pure trivial

private theorem store_keeps (source : Source) (v : Value) : c.Keeps spelled (source.store v) Free := by
  cases source with
  | value => exact .pure trivial
  | named name => exact assign_keeps name v
  | this => exact setThis_keeps v

/-- A call that the language itself answers has one of its names. -/
private theorem mem_languageFunctions {name : String} {a : Arguments} {pos : Position} {r : Run Value}
    (h : c.languageCall? name a pos = some r) : name ∈ languageFunctions := by
  unfold languageCall? at h
  split at h
  all_goals first | decide | cases h

theorem languageCall?_keeps (hc : c.Confined spelled) {name : String} (hname : name ∈ languageFunctions → spelled name)
    {a : Arguments} {pos : Position} {r : Run Value} (h : c.languageCall? name a pos = some r) :
    c.Keeps spelled r Free := by
  unfold languageCall? at h
  split at h
  case h_1 =>
    cases h
    exact (KeepsTo.ofExcept _ _).bind fun _ _ => .pure trivial
  case h_2 | h_4 =>
    cases h
    exact .raised _ _
  -- `eval` is the only one that runs a text
  case h_3 =>
    cases h
    exact hc.runText (hname (by decide)) _ _
  case h_7 =>
    cases h
    exact KeepsTo.read.bind fun _ _ => .pure trivial
  case h_9 =>
    cases h
    exact callFunction_keeps hc _ _ _ _
  case h_5 | h_6 | h_8 | h_10 =>
    cases h
    exact .pure trivial
  case h_11 => cases h

theorem callNamed_keeps (hc : c.Confined spelled) {name : String} (hname : name ∈ languageFunctions → spelled name)
    (inScope : Bool) (a : Arguments) (pos : Position) : c.Keeps spelled (c.callNamed name inScope a pos) Free := by
  unfold callNamed
  split
  · rename_i r hr
    exact (KeepsTo.noted (hname (mem_languageFunctions hr))).bind fun _ _ => languageCall?_keeps hc hname hr
  · split
    · rename_i f hf
      exact hc.invokes (mem_of_function? hf) _ _ _ _
    · refine (callLibrary_keeps hc _ _ _ _).bind fun e _ => ?_
      split
      · exact (store_keeps _ _).bind fun _ _ => .ofOutcome _
      · exact .ofOutcome _

theorem callQualified_keeps (path : List String) (name : String) (a : Arguments) (pos : Position) :
    c.Keeps spelled (callQualified path name a pos) Free := by
  unfold callQualified
  split
  · cases hname : Names.isForbiddenCall name with
    | true =>
      rw [Library.mathCall?_eq_none hname]
      exact .raised _ _
    | false =>
      split
      · exact (KeepsTo.noted hname).bind fun _ _ => .pure trivial
      · exact .raised _ _
  · exact .raised _ _

end Context

end Sandscript
