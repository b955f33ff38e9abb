import Sandscript.Proofs.Refusals.Rules
import Sandscript.Run.Dispatch
import Mathlib.Data.List.Forall2

/-!
# Calls without refusals

A call finds the same function with limits and without, and callbacks are asked the same questions.  What a function of
the library makes of the fault of a callback does not matter: a fault that came of a refusal is noted.
-/

namespace Sandscript

open Run

/-- The ways to run what a script consists of agree. -/
structure Calls.Agree (P : Prop) (calls calls' : Calls) : Prop where
  invoke : ∀ f this inScope args pos,
    Agrees P (calls.invoke f this inScope args pos) (calls'.invoke f this inScope args pos)
  callback : ∀ f this args pos, Agrees P (calls.callback f this args pos) (calls'.callback f this args pos)
  runText : ∀ text pos, Agrees P (calls.runText text pos) (calls'.runText text pos)

/-- The same script without limits, and with calls of its own. -/
def Context.unguarded (c : Context) (calls : Calls) : Context := { c with limits := c.limits.unguarded, calls }

variable {P : Prop}

/-! ### Sorting -/

namespace Library.Sorting

variable {α : Type} {before before' : α → α → Run Bool} (h : ∀ a b, Agrees P (before a b) (before' a b))

include h

private theorem insert_agrees (a : α) (items : List α) : Agrees P (insert before a items) (insert before' a items) := by
  induction items with
  | nil => exact .pure _
  | cons b rest ih =>
    refine (h a b).bind fun first => ?_
    split
    · exact ih.bind fun _ => .pure _
    · exact .pure _

private theorem insertAll_agrees (done items : List α) :
    Agrees P (insertAll before done items) (insertAll before' done items) := by
  induction items generalizing done with
  | nil => exact .pure _
  | cons a rest ih => exact (insert_agrees h a done).bind fun _ => ih _

private theorem merge_agrees (as bs : List α) : Agrees P (merge before as bs) (merge before' as bs) := by
  induction as, bs using merge.induct with
  | case1 bs =>
    rw [merge, merge]
    exact .pure _
  | case2 as =>
    rw [merge, merge]
    · exact .pure _
    · assumption
    · assumption
  | case3 a as b bs ih₁ ih₂ =>
    rw [merge, merge]
    refine (h b a).bind fun first => ?_
    split
    · exact ih₁.bind fun _ => .pure _
    · exact ih₂.bind fun _ => .pure _

private theorem sortFrom_agrees (n : Nat) (items : List α) :
    Agrees P (sortFrom before n items) (sortFrom before' n items) := by
  induction n generalizing items with
  | zero => exact insertAll_agrees h [] items
  | succ n ih =>
    rw [sortFrom, sortFrom]
    split
    · exact insertAll_agrees h [] items
    · exact (ih _).bind fun front => (ih _).bind fun back => merge_agrees h front back

private theorem sort_agrees (items : List α) : Agrees P (sort before items) (sort before' items) :=
  sortFrom_agrees h _ items

end Library.Sorting

namespace Context

variable {c : Context} {calls : Calls}

theorem function?_unguarded (name : String) (arity : Nat) :
    (c.unguarded calls).function? name arity = c.function? name arity := rfl

private theorem closure?_unguarded (name : String) : (c.unguarded calls).closure? name = c.closure? name := rfl

theorem find_agrees (name : String) (pos : Position) :
    Agrees P (c.find name pos) ((c.unguarded calls).find name pos) := by
  refine (Agrees.checkName _ _ _).bind fun _ => Agrees.read.bind fun s => .self ?_
  dsimp only
  split
  · exact .pure _
  · split
    · exact .pure _
    · split
      · exact .pure _
      · exact .raised _ _

/-! ### The library -/

private theorem checked_agrees (e : Effect) (pos : Position) :
    Agrees P (c.checked e pos) ((c.unguarded calls).checked e pos) := by
  unfold checked
  extract_lets finish checkObject checkObject'
  have hobject (u : PUnit) : Agrees P (checkObject u) (checkObject' u) := by
    dsimp only [checkObject, checkObject', finish]
    split
    · exact (Agrees.checkSize _ _ _).bind fun _ => .pure _
    · exact .pure _
  split
  · exact (Agrees.checkSize _ _ _).bind fun u => hobject u
  · exact hobject ⟨⟩

private theorem checkConstant_remembers (constant : Bool) (name : String) (args : List Value) (pos : Position) :
    Remembers (checkConstant constant name args pos) := by
  unfold checkConstant
  split
  · split
    · exact .raised _ _
    · exact .pure _
  · exact .pure _

private theorem callPlain_agrees (constant : Bool) (name : String) (args : List Value) (pos : Position) :
    Agrees P (c.callPlain constant name args pos) ((c.unguarded calls).callPlain constant name args pos) := by
  refine (Agrees.step _ _).bind fun _ => ?_
  split
  · refine (Agrees.noted _ _).bind fun _ => (Agrees.checkSize _ _ _).bind fun _ => ?_
    exact (Agrees.modified fun _ => by rfl).bind fun _ => .pure _
  · split
    · refine (Agrees.noted _ _).bind fun _ => (Agrees.self (checkConstant_remembers _ _ _ _)).bind fun _ => ?_
      exact (Agrees.ofExcept _ _).bind fun e => checked_agrees e pos
    · exact .raised _ _

/-! ### Callbacks -/

variable (h : c.calls.Agree P calls)

include h

theorem invoke_agrees (f : FunctionDef) (this : Option Receiver) (inScope : Bool) (args : List Value) (pos : Position) :
    Agrees P (c.invoke f this inScope args pos) ((c.unguarded calls).invoke f this inScope args pos) :=
  (Agrees.noted _ _).bind fun _ => h.invoke f this inScope args pos

private theorem callByName_agrees (name : String) (this : Option Receiver) (args : List Value) (pos : Position) :
    Agrees P (c.callByName name this args pos) ((c.unguarded calls).callByName name this args pos) := by
  unfold callByName
  rw [function?_unguarded]
  split
  · exact (Agrees.noted _ _).bind fun _ => h.callback _ this args pos
  · refine (callPlain_agrees _ _ _ _).bind fun e => ?_
    exact (Agrees.modified fun _ => by rfl).bind fun _ => .ofOutcome _

private theorem callHeld_agrees (f : Callback) (this : Option Receiver) (args : List Value) (pos : Position) :
    Agrees P (c.callHeld f this args pos) ((c.unguarded calls).callHeld f this args pos) :=
  (callByName_agrees h _ _ _ _).uncounted

omit h

private theorem firstPresent_agrees {name : String} {tries tries' : List (Run Value)} {last last' : Run Value}
    (h : List.Forall₂ (Agrees P) tries tries') (hlast : Agrees P last last') :
    Agrees P (firstPresent name tries last) (firstPresent name tries' last') := by
  induction h with
  | nil => exact hlast
  | cons hr _ ih =>
    refine hr.outcome.bind fun o => ?_
    split
    · exact .pure _
    · split
      · exact ih
      · exact .thrown _

private theorem within_agrees {α : Type} {r r' : Run α} (h : Agrees P r r') (caller : String) (pos : Position) :
    Agrees P (within caller pos r) (within caller pos r') := by
  refine h.outcome.bind fun o => .self ?_
  split
  · exact .pure _
  · exact .raised _ _
  · exact .thrown _

include h

private theorem callWith_agrees (caller : String) (f : Callback) (this : Option Receiver) (keepsThis : Bool)
    (args extras : List Value) (pos : Position) :
    Agrees P (c.callWith caller f this keepsThis args extras pos)
      ((c.unguarded calls).callWith caller f this keepsThis args extras pos) := by
  unfold callWith
  rw [closure?_unguarded]
  extract_lets moved direct movable moved' direct'
  have hmoved (more : List Value) : Agrees P (moved more) (moved' more) :=
    (callHeld_agrees h _ _ _ _).bind fun _ => (Agrees.modified fun _ => by rfl).bind fun _ => .pure _
  have hdirect (more : List Value) : Agrees P (direct more) (direct' more) := callHeld_agrees h _ _ _ _
  refine within_agrees ?_ caller pos
  split
  · extract_lets arity
    split
    · exact hdirect _
    split
    · exact hmoved _
    split
    · exact hmoved _
    · exact hdirect _
  · split
    · exact firstPresent_agrees (.cons (hdirect _) (.cons (hmoved _) .nil)) (hmoved _)
    · exact firstPresent_agrees (.cons (hdirect _) .nil) (hdirect _)

/-! ### Items -/

private theorem ask_agrees (a : Asking) (args extras : List Value) (v : Value) :
    Agrees P (c.ask a args extras v) ((c.unguarded calls).ask a args extras v) := by
  refine (Agrees.modified fun _ => by rfl).bind fun _ => ?_
  exact (callWith_agrees h _ _ _ _ _ _ _).outcome.bind fun r => Agrees.read.bind fun s => .pure _

private theorem askItem_agrees (a : Asking) (i : Nat) (item : Value) :
    Agrees P (c.askItem a i item) ((c.unguarded calls).askItem a i item) := ask_agrees h a _ _ item

private theorem askEntry_agrees (a : Asking) (i : Nat) (entry : String × Value) :
    Agrees P (c.askEntry a i entry) ((c.unguarded calls).askEntry a i entry) :=
  (ask_agrees h a _ _ _).bind fun _ => .pure _

omit h

private theorem askWhile_agrees {ι : Type} {about about' : Nat → ι → Run (Except Stop Value × ι)}
    (h : ∀ i item, Agrees P (about i item) (about' i item)) (goesOn : Value → Bool) (i : Nat) (items : List ι) :
    Agrees P (askWhile about goesOn i items) (askWhile about' goesOn i items) := by
  induction items generalizing i with
  | nil => exact .pure _
  | cons item rest ih =>
    refine (h i item).bind fun r => ?_
    split
    · exact .pure _
    · split
      · exact (ih (i + 1)).bind fun q => .pure _
      · exact .pure _

include h

private theorem reduceFrom_agrees (caller : String) (f : Callback) (pos : Position) (items : List (Value × Nat))
    (v : Value) :
    Agrees P (c.reduceFrom caller f pos items v) ((c.unguarded calls).reduceFrom caller f pos items v) := by
  induction items generalizing v with
  | nil => exact .pure _
  | cons item rest ih => exact (callWith_agrees h _ _ _ _ _ _ _).bind fun w => ih w

private theorem askPairs_agrees (caller : String) (f : Callback) (pos : Position) (i : Nat)
    (pairs : List (Value × Value)) :
    Agrees P (c.askPairs caller f pos i pairs) ((c.unguarded calls).askPairs caller f pos i pairs) := by
  induction pairs generalizing i with
  | nil => exact .pure _
  | cons pair rest ih =>
    exact (callWith_agrees h _ _ _ _ _ _ _).bind fun v => (ih (i + 1)).bind fun vs => .pure _

private theorem isBefore_agrees (f : Callback) (pos : Position) (a b : Value) :
    Agrees P (c.isBefore f pos a b) ((c.unguarded calls).isBefore f pos a b) := by
  refine (callHeld_agrees h _ _ _ _).outcome.bind fun r => .self ?_
  split
  · exact .pure _
  · exact .pure _
  · exact .pure _
  · exact .pure _
  · exact .thrown _

omit h

private theorem dedupBy_agrees {same same' : Value → Value → Run Bool} (h : ∀ a b, Agrees P (same a b) (same' a b))
    (last : Value) (items : List Value) : Agrees P (dedupBy same last items) (dedupBy same' last items) := by
  induction items generalizing last with
  | nil => exact .pure _
  | cons v rest ih =>
    refine (h last v).bind fun equal => ?_
    split
    · exact ih last
    · exact (ih v).bind fun _ => .pure _

include h

private theorem search_agrees (a : Asking) (items : List Value) (start : Nat) (fits : Value → Bool)
    (found : Option (Nat × Value × Value) → Value) :
    Agrees P (c.search a items start fits found) ((c.unguarded calls).search a items start fits found) :=
  (askWhile_agrees (askItem_agrees h a) _ _ _).bind fun _ => .pure _

/-- What a function over arrays does with its callback. -/
private theorem asking?_agrees (constant : Bool) (name : String) (items rest : List Value) (pos : Position) :
    Option.Rel (fun run run' => ∀ f : Callback, Agrees P (run f) (run' f)) (c.asking? constant name items rest pos)
      ((c.unguarded calls).asking? constant name items rest pos) := by
  unfold asking?
  extract_lets asking from? changed reduced reduced'
  have hasked (a : Asking) {g : Inquiry Value → Effect} :
      Agrees P (do return g (← askAll (c.askItem a) items))
        (do return g (← askAll ((c.unguarded calls).askItem a) items)) :=
    (askWhile_agrees (askItem_agrees h a) _ _ _).bind fun _ => .pure _
  have hreduced (f : Callback) (more : List (Value × Nat)) (start : Value) :
      Agrees P (reduced f more start) (reduced' f more start) :=
    (reduceFrom_agrees h _ _ _ _ _).bind fun _ => .pure _
  have hchanged {r r' : Run (List Value)} (hr : Agrees P r r') : Agrees P (changed r) (changed r') :=
    hr.bind fun _ => .pure _
  have hsearched {a : Callback → Asking} {fits : Value → Bool} {found : Option (Nat × Value × Value) → Value} :
      Option.Rel (fun run run' => ∀ f : Callback, Agrees P (run f) (run' f))
        (from?.map fun start f => c.search (a f) items start fits found)
        (from?.map fun start f => (c.unguarded calls).search (a f) items start fits found) := by
    cases from? with
    | none => exact .none
    | some start => exact .some fun f => search_agrees h _ _ _ _ _
  split
  -- `map`, `for_each`, `filter`, `retain` and `drain`
  case h_1 | h_2 | h_3 | h_4 | h_5 => exact .some fun f => hasked _
  -- `reduce` and `reduce_rev`
  case h_6 | h_7 | h_8 | h_9 => exact .some fun f => hreduced f _ _
  -- `some` and `all`
  case h_10 | h_11 => exact .some fun f => search_agrees h _ _ _ _ _
  -- `sort` and `dedup`
  case h_12 => exact .some fun f => hchanged (Library.Sorting.sort_agrees (isBefore_agrees h f pos) items)
  case h_13 =>
    refine .some fun f => ?_
    split
    · exact .pure _
    · refine hchanged ((dedupBy_agrees (fun a b => ?_) _ _).bind fun _ => .pure _)
      refine (callHeld_agrees h _ _ _ _).outcome.bind fun o => .self ?_
      split
      · exact .pure _
      · exact .pure _
      · exact .thrown _
  -- `index_of`, `find` and `find_map`
  case h_14 | h_15 | h_16 => exact hsearched
  case h_17 => exact .none

/-- What a function over two arrays does with its callback. -/
private theorem askingPairs?_agrees (name : String) (items others : List Value) (pos : Position) :
    Option.Rel (fun run run' => ∀ f : Callback, Agrees P (run f) (run' f)) (c.askingPairs? name items others pos)
      ((c.unguarded calls).askingPairs? name items others pos) := by
  unfold askingPairs?
  split
  · exact .some fun f => (askPairs_agrees h _ f pos 0 _).bind fun _ => .pure _
  · exact .none

/-- What a function over maps does with its callback. -/
private theorem askingEntries?_agrees (constant : Bool) (name : String) (entries : List (String × Value))
    (rest : List Value) (pos : Position) :
    Option.Rel (fun run run' => ∀ f : Callback, Agrees P (run f) (run' f))
      (c.askingEntries? constant name entries rest pos)
      ((c.unguarded calls).askingEntries? constant name entries rest pos) := by
  unfold askingEntries?
  extract_lets asked left asked'
  have hasked (f : Callback) {g : Inquiry (String × Value) → Effect} :
      Agrees P (do return g (← asked f)) (do return g (← asked' f)) :=
    (askWhile_agrees (askEntry_agrees h _) _ _ _).bind fun _ => .pure _
  split
  -- `filter`, `retain` and `drain`
  case h_1 | h_2 | h_3 => exact .some fun f => hasked f
  case h_4 => exact .none

omit h

private theorem rel_of_same_callback {run? run'? : Option (Callback → Run Effect)}
    (h : Option.Rel (fun run run' => ∀ f : Callback, Agrees P (run f) (run' f)) run? run'?)
    (callback : Except Fault Callback) :
    Option.Rel (fun a a' => a.1 = a'.1 ∧ ∀ f : Callback, Agrees P (a.2 f) (a'.2 f))
      (run?.map fun run => (callback, run)) (run'?.map fun run => (callback, run)) := by
  cases h with
  | none => exact .none
  | some hrun => exact .some ⟨rfl, hrun⟩

include h

/-- The same callback is asked, and what is done with it agrees. -/
private theorem asked?_agrees (constant : Bool) (name : String) (args : List Value) (pos : Position) :
    Option.Rel (fun a a' => a.1 = a'.1 ∧ ∀ f : Callback, Agrees P (a.2 f) (a'.2 f)) (c.asked? constant name args pos)
      ((c.unguarded calls).asked? constant name args pos) := by
  unfold asked?
  split
  · exact rel_of_same_callback (askingPairs?_agrees h _ _ _ _) _
  · rename_i items g rest _
    cases callbackOf? name g with
    | none => exact .none
    | some callback => exact rel_of_same_callback (asking?_agrees h _ _ _ _ _) callback
  · exact rel_of_same_callback (askingEntries?_agrees h _ _ _ _ _) _
  · exact .none

theorem callLibrary_agrees (constant : Bool) (name : String) (args : List Value) (pos : Position) :
    Agrees P (c.callLibrary constant name args pos) ((c.unguarded calls).callLibrary constant name args pos) := by
  have hasked := asked?_agrees h constant name args pos
  unfold callLibrary
  generalize c.asked? constant name args pos = a at hasked ⊢
  generalize (c.unguarded calls).asked? constant name args pos = a' at hasked ⊢
  cases hasked with
  | none => exact callPlain_agrees _ _ _ _
  | some hrun =>
    rename_i a a'
    obtain ⟨callback, run⟩ := a
    obtain ⟨callback', run'⟩ := a'
    obtain ⟨rfl, hrun⟩ := hrun
    refine (Agrees.step _ _).bind fun _ => (Agrees.noted _ _).bind fun _ => ?_
    refine (Agrees.self (checkConstant_remembers _ _ _ _)).bind fun _ => (Agrees.ofExcept _ _).bind fun f => ?_
    exact (hrun f).bind fun e => checked_agrees e pos

theorem callFunction_agrees (name : String) (held args : List Value) (pos : Position) :
    Agrees P (c.callFunction name held args pos) ((c.unguarded calls).callFunction name held args pos) := by
  unfold callFunction
  dsimp only
  rw [function?_unguarded]
  split
  · exact invoke_agrees h _ _ _ _ _
  · exact (callLibrary_agrees h _ _ _ _).bind fun e => .ofOutcome _

end Context

end Sandscript
