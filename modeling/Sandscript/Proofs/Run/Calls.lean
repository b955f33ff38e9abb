import Sandscript.Proofs.Library.Names
import Sandscript.Proofs.Run.Log
import Sandscript.Run.Dispatch

/-!
# What a call finds

A call finds a function of the library whose name is not forbidden, a function of the script, or one of the functions
that the language itself has.  The last are called by names that the script spells out, never by a name that it
computes: `Callee.Fits spelled functions` says which calls can come about when `spelled` holds of the names of the
language's functions that a script spells out.
-/

namespace Sandscript

/-- A function of the language with a name that is `spelled`, one of the library with a name that is not forbidden, or
one of `functions`. -/
def Callee.Fits (spelled : String → Prop) (functions : List FunctionDef) (callee : Callee) : Prop :=
  match callee.origin with
  | .language => spelled callee.name
  | .library | .asking => Names.isForbiddenCall callee.name = false
  | .script => ∃ f ∈ functions, f.name = callee.name

/-- The functions of the language itself. -/
def languageFunctions : List String :=
  ["Fn", "eval", "type_of", "is_shared", "is_def_var", "is_def_fn", "call", "curry"]

namespace Context

/-- The calls of a run fit its context. -/
abbrev Keeps {α : Type} (c : Context) (spelled : String → Prop) (r : Run α) (R : α → Prop) : Prop :=
  Run.KeepsTo (Callee.Fits spelled c.functions) r R

/-- What a context runs makes no calls but fitting ones; a text is only run by `eval`. -/
structure Confined (c : Context) (spelled : String → Prop) : Prop where
  invoke : ∀ f ∈ c.functions, ∀ this inScope args pos,
    c.Keeps spelled (c.calls.invoke f this inScope args pos) Run.Free
  callback : ∀ f ∈ c.functions, ∀ this args pos, c.Keeps spelled (c.calls.callback f this args pos) Run.Free
  runText : spelled "eval" → ∀ text pos, c.Keeps spelled (c.calls.runText text pos) Run.Free

end Context

open Run

/-! ### Sorting -/

namespace Library.Sorting

variable {α : Type} {Q : Callee → Prop} {before : α → α → Run Bool}

private theorem insert_keepsTo (h : ∀ a b, KeepsTo Q (before a b) Free) (a : α) (items : List α) :
    KeepsTo Q (insert before a items) Free := by
  induction items with
  | nil => exact .pure trivial
  | cons b rest ih =>
    refine (h a b).bind fun first _ => ?_
    split
    · exact ih.bind fun _ _ => .pure trivial
    · exact .pure trivial

private theorem insertAll_keepsTo (h : ∀ a b, KeepsTo Q (before a b) Free) (done items : List α) :
    KeepsTo Q (insertAll before done items) Free := by
  induction items generalizing done with
  | nil => exact .pure trivial
  | cons a rest ih => exact (insert_keepsTo h a done).bind fun _ _ => ih _

private theorem merge_keepsTo (h : ∀ a b, KeepsTo Q (before a b) Free) (as bs : List α) :
    KeepsTo Q (merge before as bs) Free := by
  induction as, bs using merge.induct with
  | case1 bs =>
    rw [merge]
    exact .pure trivial
  | case2 as =>
    rw [merge]
    · exact .pure trivial
    · assumption
  | case3 a as b bs ih₁ ih₂ =>
    rw [merge]
    refine (h b a).bind fun first _ => ?_
    split
    · exact ih₁.bind fun _ _ => .pure trivial
    · exact ih₂.bind fun _ _ => .pure trivial

private theorem sortFrom_keepsTo (h : ∀ a b, KeepsTo Q (before a b) Free) (n : Nat) (items : List α) :
    KeepsTo Q (sortFrom before n items) Free := by
  induction n generalizing items with
  | zero => exact insertAll_keepsTo h [] items
  | succ n ih =>
    rw [sortFrom]
    split
    · exact insertAll_keepsTo h [] items
    · refine (ih _).bind fun front _ => (ih _).bind fun back _ => ?_
      exact merge_keepsTo h front back

private theorem sort_keepsTo (h : ∀ a b, KeepsTo Q (before a b) Free) (items : List α) :
    KeepsTo Q (sort before items) Free := sortFrom_keepsTo h _ items

end Library.Sorting

namespace Context

variable {c : Context} {spelled : String → Prop}

theorem mem_of_function? {name : String} {arity : Nat} {f : FunctionDef} (h : c.function? name arity = some f) :
    f ∈ c.functions := List.mem_of_find?_eq_some h

theorem Confined.invokes (hc : c.Confined spelled) {f : FunctionDef} (hf : f ∈ c.functions) (this : Option Receiver)
    (inScope : Bool) (args : List Value) (pos : Position) :
    c.Keeps spelled (c.invoke f this inScope args pos) Free :=
  (KeepsTo.noted ⟨f, hf, rfl⟩).bind fun _ _ => hc.invoke f hf this inScope args pos

private theorem Confined.callsBack (hc : c.Confined spelled) {f : FunctionDef} (hf : f ∈ c.functions)
    (this : Option Receiver) (args : List Value) (pos : Position) : c.Keeps spelled (c.callback f this args pos) Free :=
  (KeepsTo.noted ⟨f, hf, rfl⟩).bind fun _ _ => hc.callback f hf this args pos

theorem find_keeps (name : String) (pos : Position) : c.Keeps spelled (c.find name pos) Free := by
  unfold find
  refine (KeepsTo.checkName _ _ _).bind fun _ _ => KeepsTo.read.bind fun s _ => ?_
  dsimp only
  split
  · exact .pure trivial
  · split
    · exact .pure trivial
    · split
      · exact .pure trivial
      · exact .raised _ _

/-! ### The library -/

theorem checked_keeps (e : Effect) (pos : Position) : c.Keeps spelled (c.checked e pos) Free := by
  unfold checked
  extract_lets finish checkObject
  have hobject (u : PUnit) : c.Keeps spelled (checkObject u) Free := by
    dsimp only [checkObject, finish]
    split
    · exact (KeepsTo.checkSize _ _ _).bind fun _ _ => .pure trivial
    · exact .pure trivial
  split
  · exact (KeepsTo.checkSize _ _ _).bind fun u _ => hobject u
  · exact hobject ⟨⟩

theorem checkConstant_keeps (constant : Bool) (name : String) (args : List Value) (pos : Position) :
    c.Keeps spelled (checkConstant constant name args pos) Free := by
  unfold checkConstant
  split
  · split
    · exact .raised _ _
    · exact .pure trivial
  · exact .pure trivial

private theorem callPlain_keeps (constant : Bool) (name : String) (args : List Value) (pos : Position) :
    c.Keeps spelled (c.callPlain constant name args pos) Free := by
  unfold callPlain
  refine (KeepsTo.step _ _).bind fun _ _ => ?_
  cases hname : Names.isForbiddenCall name with
  | true =>
    rw [shown?_eq_none hname, plain?_eq_none hname]
    exact .raised _ _
  | false =>
    split
    · refine (KeepsTo.noted hname).bind fun _ _ => (KeepsTo.checkSize _ _ _).bind fun _ _ => ?_
      exact (KeepsTo.modified fun _ => .of_eq (by rfl) (by rfl)).bind fun _ _ => .pure trivial
    · split
      · refine (KeepsTo.noted hname).bind fun _ _ => (checkConstant_keeps _ _ _ _).bind fun _ _ => ?_
        exact (KeepsTo.ofExcept _ _).bind fun e _ => checked_keeps e pos
      · exact .raised _ _

/-! ### Callbacks -/

private theorem callByName_keeps (hc : c.Confined spelled) (name : String) (this : Option Receiver) (args : List Value)
    (pos : Position) : c.Keeps spelled (c.callByName name this args pos) Free := by
  unfold callByName
  split
  · rename_i f hf
    exact hc.callsBack (mem_of_function? hf) this args pos
  · refine (callPlain_keeps _ _ _ _).bind fun e _ => ?_
    exact (KeepsTo.modified fun _ => .of_eq (by rfl) (by rfl)).bind fun _ _ => .ofOutcome _

private theorem callHeld_keeps (hc : c.Confined spelled) (f : Callback) (this : Option Receiver) (args : List Value)
    (pos : Position) : c.Keeps spelled (c.callHeld f this args pos) Free :=
  (callByName_keeps hc _ _ _ _).uncounted

private theorem firstPresent_keeps {name : String} {tries : List (Run Value)} {last : Run Value}
    (h : ∀ r ∈ tries, c.Keeps spelled r Free) (hlast : c.Keeps spelled last Free) :
    c.Keeps spelled (firstPresent name tries last) Free := by
  induction tries with
  | nil => exact hlast
  | cons r rest ih =>
    refine (h r List.mem_cons_self).outcome.bind fun o _ => ?_
    split
    · exact .pure trivial
    · split
      · exact ih fun r' hr' => h r' (List.mem_cons_of_mem _ hr')
      · exact .thrown _

private theorem within_keeps {α : Type} {r : Run α} (h : c.Keeps spelled r Free) (caller : String) (pos : Position) :
    c.Keeps spelled (within caller pos r) Free := by
  refine h.outcome.bind fun o _ => ?_
  split
  · exact .pure trivial
  · exact .raised _ _
  · exact .thrown _

private theorem callWith_keeps (hc : c.Confined spelled) (caller : String) (f : Callback) (this : Option Receiver)
    (keepsThis : Bool) (args extras : List Value) (pos : Position) :
    c.Keeps spelled (c.callWith caller f this keepsThis args extras pos) Free := by
  unfold callWith
  extract_lets moved direct movable
  have hmoved (more : List Value) : c.Keeps spelled (moved more) Free :=
    (callHeld_keeps hc _ _ _ _).bind fun _ _ =>
      (KeepsTo.modified fun _ => .of_eq (by rfl) (by rfl)).bind fun _ _ => .pure trivial
  have hdirect (more : List Value) : c.Keeps spelled (direct more) Free := callHeld_keeps hc _ _ _ _
  refine within_keeps ?_ caller pos
  -- a function of the script is called by its arity, any other one is tried in several ways
  split
  · extract_lets arity
    split
    · exact hdirect _
    split
    · exact hmoved _
    split
    · exact hmoved _
    · exact hdirect _
  · split
    · refine firstPresent_keeps ?_ (hmoved _)
      intro r hr
      simp only [List.mem_cons, List.not_mem_nil, or_false] at hr
      rcases hr with rfl | rfl
      · exact hdirect _
      · exact hmoved _
    · refine firstPresent_keeps ?_ (hdirect _)
      intro r hr
      rw [List.mem_singleton.1 hr]
      exact hdirect _

/-! ### Items -/

private theorem ask_keeps (hc : c.Confined spelled) (a : Asking) (args extras : List Value) (v : Value) :
    c.Keeps spelled (c.ask a args extras v) Free := by
  unfold ask
  refine (KeepsTo.modified fun _ => .of_eq (by rfl) (by rfl)).bind fun _ _ => ?_
  refine (callWith_keeps hc _ _ _ _ _ _ _).outcome.bind fun r _ => ?_
  exact KeepsTo.read.bind fun s _ => .pure trivial

private theorem askItem_keeps (hc : c.Confined spelled) (a : Asking) (i : Nat) (item : Value) :
    c.Keeps spelled (c.askItem a i item) Free := ask_keeps hc a _ _ item

private theorem askEntry_keeps (hc : c.Confined spelled) (a : Asking) (i : Nat) (entry : String × Value) :
    c.Keeps spelled (c.askEntry a i entry) Free := (ask_keeps hc a _ _ _).bind fun _ _ => .pure trivial

private theorem askWhile_keeps {ι : Type} {about : Nat → ι → Run (Except Stop Value × ι)}
    (h : ∀ i item, c.Keeps spelled (about i item) Free) (goesOn : Value → Bool) (i : Nat) (items : List ι) :
    c.Keeps spelled (askWhile about goesOn i items) Free := by
  induction items generalizing i with
  | nil => exact .pure trivial
  | cons item rest ih =>
    refine (h i item).bind fun r _ => ?_
    split
    · exact .pure trivial
    · split
      · exact (ih (i + 1)).bind fun q _ => .pure trivial
      · exact .pure trivial

private theorem reduceFrom_keeps (hc : c.Confined spelled) (caller : String) (f : Callback) (pos : Position)
    (items : List (Value × Nat)) (v : Value) : c.Keeps spelled (c.reduceFrom caller f pos items v) Free := by
  induction items generalizing v with
  | nil => exact .pure trivial
  | cons item rest ih => exact (callWith_keeps hc _ _ _ _ _ _ _).bind fun w _ => ih w

private theorem askPairs_keeps (hc : c.Confined spelled) (caller : String) (f : Callback) (pos : Position) (i : Nat)
    (pairs : List (Value × Value)) : c.Keeps spelled (c.askPairs caller f pos i pairs) Free := by
  induction pairs generalizing i with
  | nil => exact .pure trivial
  | cons pair rest ih =>
    exact (callWith_keeps hc _ _ _ _ _ _ _).bind fun v _ => (ih (i + 1)).bind fun vs _ => .pure trivial

private theorem isBefore_keeps (hc : c.Confined spelled) (f : Callback) (pos : Position) (a b : Value) :
    c.Keeps spelled (c.isBefore f pos a b) Free := by
  refine (callHeld_keeps hc _ _ _ _).outcome.bind fun r _ => ?_
  split
  · exact .pure trivial
  · exact .pure trivial
  · exact .pure trivial
  · exact .pure trivial
  · exact .thrown _

private theorem dedupBy_keeps {same : Value → Value → Run Bool} (h : ∀ a b, c.Keeps spelled (same a b) Free)
    (last : Value) (items : List Value) : c.Keeps spelled (dedupBy same last items) Free := by
  induction items generalizing last with
  | nil => exact .pure trivial
  | cons v rest ih =>
    refine (h last v).bind fun equal _ => ?_
    split
    · exact ih last
    · exact (ih v).bind fun _ _ => .pure trivial

private theorem search_keeps (hc : c.Confined spelled) (a : Asking) (items : List Value) (start : Nat)
    (fits : Value → Bool)
    (found : Option (Nat × Value × Value) → Value) : c.Keeps spelled (c.search a items start fits found) Free :=
  (askWhile_keeps (askItem_keeps hc a) _ _ _).bind fun _ _ => .pure trivial

/-- What a function over arrays does with its callback. -/
private theorem asking?_keeps (hc : c.Confined spelled) {constant : Bool} {name : String} {items rest : List Value}
    {pos : Position} {run : Callback → Run Effect} (h : c.asking? constant name items rest pos = some run)
    (f : Callback) : c.Keeps spelled (run f) Free := by
  unfold asking? at h
  extract_lets asking from? changed reduced at h
  have hasked (a : Asking) {g : Inquiry Value → Effect} :
      c.Keeps spelled (do return g (← askAll (c.askItem a) items)) Free :=
    (askWhile_keeps (askItem_keeps hc a) _ _ _).bind fun _ _ => .pure trivial
  have hreduced (more : List (Value × Nat)) (start : Value) : c.Keeps spelled (reduced f more start) Free :=
    (reduceFrom_keeps hc _ _ _ _ _).bind fun _ _ => .pure trivial
  have hchanged {r : Run (List Value)} (hr : c.Keeps spelled r Free) : c.Keeps spelled (changed r) Free :=
    hr.bind fun _ _ => .pure trivial
  have hsearched {a : Callback → Asking} {fits : Value → Bool} {found : Option (Nat × Value × Value) → Value}
      (hfrom : (from?.map fun start f => c.search (a f) items start fits found) = some run) :
      c.Keeps spelled (run f) Free := by
    obtain ⟨start, -, rfl⟩ := Option.map_eq_some_iff.1 hfrom
    exact search_keeps hc _ _ _ _ _
  split at h
  -- `map`, `for_each`, `filter`, `retain` and `drain`
  case h_1 | h_2 | h_3 | h_4 | h_5 =>
    cases h
    exact hasked _
  -- `reduce` and `reduce_rev`
  case h_6 | h_7 | h_8 | h_9 =>
    cases h
    exact hreduced _ _
  -- `some` and `all`
  case h_10 | h_11 =>
    cases h
    exact search_keeps hc _ _ _ _ _
  -- `sort` and `dedup`
  case h_12 =>
    cases h
    exact hchanged (Library.Sorting.sort_keepsTo (isBefore_keeps hc f pos) items)
  case h_13 =>
    cases h
    split
    · exact .pure trivial
    · refine hchanged ((dedupBy_keeps (fun a b => ?_) _ _).bind fun _ _ => .pure trivial)
      refine (callHeld_keeps hc _ _ _ _).outcome.bind fun o _ => ?_
      split
      · exact .pure trivial
      · exact .pure trivial
      · exact .thrown _
  -- `index_of`, `find` and `find_map`
  case h_14 | h_15 | h_16 => exact hsearched h
  case h_17 => cases h

/-- What a function over two arrays does with its callback. -/
private theorem askingPairs?_keeps (hc : c.Confined spelled) {name : String} {items others : List Value}
    {pos : Position} {run : Callback → Run Effect} (h : c.askingPairs? name items others pos = some run)
    (f : Callback) : c.Keeps spelled (run f) Free := by
  unfold askingPairs? at h
  split at h
  · cases h
    exact (askPairs_keeps hc _ _ _ _ _).bind fun _ _ => .pure trivial
  · cases h

/-- What a function over maps does with its callback. -/
private theorem askingEntries?_keeps (hc : c.Confined spelled) {constant : Bool} {name : String}
    {entries : List (String × Value)} {rest : List Value} {pos : Position} {run : Callback → Run Effect}
    (h : c.askingEntries? constant name entries rest pos = some run) (f : Callback) :
    c.Keeps spelled (run f) Free := by
  unfold askingEntries? at h
  extract_lets asked left at h
  have hasked {g : Inquiry (String × Value) → Effect} : c.Keeps spelled (do return g (← asked f)) Free :=
    (askWhile_keeps (askEntry_keeps hc _) _ _ _).bind fun _ _ => .pure trivial
  split at h
  -- `filter`, `retain` and `drain`
  case h_1 | h_2 | h_3 =>
    cases h
    exact hasked
  case h_4 => cases h

theorem asked?_keeps (hc : c.Confined spelled) {constant : Bool} {name : String} {args : List Value} {pos : Position}
    {callback : Except Fault Callback} {run : Callback → Run Effect}
    (h : c.asked? constant name args pos = some (callback, run)) (f : Callback) : c.Keeps spelled (run f) Free := by
  unfold asked? at h
  split at h
  · obtain ⟨run', hrun, h⟩ := Option.map_eq_some_iff.1 h
    cases h
    exact askingPairs?_keeps hc hrun f
  · obtain ⟨_, -, h⟩ := Option.bind_eq_some_iff.1 h
    obtain ⟨run', hrun, h⟩ := Option.map_eq_some_iff.1 h
    cases h
    exact asking?_keeps hc hrun f
  · obtain ⟨run', hrun, h⟩ := Option.map_eq_some_iff.1 h
    cases h
    exact askingEntries?_keeps hc hrun f
  · cases h

theorem callLibrary_keeps (hc : c.Confined spelled) (constant : Bool) (name : String) (args : List Value)
    (pos : Position) : c.Keeps spelled (c.callLibrary constant name args pos) Free := by
  unfold callLibrary
  split
  · rename_i callback run hrun
    cases hname : Names.isForbiddenCall name with
    | true =>
      rw [asked?_eq_none hname] at hrun
      cases hrun
    | false =>
      refine (KeepsTo.step _ _).bind fun _ _ => (KeepsTo.noted hname).bind fun _ _ => ?_
      refine (checkConstant_keeps _ _ _ _).bind fun _ _ => (KeepsTo.ofExcept _ _).bind fun f _ => ?_
      exact (asked?_keeps hc hrun f).bind fun e _ => checked_keeps e pos
  · exact callPlain_keeps _ _ _ _

theorem callFunction_keeps (hc : c.Confined spelled) (name : String) (held args : List Value) (pos : Position) :
    c.Keeps spelled (c.callFunction name held args pos) Free := by
  unfold callFunction
  dsimp only
  split
  · rename_i f hf
    exact hc.invokes (mem_of_function? hf) _ _ _ _
  · exact (callLibrary_keeps hc _ _ _ _).bind fun e _ => .ofOutcome _

end Context

end Sandscript
