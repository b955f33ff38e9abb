import Sandscript.Names
import Sandscript.Run.Calls

/-!
# What the library leaves out

The library has no function with a forbidden name, neither one that takes its arguments as they are nor one that asks a
callback, nor does the namespace of mathematics.  A call that finds a function with such a name has found one of the
script or of the language itself.
-/

namespace Sandscript

variable {name : String}

namespace Library

private theorem Texts.call?_eq_none (h : Names.isForbiddenCall name = true) (s : String) (args : List Value) :
    Texts.call? name s args = none := by
  unfold Texts.call?
  dsimp only
  split
  -- each name that the library knows is allowed, and for all others there is no function
  all_goals first | simp [Names.isForbiddenCall, Names.forbiddenCalls, Names.isDunder] at h; done | rfl

private theorem Texts.update?_eq_none (h : Names.isForbiddenCall name = true) (s : String) (args : List Value) :
    Texts.update? name s args = none := by
  unfold Texts.update?
  dsimp only
  split
  all_goals first | simp [Names.isForbiddenCall, Names.forbiddenCalls, Names.isDunder] at h; done | rfl

private theorem Texts.ofChar?_eq_none (h : Names.isForbiddenCall name = true) (c : Char) :
    Texts.ofChar? name c = none := by
  unfold Texts.ofChar?
  split
  all_goals first | simp [Names.isForbiddenCall, Names.forbiddenCalls, Names.isDunder] at h; done | rfl

private theorem Texts.updateChar?_eq_none (h : Names.isForbiddenCall name = true) (c : Char) :
    Texts.updateChar? name c = none := by
  unfold Texts.updateChar?
  split
  all_goals first | simp [Names.isForbiddenCall, Names.forbiddenCalls, Names.isDunder] at h; done | rfl

private theorem Arrays.call?_eq_none (h : Names.isForbiddenCall name = true) (items args : List Value) :
    Arrays.call? name items args = none := by
  unfold Arrays.call?
  split
  all_goals first | simp [Names.isForbiddenCall, Names.forbiddenCalls, Names.isDunder] at h; done | rfl

private theorem Arrays.update?_eq_none (h : Names.isForbiddenCall name = true) (items args : List Value) :
    Arrays.update? name items args = none := by
  unfold Arrays.update?
  dsimp only
  split
  all_goals first | simp [Names.isForbiddenCall, Names.forbiddenCalls, Names.isDunder] at h; done | rfl

private theorem Maps.call?_eq_none (h : Names.isForbiddenCall name = true) (entries : List (String × Value))
    (args : List Value) : Maps.call? name entries args = none := by
  unfold Maps.call?
  split
  all_goals first | simp [Names.isForbiddenCall, Names.forbiddenCalls, Names.isDunder] at h; done | rfl

private theorem Maps.update?_eq_none (h : Names.isForbiddenCall name = true) (entries : List (String × Value))
    (args : List Value) : Maps.update? name entries args = none := by
  unfold Maps.update?
  split
  all_goals first | simp [Names.isForbiddenCall, Names.forbiddenCalls, Names.isDunder] at h; done | rfl

private theorem numeric?_eq_none (h : Names.isForbiddenCall name = true) (args : List Value) :
    numeric? name args = none := by
  unfold numeric?
  split
  all_goals first | simp [Names.isForbiddenCall, Names.forbiddenCalls, Names.isDunder] at h; done | rfl

private theorem converted?_eq_none (h : Names.isForbiddenCall name = true) (args : List Value) :
    converted? name args = none := by
  unfold converted?
  split
  all_goals first | simp [Names.isForbiddenCall, Names.forbiddenCalls, Names.isDunder] at h; done | rfl

private theorem gathered?_eq_none (h : Names.isForbiddenCall name = true) (args : List Value) :
    gathered? name args = none := by
  unfold gathered?
  split
  all_goals first | simp [Names.isForbiddenCall, Names.forbiddenCalls, Names.isDunder] at h; done | rfl

private theorem Ranges.property?_eq_none (h : Names.isForbiddenCall name = true) (lo hi : Int64) (inclusive : Bool) :
    Ranges.property? name lo hi inclusive = none := by
  unfold Ranges.property?
  split
  all_goals first | simp [Names.isForbiddenCall, Names.forbiddenCalls, Names.isDunder] at h; done | rfl

private theorem Ranges.made?_eq_none (h : Names.isForbiddenCall name = true) (args : List Value) :
    Ranges.made? name args = none := by
  unfold Ranges.made?
  split
  all_goals first | simp [Names.isForbiddenCall, Names.forbiddenCalls, Names.isDunder] at h; done | rfl

private theorem Ranges.told?_eq_none (h : Names.isForbiddenCall name = true) (lo hi : Int64) (inclusive : Bool)
    (args : List Value) : Ranges.told? name lo hi inclusive args = none := by
  unfold Ranges.told?
  split
  · simp [Names.isForbiddenCall, Names.forbiddenCalls, Names.isDunder] at h
  · exact Ranges.property?_eq_none h lo hi inclusive
  · rfl

private theorem Ranges.call?_eq_none (h : Names.isForbiddenCall name = true) (args : List Value) :
    Ranges.call? name args = none := by
  unfold Ranges.call?
  rw [Ranges.made?_eq_none h]
  split
  · rw [Ranges.told?_eq_none h]
    rfl
  · rw [Ranges.told?_eq_none h]
    rfl
  · rfl

private theorem named?_eq_none (h : Names.isForbiddenCall name = true) (args : List Value) :
    named? name args = none := by
  unfold named?
  rw [numeric?_eq_none h, converted?_eq_none h, gathered?_eq_none h, Ranges.call?_eq_none h]
  rfl

private theorem call?_eq_none (h : Names.isForbiddenCall name = true) (args : List Value) : call? name args = none := by
  unfold call?
  rw [named?_eq_none h]
  split
  · rename_i hnamed
    cases hnamed
  · split
    · rw [Texts.call?_eq_none h]
      rfl
    · exact Arrays.call?_eq_none h _ _
    · rw [Maps.call?_eq_none h]
      rfl
    · rw [Texts.ofChar?_eq_none h]
      rfl
    · rfl

private theorem update?_eq_none (h : Names.isForbiddenCall name = true) (object : Value) (args : List Value) :
    update? name object args = none := by
  unfold update?
  split
  · rw [Texts.update?_eq_none h]
    rfl
  · rw [Arrays.update?_eq_none h]
    rfl
  · rw [Maps.update?_eq_none h]
    rfl
  · rw [Texts.updateChar?_eq_none h]
    split <;> rfl
  · rfl

private theorem lookup_eq_none {α : Type} {functions : List (String × α)}
    (hall : functions.all (fun e => !Names.isForbiddenCall e.1) = true) (h : Names.isForbiddenCall name = true) :
    functions.lookup name = none := by
  rw [List.lookup_eq_none_iff]
  intro e he
  have hname := List.all_eq_true.1 hall e he
  rw [bne_iff_ne]
  rintro rfl
  rw [h] at hname
  cases hname

theorem mathCall?_eq_none (h : Names.isForbiddenCall name = true) (args : List Value) :
    mathCall? name args = none := by
  unfold mathCall?
  cases args.mapM number? with
  | none => rfl
  | some xs =>
    dsimp only [Option.bind_eq_bind, Option.bind_some]
    split
    · rw [lookup_eq_none (by decide +kernel) h, lookup_eq_none (by decide +kernel) h]
      rfl
    · rw [lookup_eq_none (by decide +kernel) h]
      rfl
    · rfl

end Library

namespace Context

theorem shown?_eq_none (h : Names.isForbiddenCall name = true) (args : List Value) : shown? name args = none := by
  unfold shown?
  split
  all_goals first | simp [Names.isForbiddenCall, Names.forbiddenCalls, Names.isDunder] at h; done | rfl

theorem plain?_eq_none (h : Names.isForbiddenCall name = true) (args : List Value) : plain? name args = none := by
  unfold plain?
  rw [Library.call?_eq_none h]
  cases args with
  | nil => rfl
  | cons object rest =>
    dsimp only
    rw [Library.update?_eq_none h]
    rfl

private theorem asking?_eq_none (h : Names.isForbiddenCall name = true) (c : Context) (constant : Bool)
    (items rest : List Value) (pos : Position) : asking? c constant name items rest pos = none := by
  unfold asking?
  dsimp only
  split
  all_goals first | simp [Names.isForbiddenCall, Names.forbiddenCalls, Names.isDunder] at h; done | rfl

private theorem askingPairs?_eq_none (h : Names.isForbiddenCall name = true) (c : Context)
    (items others : List Value) (pos : Position) : askingPairs? c name items others pos = none := by
  unfold askingPairs?
  split
  all_goals first | simp [Names.isForbiddenCall, Names.forbiddenCalls, Names.isDunder] at h; done | rfl

private theorem askingEntries?_eq_none (h : Names.isForbiddenCall name = true) (c : Context) (constant : Bool)
    (entries : List (String × Value)) (rest : List Value) (pos : Position) :
    askingEntries? c constant name entries rest pos = none := by
  unfold askingEntries?
  dsimp only
  split
  all_goals first | simp [Names.isForbiddenCall, Names.forbiddenCalls, Names.isDunder] at h; done | rfl

theorem asked?_eq_none (h : Names.isForbiddenCall name = true) (c : Context) (constant : Bool) (args : List Value)
    (pos : Position) : asked? c constant name args pos = none := by
  unfold asked?
  split
  · rw [askingPairs?_eq_none h]
    rfl
  · rw [asking?_eq_none h]
    cases callbackOf? name _ <;> rfl
  · rw [askingEntries?_eq_none h]
    rfl
  · rfl

end Context

end Sandscript
