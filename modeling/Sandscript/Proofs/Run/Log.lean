import Sandscript.Run.State

/-!
# The calls and the names of a run

A run notes every call that has found its function, and forgets none of them; the names that it finds in scope are
still there when it ends, however much it hides or changes them.  `Run.KeepsTo Q r R` says this of the run `r`, with
calls that satisfy `Q`, and that its result satisfies `R` if it has one.  The rules below follow the ways in which runs
are put together.
-/

namespace Sandscript

/-- The names in scope, the innermost first. -/
def RunState.names (s : RunState) : List String := s.scope.map (·.name)

/-- From `s` to `t` only calls were made that satisfy `Q`, and no name has left the scope. -/
structure RunState.Extends (Q : Callee → Prop) (s t : RunState) : Prop where
  called : ∃ new, t.called = new ++ s.called ∧ ∀ callee ∈ new, Q callee
  names : s.names <:+ t.names

namespace RunState.Extends

variable {Q : Callee → Prop} {s t u : RunState}

/-- Nothing was called. -/
theorem of_called_eq (hcalled : t.called = s.called) (hnames : s.names <:+ t.names) : s.Extends Q t :=
  ⟨⟨[], hcalled, by simp⟩, hnames⟩

/-- Nothing was called, and the names are the same. -/
theorem of_eq (hcalled : t.called = s.called) (hnames : t.names = s.names) : s.Extends Q t :=
  of_called_eq hcalled (hnames ▸ List.suffix_rfl)

theorem refl : s.Extends Q s := of_eq rfl rfl

private theorem trans (h₁ : s.Extends Q t) (h₂ : t.Extends Q u) : s.Extends Q u := by
  obtain ⟨⟨new, ht, hnew⟩, hnames⟩ := h₁
  obtain ⟨⟨new', hu, hnew'⟩, hnames'⟩ := h₂
  refine ⟨⟨new' ++ new, by rw [hu, ht, List.append_assoc], ?_⟩, hnames.trans hnames'⟩
  intro callee hc
  rcases List.mem_append.1 hc with hc | hc
  · exact hnew' callee hc
  · exact hnew callee hc

end RunState.Extends

/-! ### Names that come and go -/

/-- Behind new names, those that were in scope before are left. -/
theorem map_name_cutScope {s t : RunState} (h : s.names <:+ t.names) :
    (Run.cutScope s.scope.length t.scope).map (·.name) = s.names := by
  obtain ⟨new, hnew⟩ := h
  have hlength : t.scope.length - s.scope.length = new.length := by
    have hsum := congrArg List.length hnew
    simp only [RunState.names, List.length_append, List.length_map] at hsum
    omega
  have hdrop : t.names.drop new.length = s.names := by rw [← hnew, List.drop_left]
  rw [Run.cutScope, hlength, List.map_drop]
  exact hdrop

private theorem RunState.Extends.cutScope {Q : Callee → Prop} {s t : RunState} (h : s.Extends Q t) :
    s.Extends Q { t with scope := Run.cutScope s.scope.length t.scope } :=
  ⟨h.called, (map_name_cutScope h.names).symm ▸ List.suffix_rfl⟩

theorem map_name_store (name : String) (v : Value) (scope : List Binding) :
    (Run.store name v scope).map (·.name) = scope.map (·.name) := by
  induction scope with
  | nil => rfl
  | cons b rest ih =>
    unfold Run.store
    split
    · rfl
    · rw [List.map_cons, List.map_cons, ih]

namespace Run

/-- The calls of `r` satisfy `Q`, it loses no names, and a result of it satisfies `R`. -/
def KeepsTo {α : Type} (Q : Callee → Prop) (r : Run α) (R : α → Prop) : Prop :=
  ∀ s, match r s with
    | .ok a t => s.Extends Q t ∧ R a
    | .error _ t => s.Extends Q t

/-- Nothing is said about a result. -/
abbrev Free {α : Type} : α → Prop := fun _ => True

namespace KeepsTo

variable {α β : Type} {Q : Callee → Prop} {R : α → Prop}

theorem pure {a : α} (h : R a) : KeepsTo Q (Pure.pure a) R := fun _ => ⟨.refl, h⟩

theorem thrown (e : Stop) : KeepsTo Q (throw e : Run α) R := fun _ => .refl

theorem raised (fault : Fault) (position : Position) : KeepsTo Q (raise fault position : Run α) R := thrown _

theorem bind {r : Run α} {f : α → Run β} {R' : β → Prop} (hr : KeepsTo Q r R) (hf : ∀ a, R a → KeepsTo Q (f a) R') :
    KeepsTo Q (r >>= f) R' := by
  intro s
  have hs := hr s
  simp only [Bind.bind, EStateM.bind]
  cases h : r s with
  | error e t =>
    rw [h] at hs
    exact hs
  | ok a t =>
    rw [h] at hs
    obtain ⟨hext, ha⟩ := hs
    have ht := hf a ha t
    dsimp only
    cases h' : f a t with
    | error e u =>
      rw [h'] at ht
      exact hext.trans ht
    | ok b u =>
      rw [h'] at ht
      exact ⟨hext.trans ht.1, ht.2⟩

theorem read : KeepsTo Q (get : Run RunState) Free := fun _ => ⟨.refl, trivial⟩

theorem modified {f : RunState → RunState} (hf : ∀ s : RunState, s.Extends Q (f s)) :
    KeepsTo Q (modify f : Run Unit) Free :=
  fun s => ⟨hf s, trivial⟩

/-! ### Steps -/

theorem refused (fault : Fault) (position : Position) : KeepsTo Q (refuse fault position : Run α) R :=
  (modified fun _ => .of_eq (by rfl) (by rfl)).bind fun _ _ => raised _ _

theorem noted {origin : Origin} {name : String} (h : Q ⟨origin, name⟩) : KeepsTo Q (note origin name) Free :=
  fun _ => ⟨⟨⟨[⟨origin, name⟩], rfl, by simpa using h⟩, List.suffix_rfl⟩, trivial⟩

theorem step (l : RunLimits) (position : Position) : KeepsTo Q (Run.step l position) Free := by
  intro s
  unfold Run.step
  extract_lets counted exceeds
  have hext : s.Extends Q counted := .of_eq rfl rfl
  cases exceeds with
  | true => exact hext.trans (.of_eq rfl rfl)
  | false =>
    by_cases htime : l.time < counted.steps
    · simpa only [Bool.false_eq_true, if_false, htime, if_true] using hext
    · simpa only [Bool.false_eq_true, if_false, htime] using ⟨hext, trivial⟩

theorem steps (l : RunLimits) (position : Position) (n : Nat) : KeepsTo Q (Run.steps l position n) Free := by
  induction n with
  | zero => exact pure trivial
  | succ n ih => exact (step l position).bind fun _ _ => ih

theorem ofExcept (position : Position) (x : Except Fault α) : KeepsTo Q (Run.ofExcept position x) Free := by
  cases x with
  | ok a => exact pure trivial
  | error fault => exact raised _ _

theorem checkSize (l : RunLimits) (v : Value) (position : Position) : KeepsTo Q (Run.checkSize l v position) Free := by
  unfold Run.checkSize
  split
  · exact pure trivial
  split
  · exact refused _ _
  · exact pure trivial

theorem checkName (l : RunLimits) (name : String) (position : Position) :
    KeepsTo Q (Run.checkName l name position) Free := by
  unfold Run.checkName
  split
  · exact refused _ _
  · exact pure trivial

theorem ofOutcome (x : Except Stop α) : KeepsTo Q (Run.ofOutcome x) Free := by
  cases x with
  | ok a => exact pure trivial
  | error e => exact thrown _

/-! ### Runs inside of runs -/

theorem uncounted {r : Run α} (h : KeepsTo Q r R) : KeepsTo Q (Run.uncounted r) R := by
  intro s
  have hs := h s
  unfold Run.uncounted
  cases hr : r s with
  | ok a t =>
    rw [hr] at hs
    exact ⟨hs.1.trans (.of_eq rfl rfl), hs.2⟩
  | error e t =>
    rw [hr] at hs
    exact hs.trans (.of_eq rfl rfl)

theorem outcome {r : Run α} (h : KeepsTo Q r R) : KeepsTo Q (Run.outcome r) fun o => ∀ a, o = .ok a → R a := by
  intro s
  have hs := h s
  unfold Run.outcome
  cases hr : r s with
  | error e t =>
    rw [hr] at hs
    refine ⟨hs, ?_⟩
    rintro a ⟨⟩
  | ok a t =>
    rw [hr] at hs
    refine ⟨hs.1, ?_⟩
    rintro _ ⟨⟩
    exact hs.2

theorem withNames {r : Run α} (h : KeepsTo Q r R) : KeepsTo Q (Run.withNames r) R := by
  intro s
  have hs := h s
  unfold Run.withNames
  cases hr : r s with
  | ok a t =>
    rw [hr] at hs
    exact ⟨hs.1.cutScope, hs.2⟩
  | error e t =>
    rw [hr] at hs
    exact hs.cutScope

theorem body {r : Run Unit} (h : KeepsTo Q r Free) : KeepsTo Q (Run.body r) Free := by
  intro s
  have hs := h s
  unfold Run.body
  cases hr : r s with
  | ok a t =>
    rw [hr] at hs
    exact hs
  | error e t =>
    rw [hr] at hs
    cases e with
    | nextRound => exact ⟨hs, trivial⟩
    | leftLoop v => exact ⟨hs, trivial⟩
    | _ => exact hs

theorem rounds {σ : Type} {round : σ → Run (Round σ)} (h : ∀ a, KeepsTo Q (round a) Free) (n : Nat) (a : σ) :
    KeepsTo Q (Run.rounds round n a) Free := by
  induction n generalizing a with
  | zero => exact thrown _
  | succ n ih =>
    refine (h a).bind fun r _ => ?_
    cases r with
    | again b => exact ih b
    | done v => exact pure trivial

end KeepsTo

end Run

end Sandscript
