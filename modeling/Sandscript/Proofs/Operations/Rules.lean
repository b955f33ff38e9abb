import Sandscript.Proofs.Run.Log

/-!
# Runs with a limit on their operations

A run that takes more operations than its limit admits is stopped by a fault that no script catches.
`Run.Obeys n r halted` says of the run `r` that it goes on with at most `n` steps in all, or has been stopped: by a
fault of its own, or by one that its result holds, which is when `halted` is true of the result.  Two things loosen the
limit, and nothing is said of runs that call them: the operations of a callback do not count when it has ended, and the
faults of a text that `eval` runs can be caught.  The rules below follow the ways in which runs are put together.
-/

namespace Sandscript

/-- A call behind which a run may take more operations than are counted. -/
def Callee.Loosens (callee : Callee) : Prop :=
  callee.origin = .asking ∨ callee.origin = .language ∧ callee.name = "eval"

instance (callee : Callee) : Decidable callee.Loosens :=
  inferInstanceAs (Decidable (_ ∨ _))

namespace RunState

/-- The limit on the operations was loosened. -/
def Loose (s : RunState) : Prop := ∃ callee ∈ s.called, callee.Loosens

/-- Unless the limit was loosened, every step counts, and there were at most `n`. -/
def Within (n : Nat) (s : RunState) : Prop := s.Loose ∨ s.operations = s.steps ∧ s.steps ≤ n

variable {n : Nat} {s t : RunState}

private theorem Extends.loose {Q : Callee → Prop} (h : s.Extends Q t) (hs : s.Loose) : t.Loose := by
  obtain ⟨callee, hcallee, hloosens⟩ := hs
  obtain ⟨⟨new, hcalled, -⟩, -⟩ := h
  exact ⟨callee, hcalled ▸ List.mem_append_right new hcallee, hloosens⟩

/-- Only the calls and the counts matter. -/
theorem Within.of_eq (hs : s.Within n) (hcalled : t.called = s.called) (hoperations : t.operations = s.operations)
    (hsteps : t.steps = s.steps) : t.Within n := by
  unfold Within Loose at *
  rw [hcalled, hoperations, hsteps]
  exact hs

end RunState

/-- A fault that no script can catch. -/
def Stop.Final : Stop → Prop
  | .raised r => r.fault.isSystem = true
  | .returned _ | .leftLoop _ | .nextRound | .outOfTime => False

theorem Stop.Final.isSystem {r : Raised} (h : Stop.Final (.raised r)) : r.fault.isSystem = true := h

namespace Run

variable {α β : Type}

/-- What was within the limit stays so, or there is a final stop, or a result that is `halted`. -/
def Obeys (n : Nat) (r : Run α) (halted : α → Prop) : Prop :=
  ∀ s : RunState, s.Within n → match r s with
    | .ok a t => t.Within n ∨ halted a
    | .error e t => t.Within n ∨ e.Final

/-- Whatever the state, there is a final stop or a result that is `halted`. -/
def HandsOn (r : Run α) (halted : α → Prop) : Prop :=
  ∀ s : RunState, match r s with
    | .ok a _ => halted a
    | .error e _ => e.Final

/-- No result holds a stop. -/
abbrev Never : α → Prop := fun _ => False

/-- A final stop that is a value, or a result that is `halted`. -/
def Holds (halted : α → Prop) : Except Stop α → Prop
  | .ok a => halted a
  | .error e => e.Final

namespace HandsOn

variable {halted : α → Prop}

theorem pure {a : α} (h : halted a) : HandsOn (Pure.pure a) halted := fun _ => h

theorem thrown {e : Stop} (h : e.Final) : HandsOn (throw e : Run α) halted := fun _ => h

theorem ofOutcome {x : Except Stop α} (h : Holds Never x) : HandsOn (Run.ofOutcome x) halted := by
  cases x with
  | ok a => exact h.elim
  | error e => exact thrown h

theorem bind {r : Run α} {f : α → Run β} {halted' : β → Prop} (hr : HandsOn r halted)
    (hf : ∀ a, halted a → HandsOn (f a) halted') : HandsOn (r >>= f) halted' := by
  intro s
  have hs := hr s
  simp only [Bind.bind, EStateM.bind]
  cases h : r s with
  | error e t =>
    rw [h] at hs
    exact hs
  | ok a t =>
    rw [h] at hs
    exact hf a hs t

theorem read_bind {f : RunState → Run α} (h : ∀ s, HandsOn (f s) halted) : HandsOn (get >>= f) halted := fun s => h s s

/-- What is done to the state on the way does not matter. -/
theorem modify_bind {f : RunState → RunState} {r : Run α} (h : HandsOn r halted) :
    HandsOn (do modify f; r) halted := fun s => h (f s)

end HandsOn

namespace Obeys

variable {n : Nat} {l : RunLimits} {halted : α → Prop}

theorem pure (a : α) : Obeys n (Pure.pure a) halted := fun _ hs => Or.inl hs

theorem thrown (e : Stop) : Obeys n (throw e : Run α) halted := fun _ hs => Or.inl hs

theorem raised (fault : Fault) (position : Position) : Obeys n (raise fault position : Run α) halted := thrown _

theorem read : Obeys n (get : Run RunState) Never := fun _ hs => Or.inl hs

/-- A result that holds a stop has to be handed on. -/
theorem bind_handing {r : Run α} {f : α → Run β} {halted' : β → Prop} (hr : Obeys n r halted)
    (hf : ∀ a, Obeys n (f a) halted') (hhalted : ∀ a, halted a → HandsOn (f a) halted') :
    Obeys n (r >>= f) halted' := by
  intro s hs
  have hfirst := hr s hs
  simp only [Bind.bind, EStateM.bind]
  cases h : r s with
  | error e t =>
    rw [h] at hfirst
    exact hfirst
  | ok a t =>
    rw [h] at hfirst
    rcases hfirst with hwithin | ha
    · exact hf a t hwithin
    · have hnext := hhalted a ha t
      dsimp only
      cases h' : f a t with
      | error e u =>
        rw [h'] at hnext
        exact Or.inr hnext
      | ok b u =>
        rw [h'] at hnext
        exact Or.inr hnext

theorem bind {r : Run α} {f : α → Run β} {halted' : β → Prop} (hr : Obeys n r Never) (hf : ∀ a, Obeys n (f a) halted') :
    Obeys n (r >>= f) halted' := hr.bind_handing hf fun _ h => h.elim

theorem modified {f : RunState → RunState} (hcalled : ∀ s, (f s).called = s.called)
    (hoperations : ∀ s, (f s).operations = s.operations) (hsteps : ∀ s, (f s).steps = s.steps) :
    Obeys n (modify f : Run Unit) Never :=
  fun s hs => Or.inl (hs.of_eq (hcalled s) (hoperations s) (hsteps s))

/-! ### Steps -/

theorem refused (fault : Fault) (position : Position) : Obeys n (refuse fault position : Run α) halted :=
  (modified (fun _ => by rfl) (fun _ => by rfl) fun _ => by rfl).bind fun _ => raised _ _

theorem noted (origin : Origin) (name : String) : Obeys n (note origin name) Never := by
  intro s hs
  left
  rcases hs with ⟨callee, hcallee, hloosens⟩ | hcounts
  · exact Or.inl ⟨callee, List.mem_cons_of_mem _ hcallee, hloosens⟩
  · exact Or.inr hcounts

/-- Behind a call that loosens the limit anything may be done that forgets no call. -/
theorem noted_bind {Q : Callee → Prop} {origin : Origin} {name : String} {r : Run α}
    (hloosens : Callee.Loosens ⟨origin, name⟩) (hr : KeepsTo Q r Free) : Obeys n (do note origin name; r) halted := by
  intro s _
  let noted : RunState := { s with called := ⟨origin, name⟩ :: s.called }
  have hloose : noted.Loose := ⟨_, List.mem_cons_self, hloosens⟩
  have hkept := hr noted
  change match r noted with
    | .ok a t => t.Within n ∨ halted a
    | .error e t => t.Within n ∨ e.Final
  cases h : r noted with
  | error e t =>
    rw [h] at hkept
    exact Or.inl (Or.inl (hkept.loose hloose))
  | ok a t =>
    rw [h] at hkept
    exact Or.inl (Or.inl (hkept.1.loose hloose))

/-- The step behind the last one that the limit admits is a final stop. -/
theorem step (hlimit : l.maxOperations? = some n) (position : Position) : Obeys n (Run.step l position) Never := by
  intro s hs
  unfold Run.step
  extract_lets counted exceeds
  have hcounted (h : counted.operations ≤ n) : counted.Within n := by
    rcases hs with hloose | ⟨hequal, -⟩
    · exact Or.inl hloose
    · refine Or.inr ⟨congrArg (· + 1) hequal, ?_⟩
      change s.steps + 1 ≤ n
      rw [← hequal]
      exact h
  cases hexceeds : exceeds with
  | true => exact Or.inr rfl
  | false =>
    have hle : counted.operations ≤ n := by
      simpa only [exceeds, hlimit, decide_eq_false_iff_not, Nat.not_lt] using hexceeds
    simp only [Bool.false_eq_true, if_false]
    by_cases htime : l.time < counted.steps
    · rw [if_pos htime]
      exact Or.inl (hcounted hle)
    · rw [if_neg htime]
      exact Or.inl (hcounted hle)

theorem steps (hlimit : l.maxOperations? = some n) (position : Position) (k : Nat) :
    Obeys n (Run.steps l position k) Never := by
  induction k with
  | zero => exact pure _
  | succ k ih => exact (step hlimit position).bind fun _ => ih

theorem ofExcept (position : Position) (x : Except Fault α) : Obeys n (Run.ofExcept position x) halted := by
  cases x with
  | ok a => exact pure a
  | error fault => exact raised _ _

theorem checkSize (v : Value) (position : Position) : Obeys n (Run.checkSize l v position) Never := by
  unfold Run.checkSize
  split
  · exact pure _
  split
  · exact refused _ _
  · exact pure _

theorem checkName (name : String) (position : Position) : Obeys n (Run.checkName l name position) Never := by
  unfold Run.checkName
  split
  · exact refused _ _
  · exact pure _

theorem ofOutcome (x : Except Stop α) : Obeys n (Run.ofOutcome x) halted := by
  cases x with
  | ok a => exact pure a
  | error e => exact thrown e

/-! ### Runs inside of runs -/

theorem outcome {r : Run α} (h : Obeys n r halted) : Obeys n (Run.outcome r) (Holds halted) := by
  intro s hs
  have hr := h s hs
  unfold Run.outcome
  cases hrun : r s with
  | error e t =>
    rw [hrun] at hr
    exact hr
  | ok a t =>
    rw [hrun] at hr
    exact hr

theorem withNames {r : Run α} (h : Obeys n r halted) : Obeys n (Run.withNames r) halted := by
  intro s hs
  have hr := h s hs
  unfold Run.withNames
  cases hrun : r s with
  | error e t =>
    rw [hrun] at hr
    exact hr
  | ok a t =>
    rw [hrun] at hr
    exact hr

theorem body {r : Run Unit} (h : Obeys n r Never) : Obeys n (Run.body r) Never := by
  intro s hs
  have hr := h s hs
  unfold Run.body
  cases hrun : r s with
  | ok a t =>
    rw [hrun] at hr
    exact hr
  | error e t =>
    rw [hrun] at hr
    -- an end of a round is no final stop
    cases e with
    | nextRound => exact hr
    | leftLoop v => exact hr
    | _ => exact hr

theorem rounds {σ : Type} {round : σ → Run (Round σ)} (h : ∀ a, Obeys n (round a) Never) (k : Nat) (a : σ) :
    Obeys n (Run.rounds round k a) Never := by
  induction k generalizing a with
  | zero => exact thrown _
  | succ k ih =>
    refine (h a).bind fun r => ?_
    cases r with
    | again b => exact ih b
    | done v => exact pure _

end Obeys

end Run

end Sandscript
