import Sandscript.Run.State

/-!
# Runs that get on without a refusal

The limits of a backend do nothing but refuse.  `Run.Agrees P r r'` says so of a run `r` with limits and a run `r'`
without them: where `r` meets with no refusal, `r'` does the same from the first step to the last, as long as it is not
refused a call for its own depth, which `P` rules out.  A refusal that a run gets over is still noted in its last state,
so a run that is put together from others meets with none just if none of them does.  The rules below follow the ways in
which runs are put together.
-/

namespace Sandscript

/-- The same time, and no limits of the restricted backend. -/
def RunLimits.unguarded (l : RunLimits) : RunLimits := { l with guards := none }

namespace Run

variable {α β : Type}

/-- The state in which a run has ended. -/
def stateOf : EStateM.Result Stop RunState α → RunState
  | .ok _ s | .error _ s => s

/-- What was refused before stays noted. -/
def Remembers (r : Run α) : Prop := ∀ s, s.refusals ≤ (stateOf (r s)).refusals

/-- From the state `s` the run meets with no refusal. -/
def Unrefused (r : Run α) (s : RunState) : Prop := (stateOf (r s)).refusals = s.refusals

/-- Without refusals the second run is the first one; `P` rules out that the second one is refused anything then. -/
structure Agrees (P : Prop) (r r' : Run α) : Prop where
  left : Remembers r
  right : Remembers r'
  same : ∀ s, Unrefused r s → P ∨ Unrefused r' s → r' s = r s

variable {P : Prop}

/-! ### One run after the other -/

section

variable {r : Run α} {f : α → Run β} (hr : Remembers r) (hf : ∀ a, Remembers (f a))

include hr hf

theorem Remembers.bind : Remembers (r >>= f) := by
  intro s
  have hs := hr s
  change _ ≤ (stateOf (EStateM.bind r f s)).refusals
  unfold EStateM.bind
  cases h : r s with
  | error e t =>
    rw [h] at hs
    exact hs
  | ok a t =>
    rw [h] at hs
    exact Nat.le_trans hs (hf a t)

/-- If there is no refusal in all, neither run meets with one. -/
private theorem Unrefused.of_bind {s : RunState} (h : Unrefused (r >>= f) s) :
    Unrefused r s ∧ ∀ a t, r s = .ok a t → Unrefused (f a) t := by
  have hs := hr s
  change (stateOf (EStateM.bind r f s)).refusals = _ at h
  unfold EStateM.bind at h
  unfold Unrefused
  cases hrun : r s with
  | error e t =>
    rw [hrun] at h
    exact ⟨h, fun a t ht => by cases ht⟩
  | ok a t =>
    rw [hrun] at h hs
    have ht := hf a t
    dsimp only [stateOf] at h hs ht ⊢
    have hboth : t.refusals = s.refusals := Nat.le_antisymm (h ▸ ht) hs
    refine ⟨hboth, ?_⟩
    rintro _ _ ⟨⟩
    exact h.trans hboth.symm

end

namespace Agrees

theorem bind {r r' : Run α} {f f' : α → Run β} (hr : Agrees P r r') (hf : ∀ a, Agrees P (f a) (f' a)) :
    Agrees P (r >>= f) (r' >>= f') where
  left := hr.left.bind fun a => (hf a).left
  right := hr.right.bind fun a => (hf a).right
  same s hs hs' := by
    obtain ⟨hfirst, hnext⟩ := hs.of_bind hr.left fun a => (hf a).left
    have hsplit (h : Unrefused (r' >>= f') s) := h.of_bind hr.right fun a => (hf a).right
    have hsame := hr.same s hfirst (hs'.imp_right fun h => (hsplit h).1)
    change EStateM.bind r' f' s = EStateM.bind r f s
    unfold EStateM.bind
    rw [hsame]
    cases hrun : r s with
    | error e t => rfl
    | ok a t => exact (hf a).same t (hnext a t hrun) (hs'.imp_right fun h => (hsplit h).2 a t (hsame.trans hrun))

/-- A run that forgets no refusal is the same as itself. -/
theorem self {r : Run α} (h : Remembers r) : Agrees P r r := ⟨h, h, fun _ _ _ => rfl⟩

/-- A run that is refused something settles nothing. -/
private theorem of_refused {r r' : Run α} (hr : Remembers r) (hr' : Remembers r') (h : ∀ s, ¬ Unrefused r s) :
    Agrees P r r' :=
  ⟨hr, hr', fun s hs => absurd hs (h s)⟩

end Agrees

/-! ### Single runs -/

namespace Remembers

theorem pure (a : α) : Remembers (Pure.pure a) := fun _ => Nat.le_refl _

theorem thrown (e : Stop) : Remembers (throw e : Run α) := fun _ => Nat.le_refl _

theorem raised (fault : Fault) (position : Position) : Remembers (raise fault position : Run α) := thrown _

theorem refused (fault : Fault) (position : Position) : Remembers (refuse fault position : Run α) :=
  fun _ => Nat.le_succ _

theorem modified {f : RunState → RunState} (h : ∀ s, (f s).refusals = s.refusals) : Remembers (modify f : Run Unit) :=
  fun s => Nat.le_of_eq (h s).symm

theorem read : Remembers (get : Run RunState) := fun _ => Nat.le_refl _

theorem noted (origin : Origin) (name : String) : Remembers (note origin name) := modified fun _ => rfl

private theorem declared (name : String) (v : Value) (constant : Bool) : Remembers (declare name v constant) :=
  modified fun _ => rfl

theorem assigned (name : String) (v : Value) : Remembers (assign name v) := modified fun _ => rfl

private theorem ofExcept (position : Position) (x : Except Fault α) : Remembers (Run.ofExcept position x) := by
  cases x with
  | ok a => exact pure a
  | error fault => exact raised _ _

private theorem step (l : RunLimits) (position : Position) : Remembers (Run.step l position) := by
  intro s
  unfold Run.step
  extract_lets counted exceeds
  cases exceeds with
  | true => exact Nat.le_succ _
  | false =>
    by_cases htime : l.time < counted.steps
    · simp only [Bool.false_eq_true, if_false, htime, if_true]
      exact Nat.le_refl _
    · simp only [Bool.false_eq_true, if_false, htime]
      exact Nat.le_refl _

theorem ofOutcome (x : Except Stop α) : Remembers (Run.ofOutcome x) := by
  cases x with
  | ok a => exact pure a
  | error e => exact thrown e

end Remembers

private theorem not_unrefused_refuse (fault : Fault) (position : Position) (s : RunState) :
    ¬ Unrefused (refuse fault position : Run α) s := Nat.succ_ne_self _

namespace Agrees

theorem pure (a : α) : Agrees P (Pure.pure a) (Pure.pure a) := self (.pure a)

theorem thrown (e : Stop) : Agrees P (throw e : Run α) (throw e) := self (.thrown e)

theorem raised (fault : Fault) (position : Position) : Agrees P (raise fault position : Run α) (raise fault position) :=
  self (.raised fault position)

theorem ofExcept (position : Position) (x : Except Fault α) :
    Agrees P (Run.ofExcept position x) (Run.ofExcept position x) :=
  self (.ofExcept position x)

theorem ofOutcome (x : Except Stop α) : Agrees P (Run.ofOutcome x) (Run.ofOutcome x) := self (.ofOutcome x)

theorem modified {f : RunState → RunState} (h : ∀ s, (f s).refusals = s.refusals) :
    Agrees P (modify f : Run Unit) (modify f) := self (.modified h)

theorem read : Agrees P (get : Run RunState) get := self .read

theorem noted (origin : Origin) (name : String) : Agrees P (note origin name) (note origin name) :=
  self (.noted origin name)

theorem declared (name : String) (v : Value) (constant : Bool) :
    Agrees P (declare name v constant) (declare name v constant) := self (.declared name v constant)

theorem assigned (name : String) (v : Value) : Agrees P (assign name v) (assign name v) := self (.assigned name v)

theorem ite {p : Prop} [Decidable p] {r r' q q' : Run α} (hr : Agrees P r r') (hq : Agrees P q q') :
    Agrees P (if p then r else q) (if p then r' else q') := by
  split
  · exact hr
  · exact hq

/-- What a limit refuses may do anything without it. -/
theorem refused (fault : Fault) (position : Position) {r : Run α} (h : Remembers r) :
    Agrees P (refuse fault position) r := of_refused (.refused _ _) h (not_unrefused_refuse _ _)

theorem step (l : RunLimits) (position : Position) :
    Agrees P (Run.step l position) (Run.step l.unguarded position) where
  left := .step l position
  right := .step l.unguarded position
  same s hs _ := by
    unfold Unrefused Run.step at hs
    extract_lets counted exceeds at hs
    have hexceeds : exceeds = false := by
      cases h : exceeds with
      | false => rfl
      | true =>
        rw [h] at hs
        exact absurd hs (Nat.succ_ne_self _)
    change _ = (if exceeds then refuse .tooManyOperations position counted
      else if l.time < counted.steps then .error .outOfTime counted else .ok () counted)
    rw [hexceeds]
    rfl

theorem steps (l : RunLimits) (position : Position) (n : Nat) :
    Agrees P (Run.steps l position n) (Run.steps l.unguarded position n) := by
  induction n with
  | zero => exact pure ()
  | succ n ih => exact (step l position).bind fun _ => ih

theorem checkSize (l : RunLimits) (v : Value) (position : Position) :
    Agrees P (Run.checkSize l v position) (Run.checkSize l.unguarded v position) := by
  unfold Run.checkSize
  split
  · exact pure ()
  split
  · exact refused _ _ (.pure ())
  · exact pure ()

theorem checkName (l : RunLimits) (name : String) (position : Position) :
    Agrees P (Run.checkName l name position) (Run.checkName l.unguarded name position) := by
  unfold Run.checkName
  split
  · exact refused _ _ (.pure ())
  · exact pure ()

/-! ### Runs inside of runs -/

/-- A run that runs another one from a changed state, and goes by its result, if it changes nothing about refusals. -/
theorem around {r r' : Run α} {q q' : Run β} (h : Agrees P r r') (enter : RunState → RunState)
    (henter : ∀ s, (enter s).refusals = s.refusals)
    (hq : ∀ s, (stateOf (q s)).refusals = (stateOf (r (enter s))).refusals)
    (hq' : ∀ s, (stateOf (q' s)).refusals = (stateOf (r' (enter s))).refusals)
    (hsame : ∀ s, r' (enter s) = r (enter s) → q' s = q s) : Agrees P q q' where
  left s := by
    rw [hq, ← henter s]
    exact h.left (enter s)
  right s := by
    rw [hq', ← henter s]
    exact h.right (enter s)
  same s hs hs' := by
    unfold Unrefused at hs hs'
    rw [hq, ← henter s] at hs
    rw [hq', ← henter s] at hs'
    exact hsame s (h.same (enter s) hs hs')

/-- The same for what changes the end of a run alone. -/
private theorem wrapped {r r' : Run α} (h : Agrees P r r') {wrap : Run α → Run β}
    (hwrap : ∀ r s, (stateOf (wrap r s)).refusals = (stateOf (r s)).refusals)
    (hsame : ∀ {r r' : Run α} {s : RunState}, r' s = r s → wrap r' s = wrap r s) : Agrees P (wrap r) (wrap r') :=
  h.around id (fun _ => rfl) (hwrap r) (hwrap r') fun _ hs => hsame hs

variable {r r' : Run α} (h : Agrees P r r')

include h

theorem uncounted : Agrees P (Run.uncounted r) (Run.uncounted r') := by
  refine h.wrapped (fun r s => ?_) fun hs => ?_
  · unfold Run.uncounted
    cases r s <;> rfl
  · unfold Run.uncounted
    rw [hs]

theorem outcome : Agrees P (Run.outcome r) (Run.outcome r') := by
  refine h.wrapped (fun r s => ?_) fun hs => ?_
  · unfold Run.outcome
    cases r s <;> rfl
  · unfold Run.outcome
    rw [hs]

theorem withNames : Agrees P (Run.withNames r) (Run.withNames r') := by
  refine h.wrapped (fun r s => ?_) fun hs => ?_
  · unfold Run.withNames
    cases r s <;> rfl
  · unfold Run.withNames
    rw [hs]

omit h

theorem body {r r' : Run Unit} (h : Agrees P r r') : Agrees P (Run.body r) (Run.body r') := by
  refine h.wrapped (fun r s => ?_) fun hs => ?_
  · unfold Run.body
    cases r s with
    | ok => rfl
    | error e => cases e <;> rfl
  · unfold Run.body
    rw [hs]

theorem rounds {σ : Type} {round round' : σ → Run (Round σ)} (h : ∀ a, Agrees P (round a) (round' a)) (n : Nat)
    (a : σ) :
    Agrees P (Run.rounds round n a) (Run.rounds round' n a) := by
  induction n generalizing a with
  | zero => exact thrown _
  | succ n ih =>
    refine (h a).bind fun r => ?_
    cases r with
    | again b => exact ih b
    | done v => exact pure v

end Agrees

end Run

end Sandscript
