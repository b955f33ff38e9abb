import Sandscript.Syntax.Parser

/-!
# What parsers give

A parser that accepts gives a result and leaves the rest of the script.  `Yields p G` says that every result of `p`
satisfies `G`, and `Refuses p` that there is none.
-/

namespace Sandscript.Parser

/-- The next token, as `peek` finds it. -/
def State.head (st : State) : Located :=
  match st.rest with
  | t :: _ => t
  | [] => ⟨.finish, .none⟩

theorem peek_eq (st : State) : peek st = .ok (st.head, st) := by
  obtain ⟨rest, functions, scope, outer, size⟩ := st
  cases rest <;> rfl

variable {α β : Type}

/-- A sequence of two parsers accepts what the second one accepts behind the first. -/
theorem bind_eq_ok {p : Parse α} {f : α → Parse β} {st st' : State} {b : β} :
    (p >>= f) st = .ok (b, st') ↔ ∃ a st₁, p st = .ok (a, st₁) ∧ f a st₁ = .ok (b, st') := by
  have hbind : (p >>= f) st = p st >>= fun r => f r.1 r.2 := rfl
  rw [hbind]
  cases h : p st with
  | error e =>
    constructor
    · intro h'
      cases h'
    · rintro ⟨a, st₁, h', -⟩
      cases h'
  | ok r =>
    obtain ⟨a, st₁⟩ := r
    constructor
    · intro h'
      exact ⟨a, st₁, rfl, h'⟩
    · rintro ⟨a', st₁', h', hf⟩
      cases h'
      exact hf

/-! ### Parsers that accept nothing -/

/-- A parser that accepts nothing. -/
def Refuses (p : Parse α) : Prop := ∀ st, ∃ e, p st = .error e

theorem refuses_fail (fault : SyntaxFault) (position : Position) : Refuses (fail fault position : Parse α) :=
  fun _ => ⟨_, rfl⟩

theorem Refuses.bind {p : Parse α} (h : Refuses p) (f : α → Parse β) : Refuses (p >>= f) := by
  intro st
  obtain ⟨e, he⟩ := h st
  refine ⟨e, ?_⟩
  have hbind : (p >>= f) st = p st >>= fun r => f r.1 r.2 := rfl
  rw [hbind, he]
  rfl

theorem Refuses.of_bind {p : Parse α} {f : α → Parse β} (h : ∀ a, Refuses (f a)) : Refuses (p >>= f) := by
  intro st
  cases hb : (p >>= f) st with
  | error e => exact ⟨e, rfl⟩
  | ok r =>
    obtain ⟨b, st'⟩ := r
    obtain ⟨a, st₁, -, hf⟩ := bind_eq_ok.1 hb
    obtain ⟨e, he⟩ := h a st₁
    rw [he] at hf
    cases hf

theorem Refuses.ne_ok {p : Parse α} (h : Refuses p) {st st' : State} {a : α} : p st ≠ .ok (a, st') := by
  obtain ⟨e, he⟩ := h st
  rw [he]
  exact nofun

theorem refuses_other (done : List (String × Expr)) (p : Position) : Refuses (mapEntries.other done p) := by
  unfold mapEntries.other
  split
  · exact refuses_fail _ _
  · exact refuses_fail _ _

/-! ### Results -/

/-- What a parser gives satisfies `G`. -/
def Yields (p : Parse α) (G : α → Prop) : Prop := ∀ st a st', p st = .ok (a, st') → G a

namespace Yields

variable {G : α → Prop} {H : β → Prop}

theorem of_refuses {p : Parse α} (h : Refuses p) : Yields p G := fun _ _ _ hp => absurd hp h.ne_ok

theorem fail (fault : SyntaxFault) (position : Position) : Yields (Parser.fail fault position : Parse α) G :=
  of_refuses (refuses_fail fault position)

theorem fail_bind {f : α → Parse β} (fault : SyntaxFault) (position : Position) :
    Yields (Parser.fail fault position >>= f) H := of_refuses ((refuses_fail fault position).bind f)

theorem pure {a : α} (h : G a) : Yields (Pure.pure a : Parse α) G := by
  intro st b st' hp
  cases hp
  exact h

theorem bind {p : Parse α} {f : α → Parse β} (hp : Yields p G) (hf : ∀ a, G a → Yields (f a) H) :
    Yields (p >>= f) H := by
  intro st b st' h
  obtain ⟨a, st₁, hp₁, hf₁⟩ := bind_eq_ok.1 h
  exact hf a (hp st a st₁ hp₁) st₁ b st' hf₁

/-- Nothing is needed of the first result. -/
theorem of_bind {p : Parse α} {f : α → Parse β} (h : ∀ a, Yields (f a) H) : Yields (p >>= f) H :=
  Yields.bind (fun _ _ _ _ => trivial : Yields p fun _ => True) fun a _ => h a

end Yields

end Sandscript.Parser
