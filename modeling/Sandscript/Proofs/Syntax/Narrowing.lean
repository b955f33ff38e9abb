import Sandscript.Names
import Sandscript.Proofs.Syntax.Results
import Sandscript.Proofs.Syntax.Traits

/-!
# Parsers that admit less

Two parsers go over the same tokens: one with limits, the other with no limit for literals and with room for at least as
many levels (`Comparison`).  `Narrows c P X p q R` says how far they agree.  What `p` accepts, `q` accepts with the same
result.  Where they have room for the same levels, `p` refuses what `q` accepts only for a literal that is too large,
and that literal is in the result.  Neither takes a token that stands there because of a limit of the lexer
(`Token.isBarrier`), and a word that can be taken out of the language is in the result.

What a result has in it is a matter of traits.  `R` tells which traits a result shows, and `X` which ones have been seen
before; what has been seen stays, in the result or in the functions of the script.  `P` is what is known of the next
token.  The rules below follow the ways in which parsers are put together.
-/

namespace Sandscript

/-- Such a token stands for one that the lexer does not admit. -/
def Token.isBarrier : Token → Bool
  | .bad _ => true
  | .reserved word => (Keyword.ofWord? word).isSome
  | _ => false

/-- A word that the restricted backend takes out of the language. -/
def Token.isDisabled : Token → Bool
  | .keyword .importKw | .keyword .exportKw => true
  | .reserved word => Names.disabledKeywords.contains word
  | _ => false

def Token.isPlain (t : Token) : Bool := !t.isBarrier && !t.isDisabled

theorem Token.isPlain_iff {t : Token} : t.isPlain = true ↔ t.isBarrier = false ∧ t.isDisabled = false := by
  simp [isPlain]

/-- Everything is admitted. -/
def ParserLimits.none : ParserLimits := { maxDepth := 0, maxFunctionDepth := 0 }

/-- The literals that are too large. -/
def ParserLimits.oversized (limits : ParserLimits) : Trait where
  array n := 0 < limits.maxArray ∧ limits.maxArray ≤ n
  map n := 0 < limits.maxMap ∧ limits.maxMap < n
  call _ := False
  foreign := False

@[simp]
private theorem ParserLimits.oversized_array {limits : ParserLimits} {n : Nat} :
    limits.oversized.array n ↔ 0 < limits.maxArray ∧ limits.maxArray ≤ n := Iff.rfl

@[simp]
private theorem ParserLimits.oversized_map {limits : ParserLimits} {n : Nat} :
    limits.oversized.map n ↔ 0 < limits.maxMap ∧ limits.maxMap < n := Iff.rfl

@[simp]
private theorem ParserLimits.oversized_call {limits : ParserLimits} {name : String} : ¬ limits.oversized.call name := id

@[simp]
private theorem ParserLimits.oversized_foreign {limits : ParserLimits} : ¬ limits.oversized.foreign := id

/-- What is spelled with a word that can be taken out of the language: a keyword, or a name that is called. -/
def Trait.disabled : Trait where
  array _ := False
  map _ := False
  call name := name ∈ Names.disabledKeywords ∧ Keyword.ofWord? name = none
  foreign := True

namespace Parser

/-! ### What is shown -/

/-- Which traits something shows. -/
abbrev Shown := Trait → Prop

namespace Shown

def nothing : Shown := fun _ => False

def or (X Y : Shown) : Shown := fun t => X t ∨ Y t

/-- Only this trait, and only if `k`. -/
def only (t : Trait) (k : Prop) : Shown := fun u => u = t ∧ k

def expr (e : Expr) : Shown := fun t => t.In (.expr e)

def exprs (es : List Expr) : Shown := fun t => t.InAny (es.map .expr)

def entries (es : List (String × Expr)) : Shown := fun t => t.InAny (es.map fun e => .expr e.2)

def links (ls : List Link) : Shown := fun t => t.InAny (ls.map .link)

def stmt (s : Stmt) : Shown := fun t => t.In (.stmt s)

def stmts (body : List Stmt) : Shown := fun t => t.InAny (body.map .stmt)

variable {t : Trait}

@[simp]
private theorem nothing_iff : nothing t ↔ False := Iff.rfl

@[simp]
private theorem or_iff {X Y : Shown} : X.or Y t ↔ X t ∨ Y t := Iff.rfl

@[simp]
private theorem only_iff {u : Trait} {k : Prop} : only u k t ↔ t = u ∧ k := Iff.rfl

/-- The weaker of two conditions is enough. -/
theorem or_only_or_only {X : Shown} {u : Trait} {k k' : Prop} (h : k → k') :
    ((X.or (only u k)).or (only u k')) t ↔ (X.or (only u k')) t := by
  rw [or_iff, or_iff, or_iff, or_assoc, only_iff, only_iff, or_iff_right_of_imp (And.imp_right h)]

@[simp]
theorem expr_iff {e : Expr} : expr e t ↔ t.In (.expr e) := Iff.rfl

@[simp]
theorem exprs_iff {es : List Expr} : exprs es t ↔ t.InAny (es.map .expr) := Iff.rfl

@[simp]
private theorem entries_cons {e : String × Expr} {es : List (String × Expr)} :
    entries (e :: es) t ↔ expr e.2 t ∨ entries es t :=
  Iff.rfl

@[simp]
private theorem entries_reverse {es : List (String × Expr)} : entries es.reverse t ↔ entries es t := by
  rw [entries, entries, List.map_reverse, Trait.inAny_reverse]

@[simp]
private theorem links_iff {ls : List Link} : links ls t ↔ t.InAny (ls.map .link) := Iff.rfl

@[simp]
private theorem stmt_iff {s : Stmt} : stmt s t ↔ t.In (.stmt s) := Iff.rfl

@[simp]
theorem stmts_iff {body : List Stmt} : stmts body t ↔ t.InAny (body.map .stmt) := Iff.rfl

end Shown

/-- The functions so far have a trait in them. -/
def State.Has (st : State) : Shown := fun t => ∃ f ∈ st.functions, t.InAny (f.body.map .stmt)

/-! ### What parsers take -/

/-- From `st` to `st'` some tokens were taken, none of which is a barrier.  If one of them is a word that can be taken
out of the language, `D`. -/
def State.Takes (st st' : State) (D : Prop) : Prop :=
  ∃ front, st.rest = front ++ st'.rest ∧ (∀ t ∈ front, t.token.isBarrier = false) ∧
    ((∃ t ∈ front, t.token.isDisabled = true) → D)

private theorem State.Takes.of_rest {st st' : State} {D : Prop} (h : st'.rest = st.rest) : st.Takes st' D :=
  ⟨[], by simp [h], by simp, by simp⟩

private theorem State.Takes.imp {st st' : State} {D D' : Prop} (h : st.Takes st' D) (hD : D → D') :
    st.Takes st' D' := by
  obtain ⟨front, hrest, hopen, hword⟩ := h
  exact ⟨front, hrest, hopen, fun hf => hD (hword hf)⟩

private theorem State.Takes.trans {st₁ st₂ st₃ : State} {D : Prop} (h₁ : st₁.Takes st₂ D) (h₂ : st₂.Takes st₃ D) :
    st₁.Takes st₃ D := by
  obtain ⟨front, hrest, hopen, hword⟩ := h₁
  obtain ⟨front', hrest', hopen', hword'⟩ := h₂
  refine ⟨front ++ front', by rw [hrest, hrest', List.append_assoc], fun t ht => ?_, ?_⟩
  · exact (List.mem_append.1 ht).elim (hopen t) (hopen' t)
  · rintro ⟨t, ht, hdisabled⟩
    exact (List.mem_append.1 ht).elim (fun ht => hword ⟨t, ht, hdisabled⟩) fun ht => hword' ⟨t, ht, hdisabled⟩

/-! ### The relation -/

/-- Limits, and others that admit literals of any size and no fewer levels. -/
structure Comparison where
  tight : ParserLimits
  loose : ParserLimits
  maxArray : loose.maxArray = 0
  maxMap : loose.maxMap = 0
  maxDepth : loose.maxDepth = 0 ∨ 0 < tight.maxDepth ∧ tight.maxDepth ≤ loose.maxDepth
  maxFunctionDepth : loose.maxFunctionDepth = 0 ∨
    0 < tight.maxFunctionDepth ∧ tight.maxFunctionDepth ≤ loose.maxFunctionDepth

/-- Both admit the same levels. -/
def Comparison.SameDepths (c : Comparison) : Prop :=
  c.tight.maxDepth = c.loose.maxDepth ∧ c.tight.maxFunctionDepth = c.loose.maxFunctionDepth

/-- The same place in a script, for a parser with other limits. -/
def Setting.under (s : Setting) (limits : ParserLimits) : Setting :=
  { s with limits, maxLevel := if s.inFunction then limits.maxFunctionDepth else limits.maxDepth }

/-- What may be known of the next token. -/
abbrev Known := Located → Prop

/-- Nothing is known. -/
def Known.any : Known := fun _ => True

/-- The token has been looked at. -/
def Known.seen (t : Located) : Known := fun u => u = t

/-- The token is neither a barrier nor a word that can be taken out of the language. -/
def Known.open : Known := fun t => t.token.isPlain = true

def Known.is (tok : Token) : Known := fun t => t.token = tok

variable {α β : Type}

/-- How far two parsers agree, `p` with tight limits and `q` with loose ones. -/
structure Narrows (c : Comparison) (P : Known) (X : Shown) (p q : Parse α) (R : α → Shown) : Prop where
  /-- What `p` accepts, `q` accepts as well, and it has nothing too large in it. -/
  admits : ∀ st a st', P st.head → p st = .ok (a, st') → q st = .ok (a, st') ∧
    (R a c.tight.oversized ∨ st'.Has c.tight.oversized → X c.tight.oversized ∨ st.Has c.tight.oversized)
  /-- What has been seen stays. -/
  keeps : ∀ st a st' t, P st.head → q st = .ok (a, st') → X t ∨ st.Has t → R a t ∨ st'.Has t
  /-- If nothing is too large, `p` accepts what `q` accepts. -/
  agrees : c.SameDepths → ∀ st a st', P st.head → q st = .ok (a, st') →
    p st = .ok (a, st') ∨ R a c.tight.oversized ∨ st'.Has c.tight.oversized
  /-- A word that can be taken out of the language is in the result. -/
  takes : ∀ st a st', P st.head → q st = .ok (a, st') → st.Takes st' (R a .disabled ∨ st'.Has .disabled)

/-- A result in which there is nothing. -/
def unshown : α → Shown := fun _ => .nothing

variable {c : Comparison} {P Q : Known} {X Y : Shown} {R R' : α → Shown} {S : β → Shown}

/-- What holds of parsers behind the token `t`: either they accept nothing, or `t` is no barrier, and what it shows has
been seen. -/
inductive NarrowsBehind (c : Comparison) (t : Located) (X : Shown) (p q : Parse α) (R : α → Shown) : Prop
  | refused (hp : Refuses p) (hq : Refuses q)
  | taken {E : Shown} (hopen : t.token.isBarrier = false) (hword : t.token.isDisabled = true → E .disabled)
    (hsize : ¬ E c.tight.oversized) (h : Narrows c Known.any (E.or X) p q R)

/-! ### Rules -/

namespace Narrows

/-- Knowing more does no harm. -/
theorem weaken {p q : Parse α} (h : Narrows c P X p q R) (hP : ∀ t, Q t → P t) : Narrows c Q X p q R where
  admits st a st' hst := h.admits st a st' (hP _ hst)
  keeps st a st' t hst := h.keeps st a st' t (hP _ hst)
  agrees hsame st a st' hst := h.agrees hsame st a st' (hP _ hst)
  takes st a st' hst := h.takes st a st' (hP _ hst)

theorem of_any {p q : Parse α} (h : Narrows c Known.any X p q R) : Narrows c P X p q R :=
  h.weaken fun _ _ => trivial

/-- Less has been seen, but everything that is too large. -/
theorem seen_less {p q : Parse α} (h : Narrows c P Y p q R) (hXY : ∀ t, X t → Y t)
    (hsize : Y c.tight.oversized → X c.tight.oversized) : Narrows c P X p q R where
  admits st a st' hst hp := by
    obtain ⟨hq, hin⟩ := h.admits st a st' hst hp
    exact ⟨hq, fun ha => (hin ha).imp_left hsize⟩
  keeps st a st' t hst hq hX := h.keeps st a st' t hst hq (hX.imp_left (hXY t))
  agrees := h.agrees
  takes := h.takes

theorem seen_same {p q : Parse α} (h : Narrows c P Y p q R) (hXY : ∀ t, X t ↔ Y t) : Narrows c P X p q R :=
  h.seen_less (fun t => (hXY t).1) (hXY _).2

/-- What a result shows, said differently. -/
theorem result {p q : Parse α} (h : Narrows c P X p q R) (hR : ∀ a t, R a t ↔ R' a t) : Narrows c P X p q R' := by
  obtain rfl : R = R' := funext fun a => funext fun t => propext (hR a t)
  exact h

/-- What has been seen elsewhere stays beside the result. -/
theorem frame {p q : Parse α} (h : Narrows c P X p q R) : Narrows c P (X.or Y) p q fun a => (R a).or Y where
  admits st a st' hst hp := by
    obtain ⟨hq, hin⟩ := h.admits st a st' hst hp
    refine ⟨hq, ?_⟩
    rintro ((ha | hY) | hst')
    · exact (hin (Or.inl ha)).imp_left Or.inl
    · exact Or.inl (Or.inr hY)
    · exact (hin (Or.inr hst')).imp_left Or.inl
  keeps st a st' t hst hq := by
    rintro ((hX | hY) | hhas)
    · exact (h.keeps st a st' t hst hq (Or.inl hX)).imp_left Or.inl
    · exact Or.inl (Or.inr hY)
    · exact (h.keeps st a st' t hst hq (Or.inr hhas)).imp_left Or.inl
  agrees hsame st a st' hst hq := (h.agrees hsame st a st' hst hq).imp_right (Or.imp_left Or.inl)
  takes st a st' hst hq := (h.takes st a st' hst hq).imp (Or.imp_left Or.inl)

theorem of_refuses {p q : Parse α} (hp : Refuses p) (hq : Refuses q) : Narrows c P X p q R where
  admits _ _ _ _ h := absurd h hp.ne_ok
  keeps _ _ _ _ _ h := absurd h hq.ne_ok
  agrees _ _ _ _ _ h := absurd h hq.ne_ok
  takes _ _ _ _ h := absurd h hq.ne_ok

theorem fail (fault : SyntaxFault) (position : Position) :
    Narrows c P X (Parser.fail fault position) (Parser.fail fault position) R :=
  of_refuses (refuses_fail fault position) (refuses_fail fault position)

/-- What stands behind a refusal plays no part. -/
theorem fail_bind {f g : α → Parse β} (fault : SyntaxFault) (position : Position) :
    Narrows c P X (Parser.fail fault position >>= f) (Parser.fail fault position >>= g) S :=
  of_refuses ((refuses_fail fault position).bind f) ((refuses_fail fault position).bind g)

/-- A result shows what has been seen, and nothing more that is too large. -/
theorem pure_of {a : α} (h : ∀ t, X t → R a t) (hsize : R a c.tight.oversized → X c.tight.oversized) :
    Narrows c P X (Pure.pure a : Parse α) (Pure.pure a) R where
  admits st b st' _ hp := by
    cases hp
    exact ⟨rfl, Or.imp_left hsize⟩
  keeps st b st' t _ hq := by
    cases hq
    exact Or.imp_left (h t)
  agrees _ st b st' _ hq := Or.inl hq
  takes st b st' _ hq := by
    cases hq
    exact .of_rest rfl

theorem pure {a : α} (h : ∀ t, R a t ↔ X t) : Narrows c P X (Pure.pure a : Parse α) (Pure.pure a) R :=
  pure_of (fun t => (h t).2) (h _).1

/-- A sequence of two parsers: what the first result shows has been seen by the second parser.  `G` is what more is
known of that result. -/
theorem seq_of_yields {p q : Parse α} {f g : α → Parse β} {G : α → Prop} (hp : Narrows c P X p q R) (hq : Yields q G)
    (hf : ∀ a, G a → Narrows c Known.any (R a) (f a) (g a) S) : Narrows c P X (p >>= f) (q >>= g) S where
  admits st b st' hst h := by
    obtain ⟨a, st₁, hp₁, hf₁⟩ := bind_eq_ok.1 h
    obtain ⟨hq₁, hin⟩ := hp.admits st a st₁ hst hp₁
    obtain ⟨hg, hin'⟩ := (hf a (hq st a st₁ hq₁)).admits st₁ b st' trivial hf₁
    exact ⟨bind_eq_ok.2 ⟨a, st₁, hq₁, hg⟩, fun hb => hin (hin' hb)⟩
  keeps st b st' t hst h hX := by
    obtain ⟨a, st₁, hq₁, hg₁⟩ := bind_eq_ok.1 h
    exact (hf a (hq st a st₁ hq₁)).keeps st₁ b st' t trivial hg₁ (hp.keeps st a st₁ t hst hq₁ hX)
  agrees hsame st b st' hst h := by
    obtain ⟨a, st₁, hq₁, hg₁⟩ := bind_eq_ok.1 h
    have hf' := hf a (hq st a st₁ hq₁)
    rcases hp.agrees hsame st a st₁ hst hq₁ with hp₁ | hin
    · exact (hf'.agrees hsame st₁ b st' trivial hg₁).imp_left fun hf₁ => bind_eq_ok.2 ⟨a, st₁, hp₁, hf₁⟩
    · exact Or.inr (hf'.keeps st₁ b st' _ trivial hg₁ hin)
  takes st b st' hst h := by
    obtain ⟨a, st₁, hq₁, hg₁⟩ := bind_eq_ok.1 h
    have hf' := hf a (hq st a st₁ hq₁)
    have hfirst := (hp.takes st a st₁ hst hq₁).imp (hf'.keeps st₁ b st' _ trivial hg₁)
    exact hfirst.trans (hf'.takes st₁ b st' trivial hg₁)

theorem seq {p q : Parse α} {f g : α → Parse β} (hp : Narrows c P X p q R)
    (hf : ∀ a, Narrows c Known.any (R a) (f a) (g a) S) : Narrows c P X (p >>= f) (q >>= g) S :=
  hp.seq_of_yields (fun _ _ _ _ => trivial : Yields q fun _ => True) fun a _ => hf a

theorem bind {p q : Parse α} {f g : α → Parse β} (hp : Narrows c P .nothing p q R)
    (hf : ∀ a, Narrows c Known.any ((R a).or X) (f a) (g a) S) : Narrows c P X (p >>= f) (q >>= g) S :=
  (hp.frame.seen_same fun _ => (or_iff_right id).symm).seq hf

/-- The first parser gives nothing that could show a trait. -/
theorem skip {p q : Parse α} {f g : α → Parse β} (hp : Narrows c P .nothing p q unshown)
    (hf : ∀ a, Narrows c Known.any X (f a) (g a) S) : Narrows c P X (p >>= f) (q >>= g) S :=
  hp.bind fun a => (hf a).seen_same fun _ => or_iff_right id

theorem map {p q : Parse α} (f : α → β) (h : Narrows c P X p q fun a => S (f a)) :
    Narrows c P X (f <$> p) (f <$> q) S := by
  rw [← bind_pure_comp, ← bind_pure_comp]
  exact h.seq fun a => pure fun _ => Iff.rfl

/-- A step that takes nothing keeps what is known of the next token. -/
private theorem still_bind {p : Parse α} {f g : α → Parse β} {Y : α → Shown}
    (hp : ∀ st a st', p st = .ok (a, st') → st'.rest = st.rest ∧ ∀ t, Y a t ∨ st'.Has t ↔ X t ∨ st.Has t)
    (hf : ∀ a, Narrows c P (Y a) (f a) (g a) S) : Narrows c P X (p >>= f) (p >>= g) S := by
  have hhead {st st' : State} (hrest : st'.rest = st.rest) (hst : P st.head) : P st'.head := by
    rwa [State.head, hrest]
  constructor
  case admits =>
    intro st b st' hst h
    obtain ⟨a, st₁, hp₁, hf₁⟩ := bind_eq_ok.1 h
    obtain ⟨hrest, hY⟩ := hp st a st₁ hp₁
    obtain ⟨hg, hin⟩ := (hf a).admits st₁ b st' (hhead hrest hst) hf₁
    exact ⟨bind_eq_ok.2 ⟨a, st₁, hp₁, hg⟩, fun hb => (hY _).1 (hin hb)⟩
  case keeps =>
    intro st b st' t hst h hX
    obtain ⟨a, st₁, hp₁, hg₁⟩ := bind_eq_ok.1 h
    obtain ⟨hrest, hY⟩ := hp st a st₁ hp₁
    exact (hf a).keeps st₁ b st' t (hhead hrest hst) hg₁ ((hY t).2 hX)
  case agrees =>
    intro hsame st b st' hst h
    obtain ⟨a, st₁, hp₁, hg₁⟩ := bind_eq_ok.1 h
    have hst₁ := hhead (hp st a st₁ hp₁).1 hst
    exact ((hf a).agrees hsame st₁ b st' hst₁ hg₁).imp_left fun hf₁ => bind_eq_ok.2 ⟨a, st₁, hp₁, hf₁⟩
  case takes =>
    intro st b st' hst h
    obtain ⟨a, st₁, hp₁, hg₁⟩ := bind_eq_ok.1 h
    have hrest := (hp st a st₁ hp₁).1
    exact (State.Takes.of_rest hrest).trans ((hf a).takes st₁ b st' (hhead hrest hst) hg₁)

/-- A parser that takes nothing. -/
theorem of_still {p : Parse α}
    (h : ∀ st a st', p st = .ok (a, st') → st'.rest = st.rest ∧ ∀ t, R a t ∨ st'.Has t ↔ X t ∨ st.Has t) :
    Narrows c P X p p R := by
  rw [← bind_pure p]
  exact still_bind h fun a => pure fun _ => Iff.rfl

theorem get_bind {f g : State → Parse β} (h : ∀ st, Narrows c P X (f st) (g st) S) :
    Narrows c P X (get >>= f) (get >>= g) S := by
  refine still_bind (fun st a st' hst => ?_) h
  cases hst
  exact ⟨rfl, fun _ => Iff.rfl⟩

/-- A change of the state that neither takes a token nor defines a function. -/
theorem modify_bind {m : State → State} {f g : Unit → Parse β}
    (hm : ∀ st, (m st).rest = st.rest ∧ (m st).functions = st.functions) (h : Narrows c P X (f ()) (g ()) S) :
    Narrows c P X (modify m >>= f) (modify m >>= g) S := by
  refine still_bind (fun st a st' hst => ?_) fun _ => h
  cases hst
  exact ⟨(hm st).1, fun t => by unfold State.Has; rw [(hm st).2]⟩

/-- The definition of a function: what its body shows, the state has from then on. -/
theorem define {d : State → FunctionDef} {body : List Stmt} (hbody : ∀ st, (d st).body = body) :
    Narrows c P (.stmts body) (modify fun st => { st with functions := d st :: st.functions })
      (modify fun st => { st with functions := d st :: st.functions }) unshown := by
  refine of_still fun st a st' hst => ?_
  cases hst
  refine ⟨rfl, fun t => ?_⟩
  simp [State.Has, hbody, unshown]

/-- Parsers with the same results as others. -/
theorem congr {p p' q q' : Parse α} (hp : ∀ st r, p' st = .ok r ↔ p st = .ok r)
    (hq : ∀ st r, q' st = .ok r ↔ q st = .ok r) (h : Narrows c P X p q R) : Narrows c P X p' q' R where
  admits st a st' hst ha := by
    rw [hq]
    exact h.admits st a st' hst ((hp _ _).1 ha)
  keeps st a st' t hst ha := h.keeps st a st' t hst ((hq _ _).1 ha)
  agrees hsame st a st' hst ha := by
    rw [hp]
    exact h.agrees hsame st a st' hst ((hq _ _).1 ha)
  takes st a st' hst ha := h.takes st a st' hst ((hq _ _).1 ha)

end Narrows

namespace NarrowsBehind

theorem of_open {t : Located} {tok : Token} {p q : Parse α} (ht : t.token = tok) (htok : tok.isPlain = true)
    (h : Narrows c Known.any X p q R) : NarrowsBehind c t X p q R := by
  rw [← ht, Token.isPlain_iff] at htok
  refine .taken (E := .nothing) htok.1 (fun hword => ?_) id (h.seen_same fun _ => or_iff_right id)
  rw [htok.2] at hword
  cases hword

theorem fail {t : Located} (fault : SyntaxFault) (position : Position) :
    NarrowsBehind c t X (Parser.fail fault position) (Parser.fail fault position) R :=
  .refused (refuses_fail fault position) (refuses_fail fault position)

theorem fail_bind {t : Located} {f g : α → Parse β} (fault : SyntaxFault) (position : Position) :
    NarrowsBehind c t X (Parser.fail fault position >>= f) (Parser.fail fault position >>= g) S :=
  .refused ((refuses_fail fault position).bind f) ((refuses_fail fault position).bind g)

end NarrowsBehind

namespace Narrows

/-! #### Tokens -/

/-- What `take` takes is the next token, unless that is the last one. -/
private theorem take_eq (st : State) : ∃ st', take st = .ok (st.head, st') ∧ st'.functions = st.functions ∧
    (st'.rest = st.rest ∨ st.rest = st.head :: st'.rest) := by
  obtain ⟨rest, functions, scope, outer, size⟩ := st
  cases rest with
  | nil => exact ⟨_, rfl, rfl, Or.inl rfl⟩
  | cons t more =>
    cases more with
    | nil => exact ⟨_, rfl, rfl, Or.inl rfl⟩
    | cons r rest => exact ⟨_, rfl, rfl, Or.inr rfl⟩

theorem peek_bind {f g : Located → Parse β} (h : ∀ t, P t → Narrows c (Known.seen t) X (f t) (g t) S) :
    Narrows c P X (peek >>= f) (peek >>= g) S := by
  have hbind (k : Located → Parse β) (st : State) : (peek >>= k) st = k st.head st := by
    change (peek st >>= fun r => k r.1 r.2) = _
    rw [peek_eq]
    rfl
  constructor
  case admits =>
    intro st b st' hst hp
    rw [hbind] at hp ⊢
    exact (h _ hst).admits st b st' rfl hp
  case keeps =>
    intro st b st' t hst hq
    rw [hbind] at hq
    exact (h _ hst).keeps st b st' t rfl hq
  case agrees =>
    intro hsame st b st' hst hq
    rw [hbind] at hq ⊢
    exact (h _ hst).agrees hsame st b st' rfl hq
  case takes =>
    intro st b st' hst hq
    rw [hbind] at hq
    exact (h _ hst).takes st b st' rfl hq

theorem take_bind {f g : Located → Parse β} (h : ∀ t, P t → NarrowsBehind c t X (f t) (g t) S) :
    Narrows c P X (take >>= f) (take >>= g) S := by
  -- what is accepted behind the next token, and what has been seen by then
  have hstep {k : Located → Parse β} {st st' : State} {b : β} (hk : (take >>= k) st = .ok (b, st')) :
      ∃ st₁, take st = .ok (st.head, st₁) ∧ st₁.Has = st.Has ∧
        (st₁.rest = st.rest ∨ st.rest = st.head :: st₁.rest) ∧ k st.head st₁ = .ok (b, st') := by
    obtain ⟨t, st₁, htake, hk₁⟩ := bind_eq_ok.1 hk
    obtain ⟨st₂, htake', hfunctions, hrest⟩ := take_eq st
    rw [htake'] at htake
    cases htake
    exact ⟨st₁, htake', by unfold State.Has; rw [hfunctions], hrest, hk₁⟩
  constructor
  case admits =>
    intro st b st' hst hp
    obtain ⟨st₁, htake, hhas, hrest, hf⟩ := hstep hp
    cases h _ hst with
    | refused hp' => exact absurd hf hp'.ne_ok
    | taken hopen hword hsize hn =>
      obtain ⟨hg, hin⟩ := hn.admits st₁ b st' trivial hf
      rw [hhas] at hin
      exact ⟨bind_eq_ok.2 ⟨_, _, htake, hg⟩, fun hb => (hin hb).imp_left (Or.resolve_left · hsize)⟩
  case keeps =>
    intro st b st' t hst hq hX
    obtain ⟨st₁, -, hhas, -, hg⟩ := hstep hq
    cases h _ hst with
    | refused _ hq' => exact absurd hg hq'.ne_ok
    | taken hopen hword hsize hn =>
      rw [← hhas] at hX
      exact hn.keeps st₁ b st' t trivial hg (hX.imp_left Or.inr)
  case agrees =>
    intro hsame st b st' hst hq
    obtain ⟨st₁, htake, -, -, hg⟩ := hstep hq
    cases h _ hst with
    | refused _ hq' => exact absurd hg hq'.ne_ok
    | taken hopen hword hsize hn =>
      exact (hn.agrees hsame st₁ b st' trivial hg).imp_left fun hf => bind_eq_ok.2 ⟨_, _, htake, hf⟩
  case takes =>
    intro st b st' hst hq
    obtain ⟨st₁, -, -, hrest, hg⟩ := hstep hq
    cases h _ hst with
    | refused _ hq' => exact absurd hg hq'.ne_ok
    | taken hopen hword hsize hn =>
      refine State.Takes.trans ?_ (hn.takes st₁ b st' trivial hg)
      rcases hrest with hrest | hrest
      · exact .of_rest hrest
      · refine ⟨[st.head], hrest, by simpa using hopen, ?_⟩
        rintro ⟨t, ht, hdisabled⟩
        rw [List.mem_singleton.1 ht] at hdisabled
        exact hn.keeps st₁ b st' _ trivial hg (Or.inl (Or.inl (hword hdisabled)))

/-- A token that was looked at and is plain may be taken. -/
theorem take_open_bind {f g : Located → Parse β} (hP : ∀ t, P t → t.token.isPlain = true)
    (h : ∀ t, P t → Narrows c Known.any X (f t) (g t) S) : Narrows c P X (take >>= f) (take >>= g) S :=
  take_bind fun t ht => .of_open rfl (hP t ht) (h t ht)

theorem drop_bind {f g : Unit → Parse β} (h : ∀ t, P t → NarrowsBehind c t X (f ()) (g ()) S) :
    Narrows c P X (drop >>= f) (drop >>= g) S := by
  have hdrop (k : Unit → Parse β) : drop >>= k = take >>= fun _ => k () := by
    unfold drop
    simp only [bind_assoc, pure_bind]
  rw [hdrop, hdrop]
  exact take_bind h

theorem drop_open_bind {f g : Unit → Parse β} (hP : ∀ t, P t → t.token.isPlain = true)
    (h : Narrows c Known.any X (f ()) (g ()) S) : Narrows c P X (drop >>= f) (drop >>= g) S :=
  drop_bind fun t ht => .of_open rfl (hP t ht) h

/-- Dropping a token that was looked at, which is `tok`. -/
theorem drop_seen_bind {t : Located} {tok : Token} {f g : Unit → Parse β} (ht : t.token = tok)
    (htok : tok.isPlain = true) (h : Narrows c Known.any X (f ()) (g ()) S) :
    Narrows c (Known.seen t) X (drop >>= f) (drop >>= g) S := by
  refine drop_bind ?_
  rintro u rfl
  exact .of_open ht htok h

theorem accept {tok : Token} (htok : tok.isPlain = true) :
    Narrows c P .nothing (Parser.accept tok) (Parser.accept tok) unshown := by
  unfold Parser.accept
  refine peek_bind fun t _ => ?_
  split
  · rename_i heq
    exact drop_seen_bind heq htok (pure fun _ => Iff.rfl)
  · exact pure fun _ => Iff.rfl

theorem require_bind {tok : Token} {purpose : String} {f g : Unit → Parse β} (htok : tok.isPlain = true)
    (h : Narrows c Known.any X (f ()) (g ()) S) :
    Narrows c P X (require tok purpose >>= f) (require tok purpose >>= g) S := by
  unfold require
  rw [bind_assoc, bind_assoc]
  refine take_bind fun t _ => ?_
  by_cases heq : t.token = tok
  · rw [if_pos heq, pure_bind, pure_bind]
    exact .of_open heq htok h
  · rw [if_neg heq]
    split
    · exact .fail_bind _ _
    · exact .fail_bind _ _

/-! #### Scopes, levels and sizes -/

theorem withScope {p q : Parse α} (h : Narrows c P X p q R) :
    Narrows c P X (Parser.withScope p) (Parser.withScope q) R :=
  get_bind fun _ => h.seq fun _ => modify_bind (fun _ => ⟨rfl, rfl⟩) (pure fun _ => Iff.rfl)

/-- Reading the state and then writing it, without taking a token or defining a function. -/
private theorem get_set_bind {m : State → State} {f g : State → Parse β}
    (hm : ∀ st, (m st).rest = st.rest ∧ (m st).functions = st.functions) (h : ∀ st, Narrows c P X (f st) (g st) S) :
    Narrows c P X (get >>= fun st => set (m st) >>= fun _ => f st)
      (get >>= fun st => set (m st) >>= fun _ => g st) S := by
  have hread (k : State → Parse β) : (get >>= fun st => set (m st) >>= fun _ => k st) =
      (fun st => .ok (st, m st) : Parse State) >>= k := rfl
  rw [hread, hread]
  refine still_bind (fun st a st' hst => ?_) h
  cases hst
  exact ⟨(hm st).1, fun t => by unfold State.Has; rw [(hm st).2]⟩

theorem isolated {p q : Parse α} (h : Narrows c P X p q R) :
    Narrows c P X (Parser.isolated p) (Parser.isolated q) fun r => R r.1 := by
  refine get_set_bind (fun _ => ⟨rfl, rfl⟩) fun _ => h.seq fun a => ?_
  exact get_set_bind (fun _ => ⟨rfl, rfl⟩) fun _ => pure fun _ => Iff.rfl

/-- What is only refused for something too large: the parser without the check goes on, and has seen it. -/
theorem checked {k k' : Prop} [Decidable k] [Decidable k'] {p p' q q' : Parse α} {Z : Shown} (hk' : ¬ k')
    (hp : Refuses p) (hZ : Z c.tight.oversized ↔ k) (h : Narrows c P (X.or Z) q q' R) :
    Narrows c P X (if k then p else q) (if k' then p' else q') R := by
  rw [if_neg hk']
  constructor
  case admits =>
    intro st a st' hst ha
    split at ha
    · exact absurd ha hp.ne_ok
    · rename_i hk
      obtain ⟨hq, hin⟩ := h.admits st a st' hst ha
      exact ⟨hq, fun ha => (hin ha).imp_left fun hX => hX.resolve_right fun hz => hk (hZ.1 hz)⟩
  case keeps => exact fun st a st' t hst ha hX => h.keeps st a st' t hst ha (hX.imp_left Or.inl)
  case agrees =>
    intro hsame st a st' hst ha
    split
    · rename_i hk
      exact Or.inr (h.keeps st a st' _ hst ha (Or.inl (Or.inr (hZ.2 hk))))
    · exact h.agrees hsame st a st' hst ha
  case takes => exact h.takes

/-- A level that is too deep for the parser with fewer levels. -/
private theorem of_fewer_levels {p p' q : Parse α} (hp : Refuses p) (hdepths : ¬ c.SameDepths)
    (h : Narrows c P X p' q R) :
    Narrows c P X p q R where
  admits _ _ _ _ ha := absurd ha hp.ne_ok
  keeps := h.keeps
  agrees hsame := absurd hsame hdepths
  takes := h.takes

theorem deeper_bind {s : Setting} {f g : Setting → Parse β}
    (h : ∀ t : Setting, Narrows c P X (f (t.under c.tight)) (g (t.under c.loose)) S) :
    Narrows c P X ((s.under c.tight).deeper >>= f) ((s.under c.loose).deeper >>= g) S := by
  have hdeeper (limits : ParserLimits) : (s.under limits).deeper =
      if 0 < (s.under limits).maxLevel ∧ (s.under limits).maxLevel < s.level + 1 then Parser.fail .tooDeep s.position
      else Pure.pure (Setting.under { s with level := s.level + 1 } limits) := rfl
  have hmore : (s.under c.loose).maxLevel = 0 ∨
      0 < (s.under c.tight).maxLevel ∧ (s.under c.tight).maxLevel ≤ (s.under c.loose).maxLevel := by
    unfold Setting.under
    dsimp only
    split
    · exact c.maxFunctionDepth
    · exact c.maxDepth
  have hsame : c.SameDepths → (s.under c.tight).maxLevel = (s.under c.loose).maxLevel := by
    rintro ⟨hdepth, hfunction⟩
    unfold Setting.under
    rw [hdepth, hfunction]
  rw [hdeeper, hdeeper]
  by_cases hloose : 0 < (s.under c.loose).maxLevel ∧ (s.under c.loose).maxLevel < s.level + 1
  · rw [if_pos hloose, if_pos (by omega)]
    exact fail_bind _ _
  rw [if_neg hloose, pure_bind]
  split
  · rename_i htight
    refine of_fewer_levels ((refuses_fail _ _).bind _) (fun hdepths => hloose ?_) (h _)
    rwa [← hsame hdepths]
  · rw [pure_bind]
    exact h _

end Narrows

end Parser

end Sandscript
