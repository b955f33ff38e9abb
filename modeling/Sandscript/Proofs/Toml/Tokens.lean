import Sandscript.Proofs.Toml.Strings

/-!
# Texts cut into tokens

A text that is put together from pieces is cut into the same pieces if each of them ends where it should in front of
the rest (`Cuts`, `tokens_of_cuts`): punctuation always does, blanks in front of anything else, words in front of
punctuation or blanks, and quoted texts in front of anything but a quote.
-/

namespace Sandscript.Toml

/-- The kind and the characters of a token. -/
abbrev Piece := TokenKind × List Char

/-- The text that pieces make up. -/
def textOf (ps : List Piece) : List Char := ps.flatMap (·.2)

/-- Pieces as tokens, the first of which starts at a place. -/
def place (start : Nat) : List Piece → List Token
  | [] => []
  | (k, cs) :: ps => ⟨k, start, cs⟩ :: place (start + cs.length) ps

/-- Each piece is the first token of its text in front of what follows it. -/
inductive Cuts : List Piece → List Char → Prop
  | nil {more : List Char} : Cuts [] more
  | cons {k : TokenKind} {c : Char} {cs more : List Char} {ps : List Piece}
    (first : ∀ start, firstToken start c (cs ++ (textOf ps ++ more)) = ⟨k, start, c :: cs⟩) (rest : Cuts ps more) :
    Cuts ((k, c :: cs) :: ps) more

@[simp] theorem textOf_nil : textOf [] = [] := rfl

@[simp] theorem textOf_cons (p : Piece) (ps : List Piece) : textOf (p :: ps) = p.2 ++ textOf ps := List.flatMap_cons

@[simp] theorem textOf_append (ps qs : List Piece) : textOf (ps ++ qs) = textOf ps ++ textOf qs := List.flatMap_append

theorem place_append (start : Nat) (ps qs : List Piece) :
    place start (ps ++ qs) = place start ps ++ place (start + (textOf ps).length) qs := by
  induction ps generalizing start with
  | nil => rfl
  | cons p ps ih =>
    rw [List.cons_append, place, place, ih, List.cons_append, textOf_cons, List.length_append, Nat.add_assoc]

@[simp] theorem length_place (start : Nat) (ps : List Piece) : (place start ps).length = ps.length := by
  induction ps generalizing start with
  | nil => rfl
  | cons p ps ih => rw [place, List.length_cons, List.length_cons, ih]

theorem Cuts.append {ps qs : List Piece} {more : List Char} (hps : Cuts ps (textOf qs ++ more)) (hqs : Cuts qs more) :
    Cuts (ps ++ qs) more := by
  induction ps with
  | nil => exact hqs
  | cons p ps ih =>
    cases hps with
    | cons first rest => exact .cons (by simpa using first) (ih rest)

private theorem tokens_nil (start : Nat) : tokens start [] = [] := by
  unfold tokens
  rfl

private theorem tokens_of_first {k : TokenKind} {start : Nat} {c : Char} {cs more : List Char}
    (h : firstToken start c (cs ++ more) = ⟨k, start, c :: cs⟩) :
    tokens start (c :: cs ++ more) = ⟨k, start, c :: cs⟩ :: tokens (start + (c :: cs).length) more := by
  have hread : max (c :: cs).length 1 = (c :: cs).length := Nat.max_eq_left (Nat.succ_pos _)
  conv => lhs; unfold tokens
  rw [List.cons_append]
  dsimp only
  rw [h, hread, ← List.cons_append, List.drop_left]

/-- The pieces in front of any text are its first tokens. -/
theorem tokens_append_of_cuts {ps : List Piece} {more : List Char} (h : Cuts ps more) (start : Nat) :
    tokens start (textOf ps ++ more) = place start ps ++ tokens (start + (textOf ps).length) more := by
  induction ps generalizing start with
  | nil => rfl
  | cons p ps ih =>
    cases h with
    | cons first rest =>
      rw [textOf_cons, List.append_assoc, tokens_of_first (first start), ih rest, List.length_append, Nat.add_assoc]
      rfl

theorem tokens_of_cuts {ps : List Piece} (h : Cuts ps []) (start : Nat) :
    tokens start (textOf ps) = place start ps := by
  have hall := tokens_append_of_cuts h start
  rwa [List.append_nil, tokens_nil, List.append_nil] at hall

/-! ### Single pieces -/

/-- The pieces of one character that are cut in front of anything. -/
def marks : List Piece :=
  [(.equals, ['=']), (.comma, [',']), (.openBracket, ['[']), (.closeBracket, [']']), (.newline, ['\n'])]

variable {ps : List Piece} {more : List Char}

theorem cuts_mark {p : Piece} (hp : p ∈ marks) (rest : Cuts ps more) : Cuts (p :: ps) more := by
  simp only [marks, List.mem_cons, List.not_mem_nil, or_false] at hp
  rcases hp with rfl | rfl | rfl | rfl | rfl <;> exact .cons (fun _ => rfl) rest

theorem cuts_spaces {cs : List Char} (hne : cs ≠ []) (hcs : ∀ c ∈ cs, isSpace c = true)
    (hnext : ∀ c ∈ (textOf ps ++ more).head?, isSpace c = false) (rest : Cuts ps more) :
    Cuts ((.blank, cs) :: ps) more := by
  obtain ⟨c, cs, rfl⟩ := List.exists_cons_of_ne_nil hne
  have hstop : (textOf ps ++ more).takeWhile isSpace = [] := by
    cases hcons : textOf ps ++ more with
    | nil => rfl
    | cons c cs =>
      rw [hcons] at hnext
      exact List.takeWhile_cons_of_neg (by rw [hnext c rfl]; exact Bool.false_ne_true)
  have htake : (cs ++ (textOf ps ++ more)).takeWhile isSpace = cs := by
    rw [List.takeWhile_append_of_pos fun x hx => hcs x (List.mem_cons_of_mem c hx), hstop, List.append_nil]
  have hc := hcs c List.mem_cons_self
  refine .cons (fun start => ?_) rest
  conv => rhs; rw [← htake]
  rw [isSpace, Bool.or_eq_true, beq_iff_eq, beq_iff_eq] at hc
  rcases hc with rfl | rfl <;> rfl

theorem cuts_blank {n : Nat} (hn : 0 < n) (hnext : ∀ c ∈ (textOf ps ++ more).head?, isSpace c = false)
    (rest : Cuts ps more) : Cuts ((.blank, List.replicate n ' ') :: ps) more :=
  cuts_spaces (fun h => Nat.ne_of_gt hn ((List.replicate_eq_nil_iff _).1 h))
    (fun _ hc => List.eq_of_mem_replicate hc ▸ rfl) hnext rest

theorem cuts_quoted {k : TokenKind} {cs s : List Char} (h : Quoted k cs s)
    (hnext : ∀ c ∈ (textOf ps ++ more).head?, ¬IsQuote c) (rest : Cuts ps more) : Cuts ((k, cs) :: ps) more := by
  obtain ⟨c, cs, rfl, -, hfirst⟩ := h.token
  exact .cons (fun start => hfirst start _ hnext) rest

/-- Neither a quote nor anything else that ends a word. -/
theorem not_special_of_isKeyChar {c : Char} (h : isKeyChar c = true) :
    startsToken c = false ∧ c ≠ '"' ∧ c ≠ apostrophe := by
  have hne : ∀ x, isKeyChar x = false → c ≠ x := by
    rintro x hx rfl
    rw [hx] at h
    cases h
  refine ⟨?_, hne _ (by decide), hne _ (by decide)⟩
  simp only [startsToken, Bool.or_eq_false_iff, beq_eq_false_iff_ne]
  refine ⟨⟨⟨⟨⟨⟨⟨⟨⟨⟨⟨?_, ?_⟩, ?_⟩, ?_⟩, ?_⟩, ?_⟩, ?_⟩, ?_⟩, ?_⟩, ?_⟩, ?_⟩, ?_⟩ <;> exact hne _ (by decide)

private theorem firstToken_word {c : Char} (h : isKeyChar c = true) (start : Nat) (rest : List Char) :
    firstToken start c rest = ⟨.atom, start, c :: rest.takeWhile (!startsToken ·)⟩ := by
  obtain ⟨hstarts, hdouble, hsingle⟩ := not_special_of_isKeyChar h
  simp only [startsToken, Bool.or_eq_false_iff] at hstarts
  obtain ⟨⟨⟨⟨⟨⟨⟨⟨⟨⟨⟨h1, h2⟩, h3⟩, h4⟩, h5⟩, h6⟩, h7⟩, h8⟩, h9⟩, h10⟩, h11⟩, h12⟩ := hstarts
  unfold firstToken
  simp only [isSpace, h1, h2, h3, h4, h5, h6, h7, h8, h9, h10, h11, h12, Bool.or_self, Bool.false_eq_true, if_false,
    beq_eq_false_iff_ne.2 hdouble, beq_eq_false_iff_ne.2 hsingle]

theorem cuts_word {cs : List Char} (hne : cs ≠ []) (hcs : ∀ c ∈ cs, isKeyChar c = true)
    (hnext : ∀ c ∈ (textOf ps ++ more).head?, startsToken c = true) (rest : Cuts ps more) :
    Cuts ((.atom, cs) :: ps) more := by
  obtain ⟨c, cs, rfl⟩ := List.exists_cons_of_ne_nil hne
  have hword : ∀ x ∈ cs, (!startsToken x) = true := fun x hx => by
    rw [(not_special_of_isKeyChar (hcs x (List.mem_cons_of_mem _ hx))).1]
    rfl
  have hstop : (textOf ps ++ more).takeWhile (!startsToken ·) = [] := by
    cases hcons : textOf ps ++ more with
    | nil => rfl
    | cons x xs =>
      rw [hcons] at hnext
      exact List.takeWhile_cons_of_neg (by rw [hnext x rfl]; exact Bool.false_ne_true)
  refine .cons (fun start => ?_) rest
  rw [firstToken_word (hcs c List.mem_cons_self), List.takeWhile_append_of_pos hword, hstop, List.append_nil]

end Sandscript.Toml
