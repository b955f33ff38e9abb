import Sandscript.Proofs.Toml.Values

/-!
# Settings on their lines

A setting is a name and a value on a line of its own; only a list of several strings takes more lines.  Written
settings are read as assignments, one after the other, each of the value that was written (`readLines_settings`).
-/

namespace Sandscript.Toml

/-- A name that needs no quotes. -/
def IsBare (name : String) : Prop := name.toList ≠ [] ∧ ∀ c ∈ name.toList, isKeyChar c = true

instance (name : String) : Decidable (IsBare name) :=
  decidable_of_iff (name.toList.isEmpty = false ∧ name.toList.all isKeyChar = true) (by
    rw [IsBare, List.all_eq_true, List.isEmpty_eq_false_iff])

/-- The pieces of a line that sets a name to a value with the pieces `ps`. -/
def linePieces (name : String) (ps : List Piece) : List Piece :=
  (.atom, name.toList) :: (.blank, List.replicate 1 ' ') :: (.equals, ['=']) :: (.blank, List.replicate 1 ' ') ::
    (ps ++ [(.newline, ['\n'])])

/-- A line sets a name to a value. -/
def Line.Sets (l : Line) (s : String × Setting) : Prop :=
  ∃ k t d, l = .assignment [k] t ∧ k.key = .ok s.1 ∧ datumOfTerm t = .ok d ∧ s.2.Is d

/-- Settings are written with these pieces. -/
inductive Writes : List (String × Setting) → List Piece → Prop
  | nil : Writes [] []
  | cons {name : String} {v : Setting} {ss : List (String × Setting)} {ps qs : List Piece} (hname : IsBare name)
    (hv : Stands ps v) (rest : Writes ss qs) : Writes ((name, v) :: ss) (linePieces name ps ++ qs)

private theorem key_of_isBare {name : String} (h : IsBare name) (span : Span) :
    Written.key ⟨.atom, span, name.toList⟩ = .ok name := by
  have hnone : name.toList.findIdx? (!isKeyChar ·) = none :=
    List.findIdx?_eq_none_iff.2 fun c hc => by rw [h.2 c hc]; rfl
  have hne : ¬name.toList.isEmpty = true := fun he => h.1 (List.isEmpty_iff.1 he)
  unfold Written.key
  dsimp only
  rw [if_neg (by decide), if_neg hne, hnone, String.ofList_toList]

/-! ### Cutting -/

private theorem cuts_line {name : String} {v : Setting} {ps : List Piece} (hname : IsBare name) (hv : Stands ps v)
    (more : List Char) : Cuts (linePieces name ps) more := by
  have hvalue : Cuts (ps ++ [(.newline, ['\n'])]) more :=
    (hv.cuts more).append (cuts_mark (by simp [marks]) .nil)
  have hstart : ∀ c ∈ (textOf (ps ++ [(.newline, ['\n'])]) ++ more).head?, isSpace c = false := by
    intro c hc
    rw [textOf_append] at hc
    cases htext : textOf ps with
    | nil =>
      rw [htext] at hc
      cases hc
      decide
    | cons x xs =>
      rw [htext] at hc
      cases hc
      exact hv.start _ (by rw [htext]; rfl)
  refine cuts_word hname.1 hname.2 ?_
    (cuts_blank (by decide) ?_ (cuts_mark (by simp [marks]) (cuts_blank (by decide) hstart hvalue)))
  · intro c hc
    cases hc
    decide
  · intro c hc
    cases hc
    decide

theorem Writes.cuts {ss : List (String × Setting)} {ps : List Piece} (h : Writes ss ps) (more : List Char) :
    Cuts ps more := by
  induction h with
  | nil => exact .nil
  | cons hname hv _ ih => exact (cuts_line hname hv _).append ih

private theorem calm_line (name : String) {ps : List Piece} (h : Calm ps) : Calm (linePieces name ps) :=
  calm_cons (by decide) (calm_cons (by decide) (calm_cons (by decide) (calm_cons (by decide)
    (calm_append h (calm_newline calm_nil)))))

theorem Writes.calm {ss : List (String × Setting)} {ps : List Piece} (h : Writes ss ps) : Calm ps := by
  induction h with
  | nil => exact calm_nil
  | cons _ hv _ ih => exact calm_append (calm_line _ hv.calm) ih

/-! ### Reading -/

private theorem readKeys_word (eof : Nat) {start : Nat} {name : List Char} {a b : Token} {ts : List Token}
    (ha : a.kind ≠ .dot) (hab : a.kind = .blank → b.kind ≠ .dot) :
    readKeys eof [] (⟨.atom, start, name⟩ :: a :: b :: ts) =
      ([⟨.atom, ⟨start, start + name.length⟩, name⟩], a :: b :: ts) := by
  have hdot : ¬(a.kind == .dot) = true := fun h => ha (eq_of_beq h)
  have hblank : ¬(a.kind == .blank && b.kind == .dot) = true := by
    intro h
    rw [Bool.and_eq_true] at h
    exact hab (eq_of_beq h.1) (eq_of_beq h.2)
  unfold readKeys
  dsimp only
  rw [if_neg (by decide), if_neg (by decide), if_pos (by decide), if_neg hdot, if_neg hblank]
  rfl

private theorem readAssignment_line {name : String} {v : Setting} {ps : List Piece} (hname : IsBare name)
    (hv : Stands ps v)
    (eof start : Nat) {fuel : Nat} (hfuel : ps.length < fuel) (ts : List Token) : ∃ l : Line, l.Sets (name, v) ∧
      readAssignment eof fuel (place start (linePieces name ps) ++ ts) = .ok (l, ts) := by
  have hplace : place start (linePieces name ps) ++ ts = ⟨.atom, start, name.toList⟩ ::
      ⟨.blank, start + name.toList.length, [' ']⟩ :: ⟨.equals, start + name.toList.length + 1, ['=']⟩ ::
      ⟨.blank, start + name.toList.length + 1 + 1, [' ']⟩ :: (place (start + name.toList.length + 1 + 1 + 1) ps ++
        lineEnd (start + name.toList.length + 1 + 1 + 1 + (textOf ps).length) :: ts) := by
    simp only [linePieces, place, place_append, List.cons_append, List.append_assoc, List.nil_append]
    rfl
  obtain ⟨t, d, hterm, hdatum, his⟩ := hv.reads eof fuel (start + name.toList.length + 1 + 1 + 1)
    (start + name.toList.length + 1 + 1 + 1 + (textOf ps).length) ts hfuel
  refine ⟨.assignment [⟨.atom, ⟨start, start + name.toList.length⟩, name.toList⟩] t,
    ⟨_, t, d, rfl, key_of_isBare hname _, hdatum, his⟩, ?_⟩
  rw [hplace]
  unfold readAssignment
  rw [readKeys_word eof (by simp) (by simp)]
  change (readTerm eof fuel (place _ ps ++ lineEnd _ :: ts) >>= fun p => endLine p.2 >>= fun us =>
    (.ok (.assignment _ p.1, us) : Except DecodeError (Line × List Token))) = _
  rw [hterm]
  rfl

private theorem readLines_line {name : String} {v : Setting} {ps : List Piece} (hname : IsBare name) (hv : Stands ps v)
    (eof start : Nat) {fuel : Nat} (hfuel : ps.length < fuel) (read : List Line) (ts : List Token) :
    ∃ l : Line, l.Sets (name, v) ∧
      readLines eof (fuel + 1) read (place start (linePieces name ps) ++ ts) = readLines eof fuel (l :: read) ts := by
  obtain ⟨l, hl, hread⟩ := readAssignment_line hname hv eof start hfuel ts
  refine ⟨l, hl, ?_⟩
  rw [linePieces, place, List.cons_append] at hread ⊢
  conv => lhs; unfold readLines
  dsimp only
  rw [hread]
  rfl

/-- Written settings are read one after the other. -/
theorem readLines_settings {ss : List (String × Setting)} {ps : List Piece} (h : Writes ss ps) (eof : Nat) {fuel : Nat}
    (hfuel : ps.length < fuel) (ts : List Token) :
    ∀ (start : Nat) (read : List Line), ∃ ls, List.Forall₂ Line.Sets ls ss ∧
      readLines eof (fuel + ss.length) read (place start ps ++ ts) = readLines eof fuel (ls.reverse ++ read) ts := by
  induction h with
  | nil => exact fun start read => ⟨[], .nil, rfl⟩
  | @cons name v ss ps qs hname hv _ ih =>
    intro start read
    simp only [List.length_append, linePieces, List.length_cons, List.length_nil] at hfuel
    have hline : ps.length < fuel + ss.length := by omega
    obtain ⟨l, hl, hfirst⟩ := readLines_line hname hv eof start hline read
      (place (start + (textOf (linePieces name ps)).length) qs ++ ts)
    obtain ⟨ls, hls, hrest⟩ := ih (by omega) (start + (textOf (linePieces name ps)).length) (l :: read)
    refine ⟨l :: ls, .cons hl hls, ?_⟩
    rw [place_append, List.append_assoc, List.length_cons, ← Nat.add_assoc, hfirst, hrest, List.reverse_cons,
      List.append_assoc, List.singleton_append]

/-! ### Headers -/

/-- The pieces of a header behind a blank line. -/
def headerPieces (name : String) : List Piece :=
  [(.newline, ['\n']), (.openBracket, ['[']), (.atom, name.toList), (.closeBracket, [']']), (.newline, ['\n'])]

theorem cuts_header {name : String} (hname : IsBare name) (more : List Char) : Cuts (headerPieces name) more := by
  refine cuts_mark (by simp [marks]) (cuts_mark (by simp [marks]) (cuts_word hname.1 hname.2 ?_
    (cuts_mark (by simp [marks]) (cuts_mark (by simp [marks]) .nil))))
  intro c hc
  cases hc
  decide

theorem calm_header (name : String) : Calm (headerPieces name) :=
  calm_newline (calm_cons (by decide) (calm_cons (by decide) (calm_cons (by decide) (calm_newline calm_nil))))

private theorem readHeader_word {name : String} (hname : IsBare name) (eof start from' : Nat) (ts : List Token) :
    ∃ span k,
    Written.key k = .ok name ∧ readHeader eof start false
      (place from' [(.atom, name.toList), (.closeBracket, [']']), (.newline, ['\n'])] ++ ts) =
        .ok (.header false span [k], ts) := by
  refine ⟨⟨start, from' + name.toList.length + 1⟩, ⟨.atom, ⟨from', from' + name.toList.length⟩, name.toList⟩,
    key_of_isBare hname _, ?_⟩
  simp only [place, List.cons_append, List.nil_append]
  unfold readHeader
  rw [readKeys_word eof (by simp) (by simp)]
  rfl

/-- The header of a table is read behind a blank line. -/
theorem readLines_header {name : String} (hname : IsBare name) (eof start fuel : Nat) (read : List Line)
    (ts : List Token) : ∃ span k, Written.key k = .ok name ∧
      readLines eof (fuel + 2) read (place start (headerPieces name) ++ ts) =
      readLines eof fuel (.header false span [k] :: read) ts := by
  obtain ⟨span, k, hk, hread⟩ := readHeader_word hname eof (start + 1) (start + 1 + 1) ts
  refine ⟨span, k, hk, ?_⟩
  simp only [headerPieces, place, List.cons_append, List.nil_append, List.length_singleton] at hread ⊢
  conv => lhs; unfold readLines
  dsimp only
  conv => lhs; unfold readLines
  dsimp only
  rw [if_neg (by decide), hread]
  rfl

/-! ### Cutting into lines -/

/-- No piece is refused for its own characters. -/
def Sound (ps : List Piece) : Prop := ∀ p ∈ ps, ∀ start, badBlank? ⟨p.1, start, p.2⟩ = none

theorem Calm.sound {ps : List Piece} (h : Calm ps) : Sound ps := by
  intro p hp start
  obtain ⟨hcomment, hnewline⟩ := h p hp
  unfold badBlank?
  dsimp only
  rw [if_neg (by simpa using hcomment)]
  refine if_neg fun hreturn => ?_
  simp only [Bool.and_eq_true, beq_iff_eq] at hreturn
  rw [hnewline hreturn.1] at hreturn
  exact absurd hreturn.2 (by decide)

theorem Sound.append {ps qs : List Piece} (hps : Sound ps) (hqs : Sound qs) : Sound (ps ++ qs) :=
  fun p hp => (List.mem_append.1 hp).elim (hps p) (hqs p)

private theorem Sound.findSome? {ps : List Piece} (h : Sound ps) (start : Nat) :
    (place start ps).findSome? badBlank? = none := by
  induction ps generalizing start with
  | nil => rfl
  | cons p ps ih =>
    obtain ⟨hfirst, hrest⟩ := List.forall_mem_cons.1 h
    rw [place, List.findSome?_cons, hfirst start]
    exact ih hrest _

theorem behindMark_of_head {cs : List Char} (h : ∀ c ∈ cs.head?, c.toNat ≠ 0xFEFF) : behindMark cs = (0, cs) := by
  cases cs with
  | nil => rfl
  | cons c cs => exact if_neg (h c rfl)

/-- A text whose pieces are cut where they should be is read by lines, if none of its tokens is out of place. -/
theorem lines_of_cuts {ps : List Piece} (hcuts : Cuts ps []) (hsound : Sound ps)
    (hstart : ∀ c ∈ (textOf ps).head?, c.toNat ≠ 0xFEFF) :
    lines (textOf ps) = readLines (textOf ps).length (2 * ps.length + 2) [] (place 0 ps) := by
  unfold lines
  rw [behindMark_of_head hstart]
  dsimp only
  rw [tokens_of_cuts hcuts, hsound.findSome? 0, length_place]

end Sandscript.Toml
