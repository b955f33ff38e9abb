import Sandscript.Proofs.Toml.Lines

/-!
# Blank lines and comments

Blanks, line ends and comments hold no data, and the reader passes over them (`readLines_remarks`).  A line that is
blank or a comment is cut into such pieces as long as it holds no control character (`exists_remarks`).  A text that
starts with such lines is refused, whatever stands behind them, if one of them does (`lines_of_startsUnsound`).
-/

namespace Sandscript.Toml

/-! ### Pieces without data -/

/-- Pieces that hold no data: blanks, line ends and comments. -/
def Remarks (ps : List Piece) : Prop := ∀ p ∈ ps, p.1 = .blank ∨ p.1 = .newline ∨ p.1 = .comment

private theorem Remarks.append {ps qs : List Piece} (hps : Remarks ps) (hqs : Remarks qs) : Remarks (ps ++ qs) :=
  fun p hp => (List.mem_append.1 hp).elim (hps p) (hqs p)

theorem readLines_remarks {ps : List Piece} (h : Remarks ps) (eof start fuel : Nat) (read : List Line)
    (ts : List Token) : readLines eof (fuel + ps.length) read (place start ps ++ ts) = readLines eof fuel read ts := by
  induction ps generalizing start with
  | nil => rfl
  | cons p ps ih =>
    obtain ⟨hfirst, hrest⟩ := List.forall_mem_cons.1 h
    rw [place, List.cons_append, List.length_cons, ← Nat.add_assoc, readLines, ← ih hrest (start + p.2.length)]
    rcases hfirst with hk | hk | hk <;> rw [hk]

theorem readLines_end {ps : List Piece} (h : Remarks ps) (eof start fuel : Nat) (read : List Line) :
    readLines eof fuel read (place start ps) = .ok read.reverse := by
  induction ps generalizing start fuel with
  | nil => cases fuel <;> rfl
  | cons p ps ih =>
    obtain ⟨hfirst, hrest⟩ := List.forall_mem_cons.1 h
    cases fuel with
    | zero => rfl
    | succ fuel =>
      rw [place, readLines, ← ih hrest (start + p.2.length) fuel]
      rcases hfirst with hk | hk | hk <;> rw [hk]

/-! ### Lines without data -/

/-- A character that no comment may contain. -/
def isUnprintable (c : Char) : Bool := (c.toNat < 0x20 && c != '\t') || c.toNat == 0x7F

/-- A line without the carriage return at its end. -/
def lineBody (l : List Char) : List Char := if l.getLast? = some '\r' then l.dropLast else l

/-- A line that holds only what a comment may contain. -/
def IsPrintable (l : List Char) : Prop := ∀ c ∈ lineBody l, isUnprintable c = false

/-- A line that is blank or a comment. -/
def IsRemark (l : List Char) : Prop :=
  l.dropWhile isSpace = [] ∨ l.dropWhile isSpace = ['\r'] ∨ (l.dropWhile isSpace).head? = some '#'

instance (l : List Char) : Decidable (IsPrintable l) :=
  decidable_of_iff ((lineBody l).any isUnprintable = false) (by
    simp only [List.any_eq_false, Bool.not_eq_true, IsPrintable])

instance (l : List Char) : Decidable (IsRemark l) := inferInstanceAs (Decidable (_ ∨ _ ∨ _))

private theorem lineBody_return (l : List Char) : lineBody (l ++ ['\r']) = l := by simp [lineBody]

private theorem lineBody_of_notMem {l : List Char} (h : '\r' ∉ l) : lineBody l = l :=
  if_neg fun hlast => h (List.mem_of_getLast? hlast)

theorem lineBody_append {front : List Char} (h : '\r' ∉ front) (l : List Char) :
    lineBody (front ++ l) = front ++ lineBody l := by
  cases l with
  | nil => rw [List.append_nil, lineBody_of_notMem h, lineBody_of_notMem List.not_mem_nil, List.append_nil]
  | cons c l =>
    have hne : c :: l ≠ [] := List.cons_ne_nil c l
    rw [lineBody, lineBody, List.getLast?_append_of_ne_nil _ hne, List.dropLast_append_of_ne_nil hne]
    split <;> rfl

private theorem isUnprintable_of_isSpace {c : Char} (h : isSpace c = true) : isUnprintable c = false := by
  rw [isSpace, Bool.or_eq_true, beq_iff_eq, beq_iff_eq] at h
  rcases h with rfl | rfl <;> rfl

private theorem isPrintable_comment_iff {blanks text behind : List Char} (hblanks : ∀ c ∈ blanks, isSpace c = true)
    (htext : '\r' ∉ text) (hbehind : ∀ c ∈ behind.head?, c = '\r') :
    IsPrintable (blanks ++ '#' :: (text ++ behind)) ↔
      (∀ c ∈ text, isUnprintable c = false) ∧ (behind = [] ∨ behind = ['\r']) := by
  have hfront : '\r' ∉ blanks ++ '#' :: text := by
    intro hmem
    rcases List.mem_append.1 hmem with hmem | hmem
    · exact absurd (hblanks _ hmem) (by decide)
    · rcases List.mem_cons.1 hmem with hsharp | hmem
      · exact absurd hsharp (by decide)
      · exact htext hmem
  have hbody : lineBody (blanks ++ '#' :: (text ++ behind)) = (blanks ++ '#' :: text) ++ lineBody behind := by
    rw [← lineBody_append hfront, List.append_assoc, List.cons_append]
  have hblank : ∀ c ∈ blanks, isUnprintable c = false := fun c hc => isUnprintable_of_isSpace (hblanks c hc)
  have hprintable : IsPrintable (blanks ++ '#' :: (text ++ behind)) ↔
      (∀ c ∈ text, isUnprintable c = false) ∧ IsPrintable behind := by
    rw [IsPrintable, hbody, List.forall_mem_append, List.forall_mem_append, List.forall_mem_cons]
    exact ⟨fun h => ⟨h.1.2.2, h.2⟩, fun h => ⟨⟨hblank, rfl, h.1⟩, h.2⟩⟩
  rw [hprintable]
  refine and_congr_right fun _ => ?_
  match behind, hbehind with
  | [], _ => exact ⟨fun _ => .inl rfl, fun _ => by decide⟩
  | [c], hbehind =>
    cases hbehind c rfl
    exact ⟨fun _ => .inr rfl, fun _ => by decide⟩
  | c :: d :: more, hbehind =>
    cases hbehind c rfl
    refine ⟨fun h => ?_, fun h => by simp at h⟩
    have hreturn : '\r' ∈ lineBody ('\r' :: d :: more) := by
      rw [lineBody]
      split
      · exact List.mem_cons_self
      · exact List.mem_cons_self
    exact absurd (h _ hreturn) (by decide)

/-- A remark is blank, or a comment up to the first carriage return. -/
private theorem IsRemark.cases {l : List Char} (h : IsRemark l) : ∃ blanks, (∀ c ∈ blanks, isSpace c = true) ∧
    (l = blanks ∨ l = blanks ++ ['\r'] ∨ ∃ text behind, l = blanks ++ '#' :: (text ++ behind) ∧ '\r' ∉ text ∧
      ∀ c ∈ behind.head?, c = '\r') := by
  refine ⟨l.takeWhile isSpace, fun c hc => List.mem_takeWhile_imp hc, ?_⟩
  have hsplit := List.takeWhile_append_dropWhile (p := isSpace) (l := l)
  rcases h with h | h | h
  · rw [h, List.append_nil] at hsplit
    exact .inl hsplit.symm
  · rw [h] at hsplit
    exact .inr (.inl hsplit.symm)
  · obtain ⟨cs, hcs⟩ := List.head?_eq_some_iff.1 h
    have hcut := List.takeWhile_append_dropWhile (p := (· != '\r')) (l := cs)
    refine .inr (.inr ⟨cs.takeWhile (· != '\r'), cs.dropWhile (· != '\r'), ?_, fun hmem => ?_, fun c hc => ?_⟩)
    · rw [hcut, ← hcs, hsplit]
    · exact absurd (List.mem_takeWhile_imp hmem) (by decide)
    · have hhead := List.head?_dropWhile_not (· != '\r') cs
      rw [hc] at hhead
      simpa using hhead

/-! ### Cutting lines without data -/

private theorem cuts_comment {ps : List Piece} {more text : List Char} (hfeed : '\n' ∉ text) (hreturn : '\r' ∉ text)
    (hnext : ∀ c ∈ (textOf ps ++ more).head?, c = '\n' ∨ c = '\r') (rest : Cuts ps more) :
    Cuts ((.comment, '#' :: text) :: ps) more := by
  have hall : ∀ c ∈ text, (c != '\n' && c != '\r') = true := by
    intro c hc
    rw [Bool.and_eq_true, bne_iff_ne, bne_iff_ne]
    exact ⟨fun heq => hfeed (heq ▸ hc), fun heq => hreturn (heq ▸ hc)⟩
  have hstop : (textOf ps ++ more).takeWhile (fun c => c != '\n' && c != '\r') = [] := by
    cases hcons : textOf ps ++ more with
    | nil => rfl
    | cons c cs =>
      rw [hcons] at hnext
      rcases hnext c rfl with rfl | rfl <;> rfl
  refine .cons (fun start => ?_) rest
  change (⟨.comment, start, '#' :: (text ++ (textOf ps ++ more)).takeWhile fun c => c != '\n' && c != '\r'⟩ : Token) = _
  rw [List.takeWhile_append_of_pos hall, hstop, List.append_nil]

private theorem cuts_returnFeed {ps : List Piece} {more : List Char} (rest : Cuts ps more) :
    Cuts ((.newline, ['\r', '\n']) :: ps) more := .cons (fun _ => rfl) rest

private theorem cuts_return {more : List Char} (h : more.head? ≠ some '\n') : Cuts [(.newline, ['\r'])] more := by
  refine .cons (fun start => ?_) .nil
  change (⟨.newline, start, if more.head? == some '\n' then _ else _⟩ : Token) = _
  rw [if_neg fun heq => h (beq_iff_eq.1 heq)]

/-- Pieces without data that are cut in front of anything and refused nowhere. -/
structure Passed (ps : List Piece) : Prop where
  remarks : Remarks ps
  sound : Sound ps
  cuts : ∀ more, Cuts ps more

theorem passed_nil : Passed [] := ⟨List.forall_mem_nil _, List.forall_mem_nil _, fun _ => .nil⟩

private theorem Passed.append {ps qs : List Piece} (hps : Passed ps) (hqs : Passed qs) : Passed (ps ++ qs) where
  remarks := hps.remarks.append hqs.remarks
  sound := hps.sound.append hqs.sound
  cuts more := (hps.cuts _).append (hqs.cuts more)

theorem passed_feed : Passed [(.newline, ['\n'])] where
  remarks := List.forall_mem_singleton.2 (.inr (.inl rfl))
  sound := List.forall_mem_singleton.2 fun _ => rfl
  cuts _ := cuts_mark (by simp [marks]) .nil

private theorem passed_returnFeed : Passed [(.newline, ['\r', '\n'])] where
  remarks := List.forall_mem_singleton.2 (.inr (.inl rfl))
  sound := List.forall_mem_singleton.2 fun _ => rfl
  cuts _ := cuts_returnFeed .nil

/-- Blanks, if there are any. -/
def blankPieces (blanks : List Char) : List Piece := if blanks = [] then [] else [(.blank, blanks)]

private theorem textOf_blankPieces (blanks : List Char) : textOf (blankPieces blanks) = blanks := by
  rw [blankPieces]
  split
  · rename_i h
    exact h.symm
  · simp

private theorem cuts_blankPieces {blanks more : List Char} (hblanks : ∀ c ∈ blanks, isSpace c = true)
    (hnext : ∀ c ∈ more.head?, isSpace c = false) : Cuts (blankPieces blanks) more := by
  rw [blankPieces]
  split
  · exact .nil
  · rename_i h
    exact cuts_spaces h hblanks hnext .nil

private theorem Passed.blanks {ps : List Piece} (h : Passed ps) {c : Char} {cs : List Char}
    (hstart : textOf ps = c :: cs)
    (hc : isSpace c = false) {blanks : List Char} (hblanks : ∀ c ∈ blanks, isSpace c = true) :
    Passed (blankPieces blanks ++ ps) where
  remarks := by
    refine Remarks.append ?_ h.remarks
    rw [blankPieces]
    split
    · exact List.forall_mem_nil _
    · exact List.forall_mem_singleton.2 (.inl rfl)
  sound := by
    refine Sound.append ?_ h.sound
    rw [blankPieces]
    split
    · exact List.forall_mem_nil _
    · exact List.forall_mem_singleton.2 fun _ => rfl
  cuts more := by
    refine (cuts_blankPieces hblanks fun x hx => ?_).append (h.cuts more)
    rw [hstart] at hx
    cases hx
    exact hc

private theorem Passed.comment {ps : List Piece} (h : Passed ps) {c : Char} {cs : List Char}
    (hstart : textOf ps = c :: cs)
    (hc : c = '\n' ∨ c = '\r') {text : List Char} (htext : ∀ c ∈ text, isUnprintable c = false) :
    Passed ((.comment, '#' :: text) :: ps) where
  remarks := List.forall_mem_cons.2 ⟨.inr (.inr rfl), h.remarks⟩
  sound := by
    refine List.forall_mem_cons.2 ⟨fun start => ?_, h.sound⟩
    have hnone : ('#' :: text).findIdx? isUnprintable = none :=
      List.findIdx?_eq_none_iff.2 (List.forall_mem_cons.2 ⟨rfl, htext⟩)
    change (('#' :: text).findIdx? isUnprintable).map _ = none
    rw [hnone, Option.map_none]
  cuts more := by
    refine cuts_comment (fun hmem => absurd (htext _ hmem) (by decide)) (fun hmem => absurd (htext _ hmem) (by decide))
      (fun x hx => ?_) (h.cuts more)
    rw [hstart] at hx
    cases hx
    exact hc

/-- A remark that a comment may contain is passed over. -/
theorem exists_passed {l : List Char} (h : IsRemark l) (hprintable : IsPrintable l) :
    ∃ ps, textOf ps = l ++ ['\n'] ∧ Passed ps := by
  obtain ⟨blanks, hblanks, rfl | rfl | ⟨text, behind, rfl, htext, hbehind⟩⟩ := h.cases
  · exact ⟨_, by simp [textOf_blankPieces], passed_feed.blanks rfl rfl hblanks⟩
  · exact ⟨_, by simp [textOf_blankPieces], passed_returnFeed.blanks rfl rfl hblanks⟩
  · obtain ⟨hall, rfl | rfl⟩ := (isPrintable_comment_iff hblanks htext hbehind).1 hprintable
    · exact ⟨_, by simp [textOf_blankPieces], (passed_feed.comment rfl (.inl rfl) hall).blanks rfl rfl hblanks⟩
    · exact ⟨_, by simp [textOf_blankPieces], (passed_returnFeed.comment rfl (.inr rfl) hall).blanks rfl rfl hblanks⟩

/-- Remarks on lines of their own are passed over. -/
theorem exists_remarks {ls : List (List Char)} (h : ∀ l ∈ ls, IsRemark l) (hprintable : ∀ l ∈ ls, IsPrintable l) :
    ∃ ps, textOf ps = ls.flatMap (· ++ ['\n']) ∧ Passed ps := by
  induction ls with
  | nil => exact ⟨[], rfl, passed_nil⟩
  | cons l ls ih =>
    obtain ⟨hfirst, hrest⟩ := List.forall_mem_cons.1 h
    obtain ⟨hfirst', hrest'⟩ := List.forall_mem_cons.1 hprintable
    obtain ⟨ps, hps, hpassed⟩ := exists_passed hfirst hfirst'
    obtain ⟨qs, hqs, hpassed'⟩ := ih hrest hrest'
    exact ⟨ps ++ qs, by rw [textOf_append, hps, hqs, List.flatMap_cons], hpassed.append hpassed'⟩

/-! ### Refused lines -/

/-- A text starts with pieces one of which is refused for its own characters. -/
def StartsUnsound (cs : List Char) : Prop :=
  ∃ ps rest, cs = textOf ps ++ rest ∧ Cuts ps rest ∧ ∃ p ∈ ps, ∀ start, badBlank? ⟨p.1, start, p.2⟩ ≠ none

private theorem StartsUnsound.behind {cs : List Char} (h : StartsUnsound cs) {ps : List Piece}
    (hcuts : ∀ more, Cuts ps more) :
    StartsUnsound (textOf ps ++ cs) := by
  obtain ⟨qs, rest, rfl, hqs, p, hp, hbad⟩ := h
  exact ⟨ps ++ qs, rest, by rw [textOf_append, List.append_assoc], (hcuts _).append hqs, p,
    List.mem_append_right ps hp, hbad⟩

private theorem isPrintable_of_isSpace {blanks : List Char} (h : ∀ c ∈ blanks, isSpace c = true) :
    IsPrintable blanks := by
  have hreturn : '\r' ∉ blanks := fun hmem => absurd (h _ hmem) (by decide)
  rw [IsPrintable, lineBody_of_notMem hreturn]
  exact fun c hc => isUnprintable_of_isSpace (h c hc)

section

variable {blanks text behind : List Char} (hblanks : ∀ c ∈ blanks, isSpace c = true) (hfeed : '\n' ∉ text)
  (hreturn : '\r' ∉ text)
include hblanks hfeed hreturn

private theorem startsUnsound_of_text {c : Char} (hc : c ∈ text) (hbad : isUnprintable c = true)
    (hbehind : ∀ c ∈ behind.head?, c = '\n' ∨ c = '\r') : StartsUnsound (blanks ++ '#' :: (text ++ behind)) := by
  refine ⟨blankPieces blanks ++ [(.comment, '#' :: text)], behind, by simp [textOf_blankPieces],
    (cuts_blankPieces hblanks ?_).append (cuts_comment hfeed hreturn ?_ .nil), (.comment, '#' :: text), by simp,
    fun start hnone => ?_⟩
  · rintro c ⟨⟩
    rfl
  · exact hbehind
  · change (('#' :: text).findIdx? isUnprintable).map _ = none at hnone
    rw [Option.map_eq_none_iff, List.findIdx?_eq_none_iff] at hnone
    rw [hnone c (List.mem_cons_of_mem _ hc)] at hbad
    cases hbad

private theorem startsUnsound_of_return (hbehind : behind.head? ≠ some '\n') :
    StartsUnsound (blanks ++ '#' :: (text ++ '\r' :: behind)) := by
  refine ⟨blankPieces blanks ++ [(.comment, '#' :: text), (.newline, ['\r'])], behind, by simp [textOf_blankPieces],
    (cuts_blankPieces hblanks ?_).append (cuts_comment hfeed hreturn ?_ (cuts_return hbehind)), (.newline, ['\r']),
    by simp, fun start hnone => by cases hnone⟩
  · rintro c ⟨⟩
    rfl
  · rintro c ⟨⟩
    exact .inr rfl

end

private theorem startsUnsound_of_remark {l : List Char} (h : IsRemark l) (hunprintable : ¬IsPrintable l)
    (hfeed : '\n' ∉ l) (more : List Char) : StartsUnsound (l ++ '\n' :: more) := by
  obtain ⟨blanks, hblanks, rfl | rfl | ⟨text, behind, rfl, hreturn, hbehind⟩⟩ := h.cases
  · exact absurd (isPrintable_of_isSpace hblanks) hunprintable
  · refine absurd ?_ hunprintable
    rw [IsPrintable, lineBody_return]
    exact fun c hc => isUnprintable_of_isSpace (hblanks c hc)
  · rw [isPrintable_comment_iff hblanks hreturn hbehind, not_and_or] at hunprintable
    simp only [List.mem_append, List.mem_cons, not_or] at hfeed
    obtain ⟨-, -, hfeed, hfeed'⟩ := hfeed
    rw [List.append_assoc, List.cons_append, List.append_assoc]
    rcases hunprintable with hbad | hbad
    · -- the comment itself is refused
      obtain ⟨c, hc, hcontrol⟩ : ∃ c ∈ text, isUnprintable c = true := by simpa using hbad
      refine startsUnsound_of_text hblanks hfeed hreturn hc hcontrol ?_
      cases behind with
      | nil =>
        rintro c ⟨⟩
        exact .inl rfl
      | cons d behind =>
        rintro c ⟨⟩
        exact .inr (hbehind _ rfl)
    · -- a carriage return ends the comment, and no line feed follows
      cases behind with
      | nil => exact absurd (.inl rfl) hbad
      | cons c behind =>
        cases hbehind c rfl
        cases behind with
        | nil => exact absurd (.inr rfl) hbad
        | cons d tail =>
          refine startsUnsound_of_return hblanks hfeed hreturn ?_
          rintro ⟨⟩
          exact hfeed' (by simp)

/-- A text is refused if it starts with remarks one of which a comment may not contain. -/
theorem startsUnsound_of_remarks {ls : List (List Char)} (h : ∀ l ∈ ls, IsRemark l) (hfeed : ∀ l ∈ ls, '\n' ∉ l)
    (hunprintable : ¬∀ l ∈ ls, IsPrintable l) (more : List Char) :
    StartsUnsound (ls.flatMap (· ++ ['\n']) ++ more) := by
  induction ls with
  | nil => exact absurd (List.forall_mem_nil _) hunprintable
  | cons l ls ih =>
    obtain ⟨hfirst, hrest⟩ := List.forall_mem_cons.1 h
    obtain ⟨hfirst', hrest'⟩ := List.forall_mem_cons.1 hfeed
    rw [List.flatMap_cons, List.append_assoc]
    by_cases hl : IsPrintable l
    · obtain ⟨ps, hps, hpassed⟩ := exists_passed hfirst hl
      rw [← hps]
      exact (ih hrest hrest' fun hall => hunprintable (List.forall_mem_cons.2 ⟨hl, hall⟩)).behind hpassed.cuts
    · rw [List.append_assoc, List.singleton_append]
      exact startsUnsound_of_remark hfirst hl hfirst' _

private theorem findSome?_place {ps : List Piece} {p : Piece} (hp : p ∈ ps)
    (hbad : ∀ start, badBlank? ⟨p.1, start, p.2⟩ ≠ none) (start : Nat) :
    ∃ e, (place start ps).findSome? badBlank? = some e := by
  induction ps generalizing start with
  | nil => cases hp
  | cons q ps ih =>
    rw [place, List.findSome?_cons]
    cases hq : badBlank? ⟨q.1, start, q.2⟩ with
    | some e => exact ⟨e, rfl⟩
    | none =>
      rcases List.mem_cons.1 hp with rfl | hp
      · exact absurd hq (hbad start)
      · exact ih hp _

theorem lines_of_startsUnsound {cs : List Char} (h : StartsUnsound cs) (hstart : ∀ c ∈ cs.head?, c.toNat ≠ 0xFEFF) :
    ∃ e, lines cs = .error e := by
  obtain ⟨ps, rest, rfl, hcuts, p, hp, hbad⟩ := h
  obtain ⟨e, he⟩ := findSome?_place hp hbad 0
  unfold lines
  rw [behindMark_of_head hstart]
  dsimp only
  rw [tokens_append_of_cuts hcuts, List.findSome?_append, he, Option.some_or]
  split
  · rename_i hnone
    cases hnone
  · exact ⟨_, rfl⟩
  · exact ⟨_, rfl⟩

end Sandscript.Toml
