import Sandscript.Proofs.Numeric.Digits
import Sandscript.Proofs.Toml.Tokens
import Sandscript.Toml.Document
import Mathlib.Data.List.Forall2

/-!
# Written values

The values that settings take: numbers without a sign, the two booleans, strings, and lists of strings.  Each is
written as pieces that are cut where they should be and read, at the end of a line, as a term of the same value
(`Stands`).
-/

namespace Sandscript.Toml

/-! ### Unquoted values -/

private theorem takeDigits_digits (w : Written) (n offset : Nat) (zeros : Bool) (invalid : String) :
    takeDigits w zeros invalid offset (Numeric.digits n) = .ok (offset + (Numeric.digits n).length, []) := by
  have hdigit : ∀ c ∈ Numeric.digits n, (c.isDigit || c == '_') = true := fun c hc => by
    rw [Numeric.isDigit_of_mem_digits hc, Bool.true_or]
  have hpart : (Numeric.digits n).takeWhile (fun c => c.isDigit || c == '_') = Numeric.digits n :=
    List.takeWhile_eq_self_iff.2 hdigit
  have hcount : (Numeric.digits n).countP Char.isDigit = (Numeric.digits n).length :=
    List.countP_eq_length.2 fun c hc => Numeric.isDigit_of_mem_digits hc
  have hpos : (Numeric.digits n).length ≠ 0 := fun h => Numeric.digits_ne_nil n (List.eq_nil_of_length_eq_zero h)
  have hzero : ¬(1 < (Numeric.digits n).length && (Numeric.digits n).head? == some '0' && !zeros) = true := by
    intro h
    simp only [Bool.and_eq_true, decide_eq_true_eq, beq_iff_eq] at h
    obtain ⟨⟨hlength, hhead⟩, -⟩ := h
    obtain ⟨rest, hrest⟩ := List.head?_eq_some_iff.1 hhead
    rw [hrest, (Numeric.eq_zero_of_digits hrest).2] at hlength
    exact Nat.lt_irrefl 1 hlength
  unfold takeDigits
  dsimp only
  rw [hpart, hcount, if_neg hpos, if_neg hzero, List.drop_length]

private theorem strayUnderscore_eq_none {isDigit : Char → Bool} {cs : List Char} (h : '_' ∉ cs) (i : Nat)
    (before : Bool) :
    strayUnderscore isDigit i before cs = none := by
  induction cs generalizing i before with
  | nil => rfl
  | cons c cs ih =>
    obtain ⟨hc, hcs⟩ := not_or.1 (List.mem_cons.not.1 h)
    unfold strayUnderscore
    rw [if_neg (by simpa using fun h => hc h.symm)]
    exact ih hcs _ _

private theorem integer_digits (w : Written) (n : Nat) :
    integer w false 0 (Numeric.digits n) = .ok (.int w.span n) := by
  have hnone : '_' ∉ Numeric.digits n := fun h => absurd (Numeric.isDigit_of_mem_digits h) (by decide)
  have hclean : withoutUnderscores (Numeric.digits n) = Numeric.digits n :=
    List.filter_eq_self.2 fun c hc => bne_iff_ne.2 fun h => hnone (h ▸ hc)
  have hall : (Numeric.digits n).all Char.isDigit = true :=
    List.all_eq_true.2 fun c hc => Numeric.isDigit_of_mem_digits hc
  have hunderscores : checkUnderscores w Char.isDigit 0 (Numeric.digits n) = .ok () := by
    unfold checkUnderscores
    rw [strayUnderscore_eq_none hnone]
  unfold integer
  rw [takeDigits_digits, hunderscores, hclean]
  change (if (Numeric.digits n).all Char.isDigit = true then
    (.ok (.int w.span (Numeric.ofDigits (Numeric.digits n))) : Except DecodeError Datum) else _) = _
  rw [if_pos hall, Numeric.ofDigits_digits]

private theorem numeric_digits (w : Written) (n : Nat) :
    numeric w false 0 (Numeric.digits n) = .ok (.int w.span n) := by
  have hrest : (Numeric.digits n).dropWhile Char.isDigit = [] :=
    List.dropWhile_eq_nil_iff.2 fun c hc => Numeric.isDigit_of_mem_digits hc
  unfold numeric
  dsimp only
  rw [hrest]
  exact integer_digits w n

/-- The digits of a number stand for it. -/
private theorem value_digits (span : Span) (n : Nat) :
    Written.value ⟨.atom, span, Numeric.digits n⟩ = .ok (.int span n) := by
  obtain ⟨c, cs, hcons⟩ := List.exists_cons_of_ne_nil (Numeric.digits_ne_nil n)
  have hdigit : c.isDigit = true := Numeric.isDigit_of_mem_digits (hcons ▸ List.mem_cons_self)
  have hsign : ¬(c == '+' || c == '-') = true := by
    intro h
    simp only [Bool.or_eq_true, beq_iff_eq] at h
    rcases h with rfl | rfl <;> cases hdigit
  have hnumeric := numeric_digits ⟨.atom, span, Numeric.digits n⟩ n
  change unquoted ⟨.atom, span, Numeric.digits n⟩ = _
  unfold unquoted
  dsimp only
  rw [hcons] at hnumeric ⊢
  dsimp only
  rw [if_neg hsign]
  by_cases hzero : c = '0'
  · subst hzero
    obtain ⟨-, rfl⟩ := Numeric.eq_zero_of_digits hcons
    exact hnumeric
  · rw [if_neg (by simpa using hzero), if_pos (by rw [hdigit, Bool.true_or])]
    exact hnumeric

private theorem value_boolean (span : Span) (b : Bool) :
    Written.value ⟨.atom, span, (if b then "true" else "false").toList⟩ = .ok (.bool span b) := by
  cases b <;> rfl

/-! ### Values of settings -/

/-- A value that a setting takes. -/
inductive Setting where
  | word (n : Nat)
  | flag (b : Bool)
  | text (s : String)
  | texts (ss : List String)

/-- A datum is this string, wherever it stands. -/
def IsString (s : String) (d : Datum) : Prop := ∃ p, d = .str p s

/-- A datum is the value, wherever it stands. -/
def Setting.Is : Setting → Datum → Prop
  | word n, d => ∃ p, d = .int p n
  | flag b, d => ∃ p, d = .bool p b
  | text s, d => IsString s d
  | texts ss, d => ∃ p ds, d = .seq p ds ∧ List.Forall₂ IsString ss ds

/-- Pieces that hold neither comments nor line ends other than line feeds. -/
def Calm (ps : List Piece) : Prop := ∀ p ∈ ps, p.1 ≠ .comment ∧ (p.1 = .newline → p.2 = ['\n'])

/-- The end of a line. -/
def lineEnd (start : Nat) : Token := ⟨.newline, start, ['\n']⟩

/-- Pieces that are read as a value at the end of a line. -/
structure Stands (ps : List Piece) (v : Setting) : Prop where
  cuts : ∀ more, Cuts ps ('\n' :: more)
  start : ∀ c ∈ (textOf ps).head?, isSpace c = false
  calm : Calm ps
  reads : ∀ (eof fuel start stop : Nat) (ts : List Token), ps.length < fuel → ∃ t d,
    readTerm eof fuel (place start ps ++ lineEnd stop :: ts) = .ok (t, lineEnd stop :: ts) ∧ datumOfTerm t = .ok d ∧
    v.Is d

private theorem takeWords_lineEnd (stop : Nat) (ts : List Token) :
    takeWords (lineEnd stop :: ts) = ([], lineEnd stop :: ts) := by
  cases ts <;> rfl

private theorem readTerm_atom (eof fuel start stop : Nat) (cs : List Char) (ts : List Token) :
    readTerm eof (fuel + 1) (⟨.atom, start, cs⟩ :: lineEnd stop :: ts) =
      .ok (.scalar ⟨.atom, ⟨start, start + cs.length⟩, cs⟩, lineEnd stop :: ts) := by
  conv => lhs; unfold readTerm
  dsimp only
  rw [takeWords_lineEnd]
  simp only [List.flatMap_cons, List.flatMap_nil, List.append_nil]

private theorem readTerm_string {k : TokenKind} (hk : isString k = true) (eof fuel start : Nat) (cs : List Char)
    (ts : List Token) :
    readTerm eof (fuel + 1) (⟨k, start, cs⟩ :: ts) = .ok (.scalar ⟨k, ⟨start, start + cs.length⟩, cs⟩, ts) := by
  conv => lhs; unfold readTerm
  cases k <;> first | rfl | cases hk

theorem calm_nil : Calm [] := List.forall_mem_nil _

theorem calm_cons {k : TokenKind} {cs : List Char} {ps : List Piece} (hk : k ≠ .comment ∧ k ≠ .newline)
    (hps : Calm ps) :
    Calm ((k, cs) :: ps) := List.forall_mem_cons.2 ⟨⟨hk.1, fun h => absurd h hk.2⟩, hps⟩

theorem calm_newline {ps : List Piece} (hps : Calm ps) : Calm ((.newline, ['\n']) :: ps) :=
  List.forall_mem_cons.2 ⟨⟨by decide, fun _ => rfl⟩, hps⟩

theorem calm_append {ps qs : List Piece} (hps : Calm ps) (hqs : Calm qs) : Calm (ps ++ qs) :=
  List.forall_mem_append.2 ⟨hps, hqs⟩

/-- A word that stands for a value is read as the value at the end of a line. -/
private theorem stands_atom {cs : List Char} {v : Setting} (hne : cs ≠ []) (hcs : ∀ c ∈ cs, isKeyChar c = true)
    (hvalue : ∀ span, ∃ d, Written.value ⟨.atom, span, cs⟩ = .ok d ∧ v.Is d) : Stands [(.atom, cs)] v where
  cuts more := cuts_word hne hcs (fun c hc => by cases hc; rfl) .nil
  start c hc := by
    have hmem : c ∈ cs := by simpa using List.mem_of_mem_head? hc
    have hword := (not_special_of_isKeyChar (hcs c hmem)).1
    simp only [startsToken, Bool.or_eq_false_iff] at hword
    simp only [isSpace, Bool.or_eq_false_iff, hword, and_self]
  calm := calm_cons (by decide) calm_nil
  reads eof fuel start stop ts hfuel := by
    obtain ⟨fuel, rfl⟩ := Nat.exists_eq_add_one_of_ne_zero (Nat.ne_zero_of_lt hfuel)
    obtain ⟨d, hd, his⟩ := hvalue ⟨start, start + cs.length⟩
    exact ⟨_, d, readTerm_atom eof fuel start stop cs ts, hd, his⟩

private theorem isKeyChar_of_isDigit {c : Char} (h : c.isDigit = true) : isKeyChar c = true := by
  simp only [isKeyChar, Char.isAlphanum, h, Bool.or_true, Bool.true_or]

theorem stands_word (n : Nat) : Stands [(.atom, Numeric.digits n)] (.word n) :=
  stands_atom (Numeric.digits_ne_nil n) (fun _ hc => isKeyChar_of_isDigit (Numeric.isDigit_of_mem_digits hc))
    fun span => ⟨_, value_digits span n, span, rfl⟩

theorem stands_flag (b : Bool) : Stands [(.atom, (if b then "true" else "false").toList)] (.flag b) :=
  stands_atom (by cases b <;> decide) (by cases b <;> exact List.all_eq_true.1 rfl)
    fun span => ⟨_, value_boolean span b, span, rfl⟩

private theorem value_quoted {k : TokenKind} {cs : List Char} {s : String} (h : Quoted k cs s.toList) (span : Span) :
    Written.value ⟨k, span, cs⟩ = .ok (.str span s) := by
  have hatom : ¬(k == .atom) = true := by
    intro hk
    have hstring := h.isString
    rw [eq_of_beq hk] at hstring
    cases hstring
  unfold Written.value
  rw [if_neg hatom, h.string, String.ofList_toList]
  rfl

private theorem isSpace_eq_false_of_isQuote {c : Char} (h : IsQuote c) : isSpace c = false := by
  rcases h with rfl | rfl <;> decide

private theorem Quoted.calm {k : TokenKind} {cs s : List Char} (h : Quoted k cs s) :
    k ≠ .comment ∧ k ≠ .newline := by
  have hstring := h.isString
  refine ⟨fun hk => ?_, fun hk => ?_⟩ <;> subst hk <;> cases hstring

theorem stands_text (s : String) : ∃ ps, textOf ps = stringChars s.toList ∧ Stands ps (.text s) := by
  obtain ⟨k, hk⟩ := quoted_stringChars s.toList
  refine ⟨[(k, stringChars s.toList)], by simp, ?_, ?_, calm_cons hk.calm calm_nil, ?_⟩
  · intro more
    exact cuts_quoted hk (fun c hc => by cases hc; unfold IsQuote; decide) .nil
  · intro c hc
    obtain ⟨q, rest, hcs, hq, -⟩ := hk.token
    rw [textOf_cons, textOf_nil, List.append_nil, hcs] at hc
    cases hc
    exact isSpace_eq_false_of_isQuote hq
  · intro eof fuel start stop ts hfuel
    obtain ⟨fuel, rfl⟩ := Nat.exists_eq_add_one_of_ne_zero (Nat.ne_zero_of_lt hfuel)
    exact ⟨_, _, readTerm_string hk.isString eof fuel start _ _, value_quoted hk _, _, rfl⟩

/-! ### Lists of strings -/

section

variable {eof fuel start : Nat} {read : List Term} {ts : List Token}

private theorem readList_newline (stop : Nat) :
    readList eof fuel start read (lineEnd stop :: ts) = readList eof fuel start read ts := by
  cases fuel with
  | zero => rfl
  | succ fuel =>
    have hskip : skipLines (lineEnd stop :: ts) = skipLines ts := rfl
    unfold readList
    rw [hskip]

private theorem readList_blank (stop : Nat) (cs : List Char) :
    readList eof fuel start read (⟨.blank, stop, cs⟩ :: ts) = readList eof fuel start read ts := by
  cases fuel with
  | zero => rfl
  | succ fuel =>
    have hskip : skipLines (⟨.blank, stop, cs⟩ :: ts) = skipLines ts := rfl
    unfold readList
    rw [hskip]

/-- The closing bracket of a list. -/
def listEnd (start : Nat) : Token := ⟨.closeBracket, start, [']']⟩

private theorem readList_close (stop : Nat) :
    readList eof (fuel + 1) start read (listEnd stop :: ts) = .ok (.list ⟨start, stop + 1⟩ read.reverse, ts) := by
  unfold readList
  rfl

private theorem skipLines_string {k : TokenKind} (hk : isString k = true) (place : Nat) (cs : List Char) :
    skipLines (⟨k, place, cs⟩ :: ts) = ⟨k, place, cs⟩ :: ts := by
  cases k <;> first | rfl | cases hk

private theorem readList_string {k : TokenKind} (hk : isString k = true) (place stop : Nat) (cs : List Char) :
    readList eof (fuel + 2) start read (⟨k, place, cs⟩ :: ⟨.comma, stop, [',']⟩ :: ts) =
      readList eof (fuel + 1) start (.scalar ⟨k, ⟨place, place + cs.length⟩, cs⟩ :: read) ts := by
  have hne : ¬(k == .closeBracket) = true ∧ ¬(k == .comma) = true := by
    constructor <;> intro h <;> rw [eq_of_beq h] at hk <;> cases hk
  conv => lhs; unfold readList
  rw [skipLines_string hk]
  dsimp only
  rw [if_neg hne.1, if_neg hne.2, readTerm_string hk]
  rfl

private theorem readList_last {k : TokenKind} (hk : isString k = true) (place stop : Nat) (cs : List Char) :
    readList eof (fuel + 2) start read (⟨k, place, cs⟩ :: listEnd stop :: ts) =
      .ok (.list ⟨start, stop + 1⟩ (.scalar ⟨k, ⟨place, place + cs.length⟩, cs⟩ :: read).reverse, ts) := by
  have hne : ¬(k == .closeBracket) = true ∧ ¬(k == .comma) = true := by
    constructor <;> intro h <;> rw [eq_of_beq h] at hk <;> cases hk
  conv => lhs; unfold readList
  rw [skipLines_string hk]
  dsimp only
  rw [if_neg hne.1, if_neg hne.2, readTerm_string hk]
  rfl

end

private theorem readTerm_list (eof fuel start : Nat) (ts : List Token) :
    readTerm eof (fuel + 1) (⟨.openBracket, start, ['[']⟩ :: ts) = readList eof fuel start [] ts := by
  conv => lhs; unfold readTerm

private theorem head_list (ps : List Piece) :
    ∀ c ∈ (textOf ((.openBracket, ['[']) :: ps)).head?, isSpace c = false := by
  intro c hc
  cases hc
  decide

theorem stands_none : Stands [(.openBracket, ['[']), (.closeBracket, [']'])] (.texts []) where
  cuts _ := cuts_mark (by simp [marks]) (cuts_mark (by simp [marks]) .nil)
  start := head_list _
  calm := calm_cons (by decide) (calm_cons (by decide) calm_nil)
  reads eof fuel start stop ts hfuel := by
    obtain ⟨fuel, rfl⟩ : ∃ n, fuel = n + 1 + 1 := ⟨fuel - 2, by simp only [List.length_cons] at hfuel; omega⟩
    exact ⟨_, _, (readTerm_list eof (fuel + 1) start _).trans (readList_close _), rfl, _, _, rfl, .nil⟩

theorem stands_one {k : TokenKind} {s : String} (hk : Quoted k (stringChars s.toList) s.toList) :
    Stands [(.openBracket, ['[']), (k, stringChars s.toList), (.closeBracket, [']'])] (.texts [s]) where
  cuts _ := by
    refine cuts_mark (by simp [marks]) (cuts_quoted hk ?_ (cuts_mark (by simp [marks]) .nil))
    intro c hc
    cases hc
    unfold IsQuote
    decide
  start := head_list _
  calm := calm_cons (by decide) (calm_cons hk.calm (calm_cons (by decide) calm_nil))
  reads eof fuel start stop ts hfuel := by
    obtain ⟨fuel, rfl⟩ : ∃ n, fuel = n + 2 + 1 := ⟨fuel - 3, by simp only [List.length_cons] at hfuel; omega⟩
    have hvalue : ∀ span p,
        datumOfTerm (.list span [.scalar ⟨k, p, stringChars s.toList⟩]) = .ok (.seq span [.str p s]) := by
      intro span p
      rw [datumOfTerm, datumsOfTerms, datumOfTerm, value_quoted hk]
      rfl
    exact ⟨_, _, (readTerm_list eof (fuel + 2) start _).trans (readList_last hk.isString _ _ _), hvalue _ _, _, _, rfl,
      .cons ⟨_, rfl⟩ .nil⟩

/-- The items of a list, each on its line, are read up to the closing bracket. -/
private theorem exists_items (ss : List String) : ∃ ps : List Piece,
    textOf ps = ss.flatMap (fun s => "    ".toList ++ stringChars s.toList ++ [',', '\n']) ∧
      (∀ more, Cuts ps (']' :: more)) ∧ Calm ps ∧
        ∀ (eof fuel start place' stop : Nat) (read : List Term) (ts : List Token), ps.length + 1 < fuel →
          ∃ span items ds, readList eof fuel start read (place place' ps ++ listEnd stop :: ts) =
            .ok (.list span (read.reverse ++ items), ts) ∧ datumsOfTerms items = .ok ds ∧
              List.Forall₂ IsString ss ds := by
  induction ss with
  | nil =>
    refine ⟨[], rfl, fun _ => .nil, calm_nil, fun eof fuel start place' stop read ts hfuel => ?_⟩
    obtain ⟨fuel, rfl⟩ := Nat.exists_eq_add_one_of_ne_zero (Nat.ne_zero_of_lt hfuel)
    exact ⟨_, [], [], by rw [List.append_nil]; exact readList_close stop, rfl, .nil⟩
  | cons s ss ih =>
    obtain ⟨ps, htext, hcuts, hcalm, hread⟩ := ih
    obtain ⟨k, hk⟩ := quoted_stringChars s.toList
    obtain ⟨q, rest, hcs, hq, -⟩ := hk.token
    refine ⟨(.blank, List.replicate 4 ' ') :: (k, stringChars s.toList) :: (.comma, [',']) :: (.newline, ['\n']) :: ps,
      ?_,
      fun more => ?_, ?_, ?_⟩
    · simp only [textOf_cons, htext, List.flatMap_cons, List.append_assoc]
      rfl
    · refine cuts_blank (by decide) ?_ (cuts_quoted hk ?_
        (cuts_mark (by simp [marks]) (cuts_mark (by simp [marks]) (hcuts more))))
      · intro c hc
        rw [textOf_cons, hcs] at hc
        cases hc
        exact isSpace_eq_false_of_isQuote hq
      · intro c hc
        cases hc
        unfold IsQuote
        decide
    · exact calm_cons (by decide) (calm_cons hk.calm (calm_cons (by decide) (calm_newline hcalm)))
    · intro eof fuel start place' stop read ts hfuel
      simp only [List.length_cons] at hfuel
      obtain ⟨fuel, rfl⟩ : ∃ n, fuel = n + 2 := ⟨fuel - 2, by omega⟩
      simp only [place, List.cons_append]
      rw [readList_blank, readList_string hk.isString, show (⟨.newline, _, ['\n']⟩ : Token) = lineEnd _ from rfl,
        readList_newline]
      generalize (⟨_, _⟩ : Span) = p
      obtain ⟨span, items, ds, hitems, hdatums, his⟩ := hread eof (fuel + 1) start _ stop
        (.scalar ⟨k, p, stringChars s.toList⟩ :: read) ts (by omega)
      rw [hitems]
      refine ⟨span, .scalar ⟨k, p, stringChars s.toList⟩ :: items, .str p s :: ds, ?_, ?_, .cons ⟨p, rfl⟩ his⟩
      · rw [List.reverse_cons, List.append_assoc, List.singleton_append]
      · rw [datumsOfTerms, datumOfTerm, value_quoted hk, hdatums]
        rfl

theorem exists_many (ss : List String) : ∃ ps, textOf ps = '[' :: '\n' :: ss.flatMap (fun s => "    ".toList ++
    stringChars s.toList ++ [',', '\n']) ++ [']'] ∧ Stands ps (.texts ss) := by
  obtain ⟨ps, htext, hcuts, hcalm, hread⟩ := exists_items ss
  refine ⟨(.openBracket, ['[']) :: (.newline, ['\n']) :: (ps ++ [(.closeBracket, [']'])]), ?_, ?_, head_list _, ?_, ?_⟩
  · simp only [textOf_cons, textOf_append, textOf_nil, List.append_nil, htext]
    rfl
  · intro more
    exact cuts_mark (by simp [marks])
      (cuts_mark (by simp [marks]) ((hcuts _).append (cuts_mark (by simp [marks]) .nil)))
  · exact calm_cons (by decide) (calm_newline (calm_append hcalm (calm_cons (by decide) calm_nil)))
  · intro eof fuel start stop ts hfuel
    simp only [List.length_cons, List.length_append, List.length_nil] at hfuel
    obtain ⟨fuel, rfl⟩ := Nat.exists_eq_add_one_of_ne_zero (n := fuel) (by omega)
    obtain ⟨span, items, ds, hitems, hdatums, his⟩ := hread eof fuel start (start + 1 + 1)
      (start + 1 + 1 + (textOf ps).length) [] (lineEnd stop :: ts) (by omega)
    refine ⟨.list span items, .seq span ds, ?_, ?_, _, _, rfl, his⟩
    · simp only [place, place_append, List.cons_append, List.append_assoc, List.nil_append]
      rw [readTerm_list, show (⟨.newline, _, ['\n']⟩ : Token) = lineEnd _ from rfl, readList_newline]
      exact hitems
    · rw [datumOfTerm, hdatums]
      rfl

end Sandscript.Toml
