import Sandscript.Toml.Scalar
import Mathlib.Data.List.TakeWhile

/-!
# Strings of a settings file

A string is written in one of four forms.  Whichever is chosen, the text in front of anything but a quote is one token
of a string (`Quoted.token`), and the token stands for the string (`Quoted.string`): `quoted_stringChars`.
-/

namespace Sandscript.Toml

/-! ### Runs of quotes -/

/-- How many quotes a text starts with. -/
def lead (q : Char) (s : List Char) : Nat := (s.takeWhile (· == q)).length

private theorem lead_cons_self (q : Char) (s : List Char) : lead q (q :: s) = lead q s + 1 := by
  unfold lead
  rw [List.takeWhile_cons_of_pos (p := (· == q)) (beq_self_eq_true q), List.length_cons]

private theorem lead_cons_of_ne {q c : Char} (h : c ≠ q) (s : List Char) : lead q (c :: s) = 0 := by
  unfold lead
  rw [List.takeWhile_cons_of_neg (by simpa using h), List.length_nil]

private theorem lead_eq_zero {q : Char} {s : List Char} (h : ∀ c ∈ s.head?, c ≠ q) : lead q s = 0 := by
  cases s with
  | nil => rfl
  | cons c s => exact lead_cons_of_ne (h c rfl) s

/-- The runs that are counted already, and the one that goes on at the start of what is left. -/
private theorem max_le_foldl_countRun (q : Char) (s : List Char) {p : Nat × Nat} (hp : p.1 ≤ p.2) :
    max p.2 (p.1 + lead q s) ≤ (s.foldl (countRun q) p).2 := by
  induction s generalizing p with
  | nil => exact Nat.max_le.2 ⟨Nat.le_refl _, hp⟩
  | cons c s ih =>
    rw [List.foldl_cons]
    by_cases hc : c = q
    · subst hc
      have hstep : countRun c p c = (p.1 + 1, max p.2 (p.1 + 1)) := by simp [countRun]
      have hrest := ih (p := countRun c p c) (by rw [hstep]; exact Nat.le_max_right _ _)
      rw [hstep] at hrest ⊢
      rw [lead_cons_self]
      dsimp only at hrest
      omega
    · have hstep : countRun q p c = (0, p.2) := by simp [countRun, hc]
      have hrest := ih (p := countRun q p c) (by rw [hstep]; exact Nat.zero_le _)
      rw [hstep] at hrest ⊢
      rw [lead_cons_of_ne hc]
      dsimp only at hrest
      omega

private theorem lead_le_longestRun {q : Char} {b s : List Char} (h : b <:+ s) : lead q b ≤ longestRun q s := by
  have hfold : ∀ {s : List Char} {p : Nat × Nat}, b <:+ s → p.1 ≤ p.2 → lead q b ≤ (s.foldl (countRun q) p).2 := by
    intro s
    induction s with
    | nil =>
      intro p hb _
      rw [List.suffix_nil.1 hb]
      exact Nat.zero_le _
    | cons c s ih =>
      intro p hb hp
      rcases List.suffix_cons_iff.1 hb with rfl | hb
      · have hmax := max_le_foldl_countRun q (c :: s) hp
        omega
      · rw [List.foldl_cons]
        refine ih hb ?_
        unfold countRun
        exact Nat.le_max_right _ _
  exact hfold h (Nat.le_refl _)

private theorem not_mem_of_longestRun {q : Char} {s : List Char} (h : longestRun q s = 0) : q ∉ s := by
  intro hmem
  obtain ⟨a, b, rfl⟩ := List.append_of_mem hmem
  have hlead := lead_le_longestRun (q := q) (List.suffix_append a (q :: b))
  rw [lead_cons_self] at hlead
  omega

/-! ### One character with its escape -/

/-- The escapes of one letter, each with the character that it stands for. -/
def shortEscapes : List (Char × Char) :=
  [('"', '"'), ('b', Char.ofNat 8), ('t', '\t'), ('n', '\n'), ('f', Char.ofNat 12), ('r', '\r'), ('\\', '\\')]

/-- How a character is written between double quotes, `run` of which stand right before it, and how many of them stand
before the next one. -/
inductive Form (multiline : Bool) (run : Nat) (c : Char) : List Char → Nat → Prop
  | quote (hc : c = '"') (hmultiline : multiline = true) (hrun : run < 2) : Form multiline run c [c] (run + 1)
  | short {y : Char} (hy : (y, c) ∈ shortEscapes) : Form multiline run c ['\\', y] 0
  | number (hc : c.toNat < 0x20 ∨ c.toNat = 0x7F) :
    Form multiline run c ('\\' :: 'u' :: '0' :: '0' :: (Text.hexByte c.toNat).map Char.toUpper) 0
  | plain (hquote : c ≠ '"') (hslash : c ≠ '\\') (hreturn : c ≠ '\r') (hc : isForbidden multiline c = false)
    (hnewline : c = '\n' → multiline = true) : Form multiline run c [c] 0

private theorem exists_form (multiline : Bool) (run : Nat) (c : Char) :
    ∃ t next, Form multiline run c t next ∧ ∀ s, escaped multiline run (c :: s) = t ++ escaped multiline next s := by
  have hchar : ∀ n, c.toNat = n → c = Char.ofNat n := fun n h => by rw [← h, Char.ofNat_toNat]
  have hshort : ∀ {y : Char}, (y, c) ∈ shortEscapes →
      (∀ s, escaped multiline run (c :: s) = '\\' :: y :: escaped multiline 0 s) →
      ∃ t next, Form multiline run c t next ∧ ∀ s, escaped multiline run (c :: s) = t ++ escaped multiline next s :=
    fun hy hs => ⟨_, _, .short hy, hs⟩
  by_cases hquote : c = '"'
  · subst hquote
    by_cases hrun : (if multiline = true then 2 else 0) < run + 1
    · exact hshort (y := '"') (by decide) fun s => by simp [escaped, hrun]
    · have hmultiline : multiline = true := by
        by_contra hm
        rw [if_neg hm] at hrun
        omega
      subst hmultiline
      rw [if_pos rfl] at hrun
      exact ⟨_, _, .quote rfl rfl (by omega), fun s => by simp [escaped, hrun]⟩
  · by_cases hnewline : c = '\n' ∧ multiline = true
    · obtain ⟨rfl, rfl⟩ := hnewline
      exact ⟨_, _, .plain hquote (by decide) (by decide) (by decide) (fun _ => rfl), fun s => by simp [escaped]⟩
    · have hopen : ∀ s, escaped multiline run (c :: s) =
          if c.toNat == 8 then '\\' :: 'b' :: escaped multiline 0 s
          else if c == '\t' then '\\' :: 't' :: escaped multiline 0 s
          else if c == '\n' then '\\' :: 'n' :: escaped multiline 0 s
          else if c.toNat == 12 then '\\' :: 'f' :: escaped multiline 0 s
          else if c == '\r' then '\\' :: 'r' :: escaped multiline 0 s
          else if c == '\\' then '\\' :: '\\' :: escaped multiline 0 s
          else if c.toNat < 0x20 || c.toNat == 0x7F then
            '\\' :: 'u' :: '0' :: '0' :: (Text.hexByte c.toNat).map Char.toUpper ++ escaped multiline 0 s
          else c :: escaped multiline 0 s := by
        intro s
        rw [escaped, if_neg (by simpa using hquote), if_neg (by simpa using hnewline)]
      by_cases hbackspace : c.toNat = 8
      · exact hshort (y := 'b') (hchar 8 hbackspace ▸ by decide) fun s => by simp [hopen, hbackspace]
      by_cases htab : c = '\t'
      · subst htab
        exact hshort (y := 't') (by decide) fun s => by simp [hopen]
      by_cases hfeed : c = '\n'
      · subst hfeed
        exact hshort (y := 'n') (by decide) fun s => by simp [hopen]
      by_cases hpage : c.toNat = 12
      · exact hshort (y := 'f') (hchar 12 hpage ▸ by decide) fun s => by simp [hopen, hpage, htab, hfeed]
      by_cases hreturn : c = '\r'
      · subst hreturn
        exact hshort (y := 'r') (by decide) fun s => by simp [hopen]
      by_cases hslash : c = '\\'
      · subst hslash
        exact hshort (y := '\\') (by decide) fun s => by simp [hopen]
      by_cases hcontrol : c.toNat < 0x20 ∨ c.toNat = 0x7F
      · exact ⟨_, _, .number hcontrol, fun s => by
          simp [hopen, hbackspace, htab, hfeed, hpage, hreturn, hslash, hcontrol]⟩
      · have hplain : isForbidden multiline c = false := by
          simp only [not_or] at hcontrol
          simp [isForbidden, hcontrol]
        exact ⟨_, _, .plain hquote hslash hreturn hplain fun h => absurd h hfeed, fun s => by
          simp [hopen, hbackspace, htab, hfeed, hpage, hreturn, hslash, hcontrol]⟩

private theorem ne_newline_of_mem_shortEscapes {y c : Char} (h : (y, c) ∈ shortEscapes) : y ≠ '\n' := by
  simp only [shortEscapes, List.mem_cons, Prod.mk.injEq, List.not_mem_nil, or_false] at h
  rcases h with ⟨rfl, -⟩ | ⟨rfl, -⟩ | ⟨rfl, -⟩ | ⟨rfl, -⟩ | ⟨rfl, -⟩ | ⟨rfl, -⟩ | ⟨rfl, -⟩ <;> decide

private theorem isPlain_of_mem_hexByte {x : Char} {n : Nat} (h : x ∈ (Text.hexByte n).map Char.toUpper) :
    x ≠ '"' ∧ x ≠ '\n' ∧ x ≠ '\\' := by
  have hdigit : ∀ i : Fin 16, (Text.hexDigit i).toUpper ≠ '"' ∧ (Text.hexDigit i).toUpper ≠ '\n' ∧
      (Text.hexDigit i).toUpper ≠ '\\' := by decide
  simp only [Text.hexByte, List.map_cons, List.map_nil, List.mem_cons, List.not_mem_nil, or_false] at h
  rcases h with rfl | rfl
  · exact hdigit ⟨n / 16 % 16, by omega⟩
  · exact hdigit ⟨n % 16, by omega⟩

/-! ### Strings on one line -/

private theorem takeString_plain {q c : Char} {escapes : Bool} (hquote : c ≠ q) (hnewline : c ≠ '\n')
    (hslash : c ≠ '\\' ∨ escapes = false) (rest : List Char) :
    takeString q escapes (c :: rest) = c :: takeString q escapes rest := by
  have hescape : ¬(c == '\\' && escapes) = true := by
    rcases hslash with h | rfl <;> simp [*]
  conv => lhs; unfold takeString
  rw [if_neg (by simpa using hquote), if_neg (by simpa using hnewline), if_neg hescape]

private theorem takeString_append {q : Char} {escapes : Bool} {s : List Char}
    (hs : ∀ c ∈ s, c ≠ q ∧ c ≠ '\n' ∧ (c ≠ '\\' ∨ escapes = false)) (rest : List Char) :
    takeString q escapes (s ++ rest) = s ++ takeString q escapes rest := by
  induction s with
  | nil => rfl
  | cons c s ih =>
    obtain ⟨hquote, hnewline, hslash⟩ := hs c List.mem_cons_self
    rw [List.cons_append, takeString_plain hquote hnewline hslash, ih fun c hc => hs c (List.mem_cons_of_mem _ hc),
      List.cons_append]

private theorem takeString_close {q : Char} {escapes : Bool} (rest : List Char) :
    takeString q escapes (q :: rest) = [q] := by
  unfold takeString
  exact if_pos (beq_self_eq_true q)

/-- A character behind a backslash ends nothing. -/
private theorem takeString_escape {y : Char} (hy : y ≠ '\n') (rest : List Char) :
    takeString '"' true ('\\' :: y :: rest) = '\\' :: y :: takeString '"' true rest := by
  conv => lhs; unfold takeString
  rw [if_neg (by decide), if_neg (by decide), if_pos (by decide)]
  dsimp only
  rw [if_neg (by simpa using hy)]

private theorem takeString_escaped (s : List Char) (run : Nat) (rest : List Char) :
    takeString '"' true (escaped false run s ++ '"' :: rest) = escaped false run s ++ ['"'] := by
  induction s generalizing run with
  | nil => exact takeString_close rest
  | cons c s ih =>
    obtain ⟨t, next, hform, ht⟩ := exists_form false run c
    rw [ht, List.append_assoc, List.append_assoc, ← ih next]
    cases hform with
    | quote _ hmultiline => cases hmultiline
    | short hy => exact takeString_escape (ne_newline_of_mem_shortEscapes hy) _
    | number =>
      have hdigits : ∀ x ∈ '0' :: '0' :: (Text.hexByte c.toNat).map Char.toUpper,
          x ≠ '"' ∧ x ≠ '\n' ∧ (x ≠ '\\' ∨ true = false) := by
        intro x hx
        simp only [List.mem_cons] at hx
        rcases hx with rfl | rfl | hx
        · decide
        · decide
        · obtain ⟨hquote, hnewline, hslash⟩ := isPlain_of_mem_hexByte hx
          exact ⟨hquote, hnewline, .inl hslash⟩
      exact (takeString_escape (by decide) _).trans (congrArg (fun u => '\\' :: 'u' :: u) (takeString_append hdigits _))
    | plain hquote hslash _ _ hnewline =>
      exact takeString_plain hquote (fun h => absurd (hnewline h) Bool.false_ne_true) (.inl hslash) _

/-! ### Strings over several lines -/

private theorem takeLongString_plain {q c : Char} {escapes : Bool} (hquote : c ≠ q)
    (hslash : c ≠ '\\' ∨ escapes = false)
    (rest : List Char) : takeLongString q escapes (c :: rest) = c :: takeLongString q escapes rest := by
  have hescape : ¬(c == '\\' && escapes) = true := by
    rcases hslash with h | rfl <;> simp [*]
  conv => lhs; unfold takeLongString
  rw [if_neg (by simpa using hquote), if_neg hescape]

private theorem takeLongString_append {q : Char} {escapes : Bool} {s : List Char}
    (hs : ∀ c ∈ s, c ≠ q ∧ (c ≠ '\\' ∨ escapes = false)) (rest : List Char) :
    takeLongString q escapes (s ++ rest) = s ++ takeLongString q escapes rest := by
  induction s with
  | nil => rfl
  | cons c s ih =>
    obtain ⟨hquote, hslash⟩ := hs c List.mem_cons_self
    rw [List.cons_append, takeLongString_plain hquote hslash, ih fun c hc => hs c (List.mem_cons_of_mem _ hc),
      List.cons_append]

private theorem takeLongString_escape (y : Char) (rest : List Char) :
    takeLongString '"' true ('\\' :: y :: rest) = '\\' :: y :: takeLongString '"' true rest := by
  conv => lhs; unfold takeLongString
  rw [if_neg (by decide), if_pos (by decide)]

section

variable {q : Char} {escapes : Bool} {rest : List Char} (hrest : ∀ c ∈ rest.head?, c ≠ q)
include hrest

/-- Up to two quotes in front of the closing ones belong to the string. -/
private theorem takeLongString_close {k : Nat} (hk : k ≤ 2) :
    takeLongString q escapes (List.replicate k q ++ (triple q ++ rest)) = List.replicate k q ++ triple q := by
  have htake : rest.takeWhile (· == q) = [] := List.eq_nil_of_length_eq_zero (lead_eq_zero hrest)
  have hall : ∀ c ∈ List.replicate k q ++ triple q, (c == q) = true := by
    intro c hc
    rw [show triple q = List.replicate 3 q from rfl, List.replicate_append_replicate] at hc
    rw [List.eq_of_mem_replicate hc, beq_self_eq_true]
  obtain ⟨c, cs, hcons⟩ := List.exists_cons_of_ne_nil (l := List.replicate k q ++ triple q)
    (List.append_ne_nil_of_right_ne_nil _ (List.cons_ne_nil _ _))
  have hlength : (c :: cs).length = k + 3 := by
    rw [← hcons, List.length_append, List.length_replicate]
    rfl
  have hrun : (c :: (cs ++ rest)).takeWhile (· == q) = c :: cs := by
    rw [← List.cons_append, ← hcons, List.takeWhile_append_of_pos hall, htake, List.append_nil]
  rw [← List.append_assoc, hcons, List.cons_append]
  unfold takeLongString
  rw [if_pos (hall c (hcons ▸ List.mem_cons_self)), hrun, if_pos (by omega), List.take_of_length_le (by omega)]

/-- A quote inside a string that is no part of three in a row. -/
private theorem takeLongString_quote {t : List Char} (ht : lead q (q :: t) ≤ 2)
    (h : takeLongString q escapes (t ++ (triple q ++ rest)) = t ++ triple q) :
    takeLongString q escapes (q :: t ++ (triple q ++ rest)) = q :: t ++ triple q := by
  by_cases hall : ((q :: t).takeWhile (· == q)).length = (q :: t).length
  · have heq : q :: t = List.replicate (lead q (q :: t)) q := by
      refine List.eq_replicate_iff.2 ⟨hall.symm, fun c hc => ?_⟩
      rw [← (List.takeWhile_prefix (· == q)).eq_of_length hall] at hc
      exact eq_of_beq (List.mem_takeWhile_imp (p := (· == q)) hc)
    rw [heq]
    exact takeLongString_close hrest ht
  · have hrun : (q :: (t ++ (triple q ++ rest))).takeWhile (· == q) = (q :: t).takeWhile (· == q) := by
      rw [← List.cons_append, List.takeWhile_append, if_neg hall]
    rw [List.cons_append]
    conv => lhs; unfold takeLongString
    rw [if_pos (beq_self_eq_true q), hrun]
    exact (if_neg (Nat.not_le_of_lt (Nat.lt_succ_of_le ht))).trans (congrArg _ h)

private theorem takeLongString_literal {s : List Char} (hs : ∀ b, b <:+ s → lead q b ≤ 2) :
    takeLongString q false (s ++ (triple q ++ rest)) = s ++ triple q := by
  induction s with
  | nil => exact takeLongString_close hrest (Nat.zero_le 2)
  | cons c s ih =>
    have htail := ih fun b hb => hs b (List.suffix_cons_iff.2 (.inr hb))
    by_cases hc : c = q
    · subst hc
      exact takeLongString_quote hrest (hs _ (List.suffix_refl _)) htail
    · rw [List.cons_append, takeLongString_plain hc (.inr rfl), htail, List.cons_append]

end

/-- Of three quotes in a row one is escaped. -/
private theorem lead_escaped (s : List Char) {run : Nat} (hrun : run ≤ 2) :
    lead '"' (escaped true run s) + run ≤ 2 := by
  induction s generalizing run with
  | nil => exact (Nat.zero_add run).symm ▸ hrun
  | cons c s ih =>
    obtain ⟨t, next, hform, ht⟩ := exists_form true run c
    rw [ht]
    cases hform with
    | quote hc _ hlt =>
      subst hc
      have hrest : lead '"' (escaped true (run + 1) s) + (run + 1) ≤ 2 := ih hlt
      rw [List.singleton_append, lead_cons_self]
      omega
    | short =>
      rw [List.cons_append, lead_cons_of_ne (by decide), Nat.zero_add]
      exact hrun
    | number =>
      rw [List.cons_append, lead_cons_of_ne (by decide), Nat.zero_add]
      exact hrun
    | plain hquote =>
      rw [List.singleton_append, lead_cons_of_ne hquote, Nat.zero_add]
      exact hrun

private theorem takeLongString_escaped {rest : List Char} (hrest : ∀ c ∈ rest.head?, c ≠ '"') (s : List Char)
    {run : Nat} (hrun : run ≤ 2) :
    takeLongString '"' true (escaped true run s ++ (triple '"' ++ rest)) = escaped true run s ++ triple '"' := by
  induction s generalizing run with
  | nil => exact takeLongString_close hrest (Nat.zero_le 2)
  | cons c s ih =>
    obtain ⟨t, next, hform, ht⟩ := exists_form true run c
    have hlead := lead_escaped (c :: s) hrun
    rw [ht] at hlead ⊢
    cases hform with
    | quote hc _ hlt =>
      subst hc
      exact takeLongString_quote hrest (Nat.le_of_add_right_le hlead) (ih hlt)
    | short hy => exact (takeLongString_escape _ _).trans (congrArg _ (congrArg _ (ih (Nat.zero_le 2))))
    | number =>
      have hdigits : ∀ x ∈ '0' :: '0' :: (Text.hexByte c.toNat).map Char.toUpper,
          x ≠ '"' ∧ (x ≠ '\\' ∨ true = false) := by
        intro x hx
        simp only [List.mem_cons] at hx
        rcases hx with rfl | rfl | hx
        · decide
        · decide
        · obtain ⟨hquote, -, hslash⟩ := isPlain_of_mem_hexByte hx
          exact ⟨hquote, .inl hslash⟩
      rw [List.append_assoc, List.append_assoc, ← ih (Nat.zero_le 2)]
      exact (takeLongString_escape _ _).trans (congrArg (fun u => '\\' :: 'u' :: u) (takeLongString_append hdigits _))
    | plain hquote hslash =>
      exact (takeLongString_plain hquote (.inl hslash) _).trans (congrArg _ (ih (Nat.zero_le 2)))

/-! ### Escapes resolved -/

section

variable {multiline : Bool} {name : String} {fuel place : Nat} {rest s : List Char}

private theorem unescape_plain {c : Char} (hc : isForbidden multiline c = false) (hslash : c ≠ '\\')
    (h : unescape multiline name fuel (place + 1) rest = .ok s) :
    unescape multiline name (fuel + 1) place (c :: rest) = .ok (c :: s) := by
  unfold unescape
  rw [if_neg (by rw [hc]; exact Bool.false_ne_true), if_pos (by simpa using hslash), h]
  rfl

private theorem unescape_short {y c : Char} (hy : (y, c) ∈ shortEscapes)
    (h : unescape multiline name fuel (place + 2) rest = .ok s) :
    unescape multiline name (fuel + 1) place ('\\' :: y :: rest) = .ok (c :: s) := by
  have hslash : isForbidden multiline '\\' = false := by cases multiline <;> decide
  unfold unescape
  rw [if_neg (by rw [hslash]; exact Bool.false_ne_true), if_neg (by decide)]
  simp only [shortEscapes, List.mem_cons, Prod.mk.injEq, List.not_mem_nil, or_false] at hy
  rcases hy with ⟨rfl, rfl⟩ | ⟨rfl, rfl⟩ | ⟨rfl, rfl⟩ | ⟨rfl, rfl⟩ | ⟨rfl, rfl⟩ | ⟨rfl, rfl⟩ | ⟨rfl, rfl⟩ <;>
    simp [h, bind, Except.bind]

private theorem hexValue?_toUpper {n : Nat} (h : n < 16) : Text.hexValue? (Text.hexDigit n).toUpper = some n :=
  (by decide : ∀ i : Fin 16, Text.hexValue? (Text.hexDigit i).toUpper = some i.1) ⟨n, h⟩

private theorem charOf?_toNat (c : Char) : charOf? c.toNat = some c := by
  unfold charOf?
  exact dif_pos c.valid

/-- Four digits in base sixteen give the character they number. -/
private theorem numbered_hexByte {c : Char} (hc : c.toNat < 256) (start : Nat) (rest : List Char) :
    numbered 4 start ('0' :: '0' :: (Text.hexByte c.toNat).map Char.toUpper ++ rest) = .ok c := by
  have hhigh := hexValue?_toUpper (n := c.toNat / 16 % 16) (Nat.mod_lt _ (by decide))
  have hlow := hexValue?_toUpper (n := c.toNat % 16) (Nat.mod_lt _ (by decide))
  have hvalue : 16 * (16 * (16 * (16 * 0 + 0) + 0) + c.toNat / 16 % 16) + c.toNat % 16 = c.toNat := by omega
  have hzero : Text.hexValue? '0' = some 0 := by decide
  unfold numbered
  simp only [Text.hexByte, List.map_cons, List.map_nil, List.cons_append, List.nil_append, List.take_succ_cons,
    List.take_zero, List.takeWhile_cons, hhigh, hlow, hzero, Option.isSome_some, if_true, List.takeWhile_nil,
    List.length_cons, List.length_nil, Nat.reduceAdd, Nat.lt_irrefl, if_false]
  simp only [hexNumber, List.foldl_cons, List.foldl_nil, hhigh, hlow, hzero, Option.getD_some]
  rw [hvalue, charOf?_toNat]

private theorem unescape_number {c : Char} (hc : c.toNat < 256)
    (h : unescape multiline name fuel (place + 6) rest = .ok s) :
    unescape multiline name (fuel + 1) place
      ('\\' :: 'u' :: '0' :: '0' :: (Text.hexByte c.toNat).map Char.toUpper ++ rest) = .ok (c :: s) := by
  have hslash : isForbidden multiline '\\' = false := by cases multiline <;> decide
  have hdrop : ('0' :: '0' :: (Text.hexByte c.toNat).map Char.toUpper ++ rest).drop 4 = rest := rfl
  have hread := numbered_hexByte hc (place + 2) rest
  rw [List.cons_append, List.cons_append]
  unfold unescape
  rw [if_neg (by rw [hslash]; exact Bool.false_ne_true), if_neg (by decide)]
  change (numbered 4 (place + 2) _ >>= fun x =>
    unescape multiline name fuel (place + 2 + 4) (List.drop 4 _) >>= fun s => _) = _
  rw [hread, hdrop]
  change (unescape multiline name fuel (place + 6) rest >>= fun s => _) = _
  rw [h]
  rfl

end

private theorem unescape_escaped (multiline : Bool) (name : String) (s : List Char) : ∀ {run fuel place : Nat},
    (escaped multiline run s).length ≤ fuel → unescape multiline name fuel place (escaped multiline run s) = .ok s := by
  induction s with
  | nil =>
    intro run fuel place _
    cases fuel <;> rfl
  | cons c s ih =>
    intro run fuel place hfuel
    obtain ⟨t, next, hform, ht⟩ := exists_form multiline run c
    rw [ht] at hfuel ⊢
    rw [List.length_append] at hfuel
    have hpos : 0 < t.length := by cases hform <;> exact Nat.succ_pos _
    obtain ⟨fuel, rfl⟩ : ∃ k, fuel = k + 1 := ⟨fuel - 1, by omega⟩
    have hrest : (escaped multiline next s).length ≤ fuel := by omega
    cases hform with
    | quote hc =>
      subst hc
      exact unescape_plain (by cases multiline <;> decide) (by decide) (ih hrest)
    | short hy => exact unescape_short hy (ih hrest)
    | number hc => exact unescape_number (by omega) (ih hrest)
    | plain _ hslash _ hc => exact unescape_plain hc hslash (ih hrest)

/-! ### What strings stand for -/

/-- A string with its quotes stands for what is between them. -/
private theorem quoted_enclosed {n : Nat} {escapes : Bool} {q : Char} (inner : List Char) {s : String}
    (hq : (if escapes then '"' else apostrophe) = q)
    (h : ∀ name place,
      readBody (n == 3) escapes name place (if n == 3 then dropNewline inner else (inner, 0)).1 = .ok s)
    (k : TokenKind) (span : Span) :
    Written.quoted ⟨k, span, List.replicate n q ++ inner ++ List.replicate n q⟩ n escapes = .ok s := by
  have hdrop : (List.replicate n q ++ inner ++ List.replicate n q).drop n = inner ++ List.replicate n q := by
    rw [List.append_assoc, List.drop_left' List.length_replicate]
  have hlength : (inner ++ List.replicate n q).length - n = inner.length := by
    rw [List.length_append, List.length_replicate, Nat.add_sub_cancel]
  unfold Written.quoted
  dsimp only
  rw [hdrop, hlength, List.take_left, List.drop_left, hq, bne_self_eq_false, if_neg Bool.false_ne_true]
  exact h _ _

private theorem readBody_escaped (multiline : Bool) (name : String) (place run : Nat) (s : List Char) :
    readBody multiline true name place (escaped multiline run s) = .ok (String.ofList s) := by
  unfold readBody
  rw [if_pos rfl, unescape_escaped multiline name s (Nat.le_succ _)]
  rfl

private theorem readBody_literal {multiline : Bool} {s : List Char} (hs : ∀ c ∈ s, isForbidden multiline c = false)
    (name : String) (place : Nat) : readBody multiline false name place s = .ok (String.ofList s) := by
  have hnone : s.findIdx? (isForbidden multiline) = none := List.findIdx?_eq_none_iff.2 hs
  unfold readBody
  rw [if_neg Bool.false_ne_true, hnone]

private theorem dropNewline_of {s : List Char} (h : ∀ c ∈ s.head?, c ≠ '\n' ∧ c ≠ '\r') : (dropNewline s).1 = s := by
  unfold dropNewline
  split
  · exact absurd rfl (h '\n' rfl).1
  · exact absurd rfl (h '\r' rfl).2
  · rfl

private theorem string_basic (s : List Char) (span : Span) :
    Written.string ⟨.basic, span, basic s⟩ = .ok (String.ofList s) :=
  quoted_enclosed (n := 1) (escaped false 0 s) rfl (fun name place => readBody_escaped false name place 0 s) .basic span

private theorem string_literal {s : List Char} (hs : ∀ c ∈ s, isForbidden false c = false) (span : Span) :
    Written.string ⟨.literal, span, literal s⟩ = .ok (String.ofList s) :=
  quoted_enclosed (n := 1) s rfl (fun name place => readBody_literal hs name place) .literal span

/-- A carriage return is escaped, and so the text starts with a line end just if the string does. -/
private theorem head_escaped {s : List Char} (hs : '\n' ∉ s) (multiline : Bool) :
    ∀ c ∈ (escaped multiline 0 s).head?, c ≠ '\n' ∧ c ≠ '\r' := by
  cases s with
  | nil => exact fun c h => absurd h (Option.not_mem_none c)
  | cons c s =>
    obtain ⟨t, next, hform, ht⟩ := exists_form multiline 0 c
    rw [ht]
    intro x hx
    cases hform with
    | quote hc =>
      cases hx
      rw [hc]
      decide
    | short =>
      cases hx
      decide
    | number =>
      cases hx
      decide
    | plain _ _ hreturn =>
      cases hx
      exact ⟨fun h => hs (h ▸ List.mem_cons_self), hreturn⟩

private theorem string_multilineBasic {newline : Bool} {s : List Char} (hs : newline = false → '\n' ∉ s) (span : Span) :
    Written.string ⟨.multilineBasic, span, multilineBasic newline s⟩ = .ok (String.ofList s) := by
  have hbody : (dropNewline ((if newline then ['\n'] else []) ++ escaped true 0 s)).1 = escaped true 0 s := by
    cases newline with
    | true => rfl
    | false => exact dropNewline_of (head_escaped (hs rfl) true)
  have hread := quoted_enclosed (n := 3) ((if newline then ['\n'] else []) ++ escaped true 0 s) rfl
    (fun name place => (congrArg _ hbody).trans (readBody_escaped true name place 0 s)) .multilineBasic span
  rwa [← List.append_assoc] at hread

/-- No control character but the line feed is left to be refused where several lines are allowed. -/
private theorem isForbidden_eq_false {multiline : Bool} {c : Char} (hc : isControl c = false)
    (hnewline : c = '\n' → multiline = true) : isForbidden multiline c = false := by
  simp only [isControl, isForbidden, Bool.or_eq_false_iff, Bool.and_eq_false_iff] at hc ⊢
  refine ⟨?_, hc.2⟩
  rcases hc.1 with (hlow | htab) | hfeed
  · exact .inl (.inl hlow)
  · exact .inl (.inr htab)
  · have hline : c = '\n' := by simpa using hfeed
    subst hline
    rw [hnewline rfl]
    exact .inr rfl

private theorem string_multilineLiteral {newline : Bool} {s : List Char} (hs : ∀ c ∈ s, isControl c = false)
    (hnewline : newline = false → '\n' ∉ s) (span : Span) :
    Written.string ⟨.multilineLiteral, span, multilineLiteral newline s⟩ = .ok (String.ofList s) := by
  have hbody : (dropNewline ((if newline then ['\n'] else []) ++ s)).1 = s := by
    cases newline with
    | true => rfl
    | false =>
      refine dropNewline_of fun c hc => ⟨fun h => hnewline rfl (h ▸ List.mem_of_mem_head? hc), fun h => ?_⟩
      have hcontrol := hs c (List.mem_of_mem_head? hc)
      rw [h] at hcontrol
      revert hcontrol
      decide
  have hforbidden : ∀ c ∈ s, isForbidden true c = false := fun c hc => isForbidden_eq_false (hs c hc) fun _ => rfl
  have hread := quoted_enclosed (n := 3) ((if newline then ['\n'] else []) ++ s) rfl
    (fun name place => (congrArg _ hbody).trans (readBody_literal hforbidden name place)) .multilineLiteral span
  rwa [← List.append_assoc] at hread

/-! ### Tokens of strings -/

/-- The two quotes, with the kinds of token that they open. -/
def openings : List (Char × Bool × TokenKind × TokenKind) :=
  [('"', true, .basic, .multilineBasic), (apostrophe, false, .literal, .multilineLiteral)]

private theorem basic_mem_openings : ('"', true, .basic, .multilineBasic) ∈ openings := List.mem_cons_self

private theorem literal_mem_openings : (apostrophe, false, .literal, .multilineLiteral) ∈ openings :=
  List.mem_cons_of_mem _ List.mem_cons_self

/-- A quote without two more behind it opens a string on one line. -/
private theorem firstToken_short {q : Char} {escapes : Bool} {short long : TokenKind}
    (hq : (q, escapes, short, long) ∈ openings)
    {rest : List Char} (hrest : ∀ more, rest ≠ q :: q :: more) (start : Nat) :
    firstToken start q rest = ⟨short, start, q :: takeString q escapes rest⟩ := by
  simp only [openings, List.mem_cons, Prod.mk.injEq, List.not_mem_nil, or_false] at hq
  rcases rest with - | ⟨a, - | ⟨b, more⟩⟩
  · rcases hq with ⟨rfl, rfl, rfl, rfl⟩ | ⟨rfl, rfl, rfl, rfl⟩ <;> rfl
  · rcases hq with ⟨rfl, rfl, rfl, rfl⟩ | ⟨rfl, rfl, rfl, rfl⟩ <;> rfl
  · have hother : ¬(a == q && b == q) = true := by
      intro h
      simp only [Bool.and_eq_true, beq_iff_eq] at h
      exact hrest more (by rw [h.1, h.2])
    rcases hq with ⟨rfl, rfl, rfl, rfl⟩ | ⟨rfl, rfl, rfl, rfl⟩ <;> exact if_neg hother

/-- Three quotes open a string over several lines. -/
private theorem firstToken_long {q : Char} {escapes : Bool} {short long : TokenKind}
    (hq : (q, escapes, short, long) ∈ openings) (rest : List Char) (start : Nat) :
    firstToken start q (q :: q :: rest) = ⟨long, start, q :: q :: q :: takeLongString q escapes rest⟩ := by
  simp only [openings, List.mem_cons, Prod.mk.injEq, List.not_mem_nil, or_false] at hq
  rcases hq with ⟨rfl, rfl, rfl, rfl⟩ | ⟨rfl, rfl, rfl, rfl⟩ <;> rfl

/-- A character that opens or closes a string. -/
def IsQuote (c : Char) : Prop := c = '"' ∨ c = apostrophe

/-- A text that is one token of a string in front of anything but a quote, and stands for the string `s`. -/
structure Quoted (k : TokenKind) (cs s : List Char) : Prop where
  isString : isString k = true
  token : ∃ c rest, cs = c :: rest ∧ IsQuote c ∧ ∀ (start : Nat) (more : List Char),
    (∀ x ∈ more.head?, ¬IsQuote x) → firstToken start c (rest ++ more) = ⟨k, start, cs⟩
  string : ∀ span, Written.string ⟨k, span, cs⟩ = .ok (String.ofList s)

/-- A quote is followed by two more just where a text that is not empty starts with two. -/
private theorem ne_two_quotes {q : Char} {s more : List Char} (hs : ∀ c ∈ s.head?, c ≠ q)
    (hmore : ∀ x ∈ more.head?, x ≠ q) (rest : List Char) : s ++ q :: more ≠ q :: q :: rest := by
  intro h
  cases s with
  | nil =>
    have htail : more = q :: rest := (List.cons.inj h).2
    exact hmore q (by rw [htail]; rfl) rfl
  | cons c s => exact hs c rfl (List.cons.inj h).1

private theorem quoted_basic (s : List Char) : Quoted .basic (basic s) s where
  isString := rfl
  token := by
    refine ⟨'"', escaped false 0 s ++ ['"'], rfl, .inl rfl, fun start more hmore => ?_⟩
    have hhead : ∀ c ∈ (escaped false 0 s).head?, c ≠ '"' := by
      intro x hx
      cases s with
      | nil => cases hx
      | cons c s =>
        obtain ⟨t, next, hform, ht⟩ := exists_form false 0 c
        rw [ht] at hx
        cases hform with
        | quote _ hmultiline => cases hmultiline
        | short =>
          cases hx
          decide
        | number =>
          cases hx
          decide
        | plain hquote =>
          cases hx
          exact hquote
    rw [List.append_assoc, List.singleton_append,
      firstToken_short basic_mem_openings
        (ne_two_quotes hhead fun x hx h => hmore x hx (.inl h)), takeString_escaped]
    rfl
  string := string_basic s

private theorem quoted_literal {s : List Char} (hs : ∀ c ∈ s, isControl c = false) (hnewline : '\n' ∉ s)
    (hq : apostrophe ∉ s) :
    Quoted .literal (literal s) s where
  isString := rfl
  token := by
    refine ⟨apostrophe, s ++ [apostrophe], rfl, .inr rfl, fun start more hmore => ?_⟩
    have hplain : ∀ c ∈ s, c ≠ apostrophe ∧ c ≠ '\n' ∧ (c ≠ '\\' ∨ false = false) :=
      fun c hc => ⟨fun h => hq (h ▸ hc), fun h => hnewline (h ▸ hc), .inr rfl⟩
    rw [List.append_assoc, List.singleton_append,
      firstToken_short literal_mem_openings
        (ne_two_quotes (fun c hc => (hplain c (List.mem_of_mem_head? hc)).1) fun x hx h => hmore x hx (.inr h)),
      takeString_append hplain, takeString_close]
    rfl
  string := string_literal fun c hc => isForbidden_eq_false (hs c hc) fun h => absurd (h ▸ hc) hnewline

/-- A string over several lines is one token, with or without a line end behind its opening quotes. -/
private theorem exists_token_long {q : Char} {escapes : Bool} {short long : TokenKind}
    (hq : (q, escapes, short, long) ∈ openings)
    {body : List Char} (hbody : ∀ more : List Char, (∀ x ∈ more.head?, x ≠ q) →
      takeLongString q escapes (body ++ (triple q ++ more)) = body ++ triple q) (newline : Bool) :
    ∃ c rest, triple q ++ (if newline then ['\n'] else []) ++ body ++ triple q = c :: rest ∧ IsQuote c ∧
      ∀ (start : Nat) (more : List Char), (∀ x ∈ more.head?, ¬IsQuote x) → firstToken start c (rest ++ more) =
        ⟨long, start, triple q ++ (if newline then ['\n'] else []) ++ body ++ triple q⟩ := by
  have hchars : triple q ++ (if newline then ['\n'] else []) ++ body ++ triple q =
      q :: q :: q :: ((if newline then ['\n'] else []) ++ (body ++ triple q)) := by
    rw [List.append_assoc, List.append_assoc]
    rfl
  have hquote : IsQuote q ∧ q ≠ '\n' := by
    simp only [openings, List.mem_cons, Prod.mk.injEq, List.not_mem_nil, or_false] at hq
    rcases hq with ⟨rfl, -⟩ | ⟨rfl, -⟩
    · exact ⟨.inl rfl, by decide⟩
    · exact ⟨.inr rfl, by decide⟩
  have hlead : ∀ c ∈ (if newline then ['\n'] else []), c ≠ q ∧ (c ≠ '\\' ∨ escapes = false) := by
    intro c hc
    cases newline with
    | true =>
      rw [List.mem_singleton.1 hc]
      exact ⟨hquote.2.symm, .inl (by decide)⟩
    | false => cases hc
  refine ⟨q, _, hchars, hquote.1, fun start more hmore => ?_⟩
  have htake := hbody more fun x hx h => hmore x hx (h ▸ hquote.1)
  rw [hchars, List.cons_append, List.cons_append, firstToken_long hq, List.append_assoc, List.append_assoc,
    takeLongString_append hlead, htake]

private theorem quoted_multilineBasic {newline : Bool} {s : List Char} (hs : newline = false → '\n' ∉ s) :
    Quoted .multilineBasic (multilineBasic newline s) s where
  isString := rfl
  token := exists_token_long basic_mem_openings
    (fun _ hmore => takeLongString_escaped hmore s (Nat.zero_le 2)) newline
  string := string_multilineBasic hs

private theorem quoted_multilineLiteral {newline : Bool} {s : List Char} (hs : ∀ c ∈ s, isControl c = false)
    (hnewline : newline = false → '\n' ∉ s) (hq : longestRun apostrophe s ≤ 2) :
    Quoted .multilineLiteral (multilineLiteral newline s) s where
  isString := rfl
  token := exists_token_long literal_mem_openings
    (fun _ hmore => takeLongString_literal hmore fun _ hb => Nat.le_trans (lead_le_longestRun hb) hq) newline
  string := string_multilineLiteral hs hnewline

/-- Whatever form is chosen for a string, it is one token and stands for the string. -/
theorem quoted_stringChars (s : List Char) : ∃ k, Quoted k (stringChars s) s := by
  have hcontrol : (Shape.of s).control = false → ∀ c ∈ s, isControl c = false := by
    intro h c hc
    exact Bool.eq_false_iff.2 fun h' => Bool.eq_false_iff.1 h (List.any_eq_true.2 ⟨c, hc, h'⟩)
  have hnewline : (Shape.of s).newline = false → '\n' ∉ s := by
    intro h hmem
    exact Bool.eq_false_iff.1 h (List.contains_iff_mem.2 hmem)
  unfold stringChars
  dsimp only
  split
  · exact ⟨_, quoted_basic s⟩
  · split
    · rename_i h
      simp only [Bool.and_eq_true, Bool.not_eq_true', decide_eq_true_eq] at h
      exact ⟨_, quoted_literal (hcontrol h.1.1) (hnewline h.2) (not_mem_of_longestRun h.1.2)⟩
    · split
      · exact ⟨_, quoted_multilineBasic hnewline⟩
      · split
        · rename_i h
          simp only [Bool.and_eq_true, Bool.not_eq_true', decide_eq_true_eq] at h
          exact ⟨_, quoted_multilineLiteral (hcontrol h.1) hnewline h.2⟩
        · split
          · exact ⟨_, quoted_multilineBasic fun h => absurd h.symm Bool.false_ne_true⟩
          · exact ⟨_, quoted_basic s⟩

end Sandscript.Toml
