import Sandscript.Json.Printer
import Sandscript.Json.Reader
import Mathlib.Data.List.TakeDrop

/-!
# Words and strings of JSON

A reader is described by what it reads and by the text in front of which it then stands (`Reads`); lines and columns are
of no interest here.  White space is skipped, a word is read as its value, and a string comes back from its quoted form
(`readString_quote`), whichever way each of its characters is written (`escapeChar_cases`).
-/

namespace Sandscript.Json

/-- What a reader gives when it has read `a` and stands in front of `rest`. -/
def Reads {α : Type} (r : Except ReadError (α × Cursor)) (a : α) (rest : List Char) : Prop :=
  ∃ d : Cursor, r = .ok (a, d) ∧ d.rest = rest

/-- What a reader gives when it has read something of no value and stands in front of `rest`. -/
def Passes (r : Except ReadError Cursor) (rest : List Char) : Prop := ∃ d : Cursor, r = .ok d ∧ d.rest = rest

theorem Reads.bind {α β : Type} {r : Except ReadError (α × Cursor)} {a : α} {b : β} {rest rest' : List Char}
    {f : α × Cursor → Except ReadError (β × Cursor)} (hr : Reads r a rest)
    (hf : ∀ d : Cursor, d.rest = rest → Reads (f (a, d)) b rest') : Reads (r >>= f) b rest' := by
  obtain ⟨d, rfl, hd⟩ := hr
  exact hf d hd

theorem Passes.bind {β : Type} {r : Except ReadError Cursor} {b : β} {rest rest' : List Char}
    {f : Cursor → Except ReadError (β × Cursor)} (hr : Passes r rest)
    (hf : ∀ d : Cursor, d.rest = rest → Reads (f d) b rest') : Reads (r >>= f) b rest' := by
  obtain ⟨d, rfl, hd⟩ := hr
  exact hf d hd

def isSpace (c : Char) : Bool := c == '\n' || c == ' ' || c == '\t' || c == '\r'

namespace Cursor

theorem rest_next {c : Cursor} {x : Char} {rest : List Char} (h : c.rest = x :: rest) : c.next.rest = rest := by
  unfold next
  split
  · rename_i hnil
    rw [hnil] at h
    cases h
  · rename_i r hcons
    rw [hcons] at h
    exact (List.cons.inj h).2
  · rename_i y r _ hcons
    rw [hcons] at h
    exact (List.cons.inj h).2

private theorem rest_skipFrom (line column : Nat) (cs : List Char) :
    (skipFrom line column cs).rest = cs.dropWhile isSpace := by
  induction cs generalizing line column with
  | nil => rfl
  | cons x r ih =>
    unfold skipFrom
    by_cases hline : x == '\n'
    · rw [if_pos hline, ih, List.dropWhile_cons_of_pos (by simp only [isSpace, hline, Bool.true_or])]
    · rw [if_neg hline]
      by_cases hspace : (x == ' ' || x == '\t' || x == '\r') = true
      · rw [if_pos hspace, ih, List.dropWhile_cons_of_pos (by simpa [isSpace, hline] using hspace)]
      · rw [if_neg hspace, List.dropWhile_cons_of_neg (by simpa [isSpace, hline] using hspace)]

theorem rest_skipSpace (c : Cursor) : c.skipSpace.rest = c.rest.dropWhile isSpace := rest_skipFrom _ _ _

theorem skipSpace_eq {c : Cursor} {x : Char} {cs : List Char} (h : c.rest = x :: cs) (hx : isSpace x = false) :
    c.skipSpace = c := by
  obtain ⟨rest, line, column⟩ := c
  cases h
  simp only [isSpace, Bool.or_eq_false_iff] at hx
  unfold skipSpace skipFrom
  dsimp only
  rw [hx.1.1.1, hx.1.1.2, hx.1.2, hx.2]
  rfl

/-- White space in front of something else is skipped. -/
theorem rest_skipSpace_of {c : Cursor} {gap : List Char} {x : Char} {rest : List Char}
    (hgap : ∀ y ∈ gap, isSpace y = true) (hx : isSpace x = false) (h : c.rest = gap ++ x :: rest) :
    c.skipSpace.rest = x :: rest := by
  have hspace : ¬isSpace x = true := by
    rw [hx]
    exact Bool.false_ne_true
  rw [rest_skipSpace, h, List.dropWhile_append_of_pos hgap, List.dropWhile_cons_of_neg hspace]

end Cursor

/-! ### Words -/

theorem readWord_append {c : Cursor} {word rest : List Char} (v : Json) (h : c.rest = word ++ rest) :
    Reads (readWord c word v) v rest := by
  induction word generalizing c with
  | nil => exact ⟨c, rfl, h⟩
  | cons w ws ih =>
    unfold readWord
    rw [h]
    dsimp only [List.cons_append]
    rw [if_pos (beq_self_eq_true w)]
    exact ih (Cursor.rest_next h)

/-! ### Strings -/

private theorem rest_advanceBytes {n : Nat} {c : Cursor} {cs rest : List Char} (h : c.rest = cs ++ rest)
    (hbytes : ∀ x ∈ cs, x.utf8Size = 1) (hn : cs.length = n) : (advanceBytes n c).rest = rest := by
  induction cs generalizing n c with
  | nil =>
    cases hn
    unfold advanceBytes
    exact h
  | cons x cs ih =>
    cases hn
    have hx := hbytes x List.mem_cons_self
    rw [List.length_cons, advanceBytes, h]
    dsimp only [List.cons_append]
    rw [if_pos (by omega), hx]
    exact ih (Cursor.rest_next h) (fun y hy => hbytes y (List.mem_cons_of_mem _ hy)) rfl

private theorem bytesLeft_eq_length {cs : List Char} (h : ∀ x ∈ cs, x.utf8Size = 1) : bytesLeft cs = cs.length := by
  induction cs with
  | nil => rfl
  | cons x cs ih =>
    have hrest : bytesLeft cs = cs.length := ih fun y hy => h y (List.mem_cons_of_mem _ hy)
    unfold bytesLeft at hrest ⊢
    rw [String.ofList_cons, String.utf8ByteSize_append, String.utf8ByteSize_singleton, h x List.mem_cons_self, hrest,
      List.length_cons, Nat.add_comm]

/-- Four digits are read as the number they write. -/
private theorem readHex_append {c : Cursor} {rest : List Char} {n : Nat} (hn : n < 256)
    (h : c.rest = '0' :: '0' :: Text.hexByte n ++ rest) : Reads (readHex c) n rest := by
  have hdigit : ∀ i : Fin 16, (Text.hexDigit i).utf8Size = 1 := by decide
  have hbytes : ∀ x ∈ '0' :: '0' :: Text.hexByte n, x.utf8Size = 1 := by
    intro x hx
    simp only [Text.hexByte, List.mem_cons, List.not_mem_nil, or_false] at hx
    rcases hx with rfl | rfl | rfl | rfl
    · rfl
    · rfl
    · exact hdigit ⟨n / 16 % 16, by omega⟩
    · exact hdigit ⟨n % 16, by omega⟩
  have hsize : bytesLeft (c.rest.take 4) = 4 := by
    rw [h]
    exact bytesLeft_eq_length hbytes
  have hzero : Text.hexValue? '0' = some 0 := by decide
  have hvalue : ((0 * 16 + 0) * 16 + n / 16 % 16) * 16 + n % 16 = n := by omega
  refine ⟨advanceBytes 4 c, ?_, rest_advanceBytes h hbytes rfl⟩
  unfold readHex
  rw [hsize, if_neg (by decide), h]
  dsimp only [Text.hexByte, List.cons_append, List.nil_append]
  rw [hzero, Text.hexValue?_hexDigit (Nat.mod_lt _ (by decide)), Text.hexValue?_hexDigit (Nat.mod_lt _ (by decide))]
  dsimp only
  rw [hvalue]


/-- The escapes of one letter, each with the character that it stands for. -/
def shortEscapes : List (Char × Char) :=
  [('"', '"'), ('\\', '\\'), ('n', '\n'), ('r', '\r'), ('t', '\t'), ('b', Char.ofNat 8), ('f', Char.ofNat 12)]

/-- How a character is written: with an escape of one letter, by its number, or as it is. -/
theorem escapeChar_cases (x : Char) :
    (∃ y, (y, x) ∈ shortEscapes ∧ escapeChar x = ['\\', y]) ∨
    (x.toNat < 32 ∧ escapeChar x = '\\' :: 'u' :: '0' :: '0' :: Text.hexByte x.toNat) ∨
    (x ≠ '"' ∧ x ≠ '\\' ∧ 32 ≤ x.toNat ∧ escapeChar x = [x]) := by
  have hchar : ∀ n, x.toNat = n → x = Char.ofNat n := fun n h => by rw [← h, Char.ofNat_toNat]
  unfold escapeChar
  split
  · rename_i h
    simp only [Bool.or_eq_true, beq_iff_eq] at h
    rcases h with rfl | rfl
    · exact .inl ⟨'"', by decide, rfl⟩
    · exact .inl ⟨'\\', by decide, rfl⟩
  · rename_i hplain
    simp only [Bool.or_eq_true, beq_iff_eq, not_or] at hplain
    repeat' split
    · rename_i h
      exact .inl ⟨'n', by rw [eq_of_beq h]; decide, rfl⟩
    · rename_i h
      exact .inl ⟨'r', by rw [eq_of_beq h]; decide, rfl⟩
    · rename_i h
      exact .inl ⟨'t', by rw [eq_of_beq h]; decide, rfl⟩
    · rename_i h
      exact .inl ⟨'b', by rw [hchar 8 (eq_of_beq h)]; decide, rfl⟩
    · rename_i h
      exact .inl ⟨'f', by rw [hchar 12 (eq_of_beq h)]; decide, rfl⟩
    · rename_i h
      exact .inr (.inl ⟨h, rfl⟩)
    · rename_i h
      exact .inr (.inr ⟨hplain.1, hplain.2, Nat.le_of_not_lt h, rfl⟩)

private theorem readEscape_short {c : Cursor} {rest : List Char} {x y : Char} (h : c.rest = x :: rest)
    (hxy : (x, y) ∈ shortEscapes) : Reads (readEscape c) y rest := by
  refine ⟨c.next, ?_, Cursor.rest_next h⟩
  unfold readEscape
  rw [h]
  simp only [shortEscapes, List.mem_cons, Prod.mk.injEq, List.not_mem_nil, or_false] at hxy
  rcases hxy with ⟨rfl, rfl⟩ | ⟨rfl, rfl⟩ | ⟨rfl, rfl⟩ | ⟨rfl, rfl⟩ | ⟨rfl, rfl⟩ | ⟨rfl, rfl⟩ | ⟨rfl, rfl⟩ <;> rfl

private theorem readEscape_number {c : Cursor} {rest : List Char} {n : Nat} (hn : n < 32)
    (h : c.rest = 'u' :: '0' :: '0' :: Text.hexByte n ++ rest) : Reads (readEscape c) (Char.ofNat n) rest := by
  obtain ⟨d, hd, hrest⟩ := readHex_append (Nat.lt_trans hn (by decide)) (Cursor.rest_next h)
  have hlow : ¬(decide (0xDC00 ≤ n) && decide (n ≤ 0xDFFF)) = true := by
    simp only [Bool.and_eq_true, decide_eq_true_eq]
    omega
  have hplain : (decide (n < 0xD800) || decide (0xDBFF < n)) = true := by
    simp only [Bool.or_eq_true, decide_eq_true_eq]
    omega
  refine ⟨d, ?_, hrest⟩
  unfold readEscape
  rw [h]
  dsimp only [List.cons_append]
  rw [hd]
  dsimp only [bind, Except.bind]
  rw [if_neg hlow, if_pos hplain]
  rfl

private theorem readStringFrom_escape {c : Cursor} {fuel : Nat} {read : List Char} {x : Char} {cs rest : List Char}
    (h : c.rest = '\\' :: cs) (hx : ∀ d : Cursor, d.rest = cs → Reads (readEscape d) x rest) :
    ∃ d : Cursor, d.rest = rest ∧ readStringFrom (fuel + 1) read c = readStringFrom fuel (x :: read) d := by
  obtain ⟨d, hd, hrest⟩ := hx _ (Cursor.rest_next h)
  refine ⟨d, hrest, ?_⟩
  conv => lhs; unfold readStringFrom
  rw [h]
  dsimp only
  rw [hd]
  rfl

/-- One character of a string, in whatever form it is written. -/
private theorem readStringFrom_escapeChar (fuel : Nat) (read : List Char) {c : Cursor} {x : Char} {rest : List Char}
    (h : c.rest = escapeChar x ++ rest) :
    ∃ d : Cursor, d.rest = rest ∧ readStringFrom (fuel + 1) read c = readStringFrom fuel (x :: read) d := by
  rcases escapeChar_cases x with ⟨y, hy, hx⟩ | ⟨hlow, hx⟩ | ⟨hquote, hslash, hhigh, hx⟩
  · rw [hx] at h
    exact readStringFrom_escape h fun d hd => readEscape_short hd hy
  · rw [hx] at h
    refine readStringFrom_escape h fun d hd => ?_
    have hread := readEscape_number hlow hd
    rwa [Char.ofNat_toNat] at hread
  · rw [hx, List.singleton_append] at h
    refine ⟨c.next, Cursor.rest_next h, ?_⟩
    conv => lhs; unfold readStringFrom
    rw [h]
    split
    · rename_i heq
      cases heq
    · rename_i heq
      exact absurd (List.cons.inj heq).1 hquote
    · rename_i heq
      exact absurd (List.cons.inj heq).1 hslash
    · rename_i heq
      cases heq
      rw [if_neg (by omega)]

private theorem readStringFrom_append {s : List Char} :
    ∀ {fuel : Nat} (read : List Char) {rest : List Char} {c : Cursor},
    s.length < fuel → c.rest = s.flatMap escapeChar ++ '"' :: rest →
      Reads (readStringFrom fuel read c) (String.ofList (read.reverse ++ s)) rest := by
  induction s with
  | nil =>
    intro fuel read rest c hfuel h
    obtain ⟨fuel, rfl⟩ := Nat.exists_eq_add_of_lt hfuel
    rw [List.append_nil]
    refine ⟨c.next, ?_, Cursor.rest_next h⟩
    rw [List.length_nil, Nat.zero_add, readStringFrom, h]
    rfl
  | cons x s ih =>
    intro fuel read rest c hfuel h
    cases fuel with
    | zero => exact absurd hfuel (Nat.not_lt_zero _)
    | succ fuel =>
      rw [List.flatMap_cons, List.append_assoc] at h
      obtain ⟨d, hd, hstep⟩ := readStringFrom_escapeChar fuel read h
      have hrest := ih (x :: read) (Nat.lt_of_succ_lt_succ hfuel) hd
      rwa [List.reverse_cons, List.append_assoc, List.singleton_append, ← hstep] at hrest

private theorem escapeChar_ne_nil (x : Char) : escapeChar x ≠ [] := by
  rcases escapeChar_cases x with ⟨y, -, hx⟩ | ⟨-, hx⟩ | ⟨-, -, -, hx⟩ <;> rw [hx] <;> exact List.cons_ne_nil _ _

private theorem length_le_length_flatMap_escapeChar (s : List Char) : s.length ≤ (s.flatMap escapeChar).length := by
  induction s with
  | nil => exact Nat.le_refl _
  | cons x s ih =>
    have hx := List.length_pos_iff.2 (escapeChar_ne_nil x)
    rw [List.flatMap_cons, List.length_append, List.length_cons]
    omega

theorem readString_quote {c : Cursor} {s : String} {rest : List Char} (h : c.rest = quote s ++ rest) :
    Reads (readString c) s rest := by
  have hnext : c.next.rest = s.toList.flatMap escapeChar ++ '"' :: rest := by
    rw [quote, List.cons_append, List.cons_append, List.append_assoc] at h
    exact Cursor.rest_next h
  have hfuel : s.toList.length < c.rest.length + 1 := by
    have hle := length_le_length_flatMap_escapeChar s.toList
    rw [h, quote]
    simp only [List.length_append, List.length_cons]
    omega
  have hread := readStringFrom_append [] hfuel hnext
  rwa [List.reverse_nil, List.nil_append, String.ofList_toList] at hread

end Sandscript.Json
