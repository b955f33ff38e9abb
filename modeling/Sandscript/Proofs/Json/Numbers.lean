import Sandscript.Proofs.Json.Locality
import Sandscript.Proofs.Numeric.Digits

/-!
# Numbers of JSON

A written number consists of digits, signs, points and the letter `e` (`isNumberChar_of_mem_chars`).  An integer is read
back from its digits (`readSigned_int`), and so is every float that is read back where it stands alone
(`legible_float`).
-/

namespace Sandscript.FloatLayout

/-- The characters of a written number. -/
def isNumberChar (x : Char) : Bool := x.isDigit || x == '-' || x == '+' || x == '.' || x == 'e'

private theorem isNumberChar_of_isDigit {x : Char} (h : x.isDigit = true) : isNumberChar x = true := by
  simp only [isNumberChar, h, Bool.true_or]

private theorem isNumberChar_of_mem_digits {n : Nat} {x : Char} (h : x ∈ Numeric.digits n) : isNumberChar x = true :=
  isNumberChar_of_isDigit (Numeric.isDigit_of_mem_digits h)

private theorem isNumberChar_of_mem_plain {pointZero : Bool} {n : Nat} {e : Int} {x : Char}
    (h : x ∈ plain pointZero n e) :
    isNumberChar x = true := by
  have hzeros : ∀ {k : Nat}, x ∈ List.replicate k '0' → isNumberChar x = true :=
    fun hx => List.eq_of_mem_replicate hx ▸ rfl
  unfold plain zeros at h
  dsimp only at h
  split at h
  · rcases List.mem_append.1 h with h | h
    · split at h
      · rw [List.mem_singleton.1 h]
        rfl
      · rcases List.mem_append.1 h with h | h
        · exact isNumberChar_of_mem_digits h
        · exact hzeros h
    · split at h
      · simp only [List.mem_cons, List.not_mem_nil, or_false] at h
        rcases h with rfl | rfl <;> rfl
      · cases h
  · split at h
    · rcases List.mem_append.1 h with h | h
      · exact isNumberChar_of_mem_digits (List.mem_of_mem_take h)
      · rcases List.mem_cons.1 h with rfl | h
        · rfl
        · exact isNumberChar_of_mem_digits (List.mem_of_mem_drop h)
    · rcases List.mem_append.1 h with h | h
      · simp only [List.mem_cons] at h
        rcases h with rfl | rfl | h
        · rfl
        · rfl
        · exact hzeros h
      · exact isNumberChar_of_mem_digits h

private theorem isNumberChar_of_mem_scientific {plusSign : Bool} {n : Nat} {e : Int} {x : Char}
    (h : x ∈ scientific plusSign n e) : isNumberChar x = true := by
  unfold scientific at h
  dsimp only at h
  rcases List.mem_append.1 h with h | h
  · rcases List.mem_append.1 h with h | h
    · rcases List.mem_append.1 h with h | h
      · exact isNumberChar_of_mem_digits (List.mem_of_mem_take h)
      · split at h
        · cases h
        · rcases List.mem_cons.1 h with rfl | h
          · rfl
          · exact isNumberChar_of_mem_digits (List.mem_of_mem_drop h)
    · rcases List.mem_cons.1 h with rfl | h
      · rfl
      · split at h
        · rw [List.mem_singleton.1 h]
          rfl
        · split at h
          · rw [List.mem_singleton.1 h]
            rfl
          · cases h
  · exact isNumberChar_of_mem_digits h

theorem isNumberChar_of_mem_chars {l : FloatLayout} {v : Binary64} {x : Char} (hv : v.isFinite = true)
    (h : x ∈ l.chars v) : isNumberChar x = true := by
  have hbody : ∀ {y : Char}, y ∈ (if l.isPlain v then plain l.pointZero v.shortest.1 v.shortest.2
      else scientific l.plusSign v.shortest.1 v.shortest.2) → isNumberChar y = true := by
    intro y hy
    split at hy
    · exact isNumberChar_of_mem_plain hy
    · exact isNumberChar_of_mem_scientific hy
  unfold chars at h
  rw [Binary64.isNaN_of_isFinite hv, Binary64.isInfinite_of_isFinite hv] at h
  dsimp only [Bool.false_eq_true, if_false] at h
  rw [if_neg Bool.false_ne_true, if_neg Bool.false_ne_true] at h
  split at h
  · rcases List.mem_cons.1 h with rfl | h
    · rfl
    · exact hbody h
  · exact hbody h

end Sandscript.FloatLayout

namespace Sandscript.Json

theorem isNumberChar_of_mem_chars {n : JsonNumber} {x : Char} (h : x ∈ n.chars) :
    FloatLayout.isNumberChar x = true := by
  cases n with
  | int n hrange =>
    rcases List.mem_append.1 h with h | h
    · split at h
      · rw [List.mem_singleton.1 h]
        rfl
      · cases h
    · exact FloatLayout.isNumberChar_of_mem_digits h
  | float v hv => exact FloatLayout.isNumberChar_of_mem_chars hv h

/-! ### Integers -/

private theorem le_foldl_digits (ds : List Char) (s : Nat) :
    s ≤ ds.foldl (fun n d => 10 * n + Numeric.digitValue d) s := by
  induction ds generalizing s with
  | nil => exact Nat.le_refl _
  | cons d ds ih =>
    have hstep : s ≤ 10 * s + Numeric.digitValue d := by omega
    exact Nat.le_trans hstep (ih _)

/-- The digits of a number of one word are all taken. -/
private theorem accumulate_of_le {ds : List Char} {s : Nat}
    (h : ds.foldl (fun n d => 10 * n + Numeric.digitValue d) s ≤ maxSignificand) :
    accumulate s ds = (ds.foldl (fun n d => 10 * n + Numeric.digitValue d) s, []) := by
  induction ds generalizing s with
  | nil => rfl
  | cons d ds ih =>
    have hle : 10 * s + Numeric.digitValue d ≤ maxSignificand := Nat.le_trans (le_foldl_digits ds _) h
    unfold accumulate
    dsimp only
    rw [if_neg (by omega)]
    exact ih h

private theorem takeDigits_of_append {c : Cursor} {ds rest : List Char} (hds : ∀ x ∈ ds, x.isDigit = true)
    (hrest : EndsNumber rest) (h : c.rest = ds ++ rest) : ∃ d : Cursor, takeDigits c = (ds, d) ∧ d.rest = rest := by
  have htake : c.rest.takeWhile Char.isDigit = ds := by
    rw [h, List.takeWhile_append_of_pos hds, show rest.takeWhile Char.isDigit = [] from hrest.takeWhile_append [],
      List.append_nil]
  have hdrop : c.rest.dropWhile Char.isDigit = rest := by
    rw [h, List.dropWhile_append_of_pos hds, show rest.dropWhile Char.isDigit = rest from hrest.dropWhile_append []]
  refine ⟨(takeDigits c).2, ?_, hdrop⟩
  unfold takeDigits
  dsimp only
  rw [htake]

private theorem readNumber_digits {c : Cursor} {n : Nat} {rest : List Char} (hn : n < 2 ^ 64) (hrest : EndsNumber rest)
    (h : c.rest = Numeric.digits n ++ rest) (negative : Bool) :
    ∃ d : Cursor, d.rest = rest ∧ readNumber c negative = finishInt d negative n := by
  obtain ⟨d, hds, hd⟩ := takeDigits_of_append (fun x hx => Numeric.isDigit_of_mem_digits hx) hrest h
  have hmost : n ≤ maxSignificand := by
    unfold maxSignificand
    omega
  obtain ⟨x, xs, hx⟩ := List.exists_cons_of_ne_nil (Numeric.digits_ne_nil n)
  have hvalue : (Numeric.digits n).foldl (fun n d => 10 * n + Numeric.digitValue d) 0 = n := Numeric.ofDigits_digits n
  have haccumulate : accumulate 0 (Numeric.digits n) = (n, []) := by
    rw [accumulate_of_le (hvalue.symm ▸ hmost), hvalue]
  have hstop : goesOn rest = false := by
    rw [← List.nil_append rest, goesOn_append hrest]
    rfl
  refine ⟨d, hd, ?_⟩
  rw [readNumber_of_takeDigits (by rw [h, hx, List.cons_append])
    (Numeric.isDigit_of_mem_digits (hx ▸ List.mem_cons_self)) hds
    (fun y ys hzero => List.cons_ne_nil y ys (Numeric.eq_zero_of_digits hzero).2)]
  rw [finishNumber, haccumulate]
  dsimp only
  rw [hd, hstop]
  exact if_pos rfl

private theorem finishInt_int {n : Int} (hrange : -(2 ^ 63) ≤ n ∧ n < 2 ^ 64) (c : Cursor) :
    finishInt c (decide (n < 0)) n.natAbs = .ok (.int n hrange, c) := by
  unfold finishInt
  by_cases hneg : n < 0
  · have hvalue : (-(n.natAbs : Int)) = n := by omega
    rw [decide_eq_true hneg, if_pos rfl, if_neg (by omega), hvalue, JsonNumber.ofInt?, dif_pos hrange]
  · have hvalue : ((n.natAbs : Nat) : Int) = n := by omega
    rw [decide_eq_false hneg, if_neg Bool.false_ne_true, hvalue, JsonNumber.ofInt?, dif_pos hrange]

theorem readSigned_int {c : Cursor} {n : Int} {rest : List Char} (hrange : -(2 ^ 63) ≤ n ∧ n < 2 ^ 64)
    (hrest : EndsNumber rest) (h : c.rest = (JsonNumber.int n hrange).chars ++ rest) :
    Reads (readSigned c) (.int n hrange) rest := by
  change c.rest = ((if n < 0 then ['-'] else []) ++ Numeric.digits n.natAbs) ++ rest at h
  have hword : n.natAbs < 2 ^ 64 := by omega
  have hfinish := finishInt_int hrange
  by_cases hneg : n < 0
  · rw [if_pos hneg, List.singleton_append, List.cons_append] at h
    obtain ⟨d, hd, hread⟩ := readNumber_digits hword hrest (Cursor.rest_next h) true
    rw [decide_eq_true hneg] at hfinish
    exact ⟨d, by rw [readSigned_minus h, hread, hfinish], hd⟩
  · rw [if_neg hneg, List.nil_append] at h
    obtain ⟨x, xs, hx⟩ := List.exists_cons_of_ne_nil (Numeric.digits_ne_nil n.natAbs)
    obtain ⟨d, hd, hread⟩ := readNumber_digits hword hrest h false
    rw [decide_eq_false hneg] at hfinish
    rw [hx, List.cons_append] at h
    have hdigit : x.isDigit = true := Numeric.isDigit_of_mem_digits (hx ▸ List.mem_cons_self)
    have hother : ∀ cs, c.rest ≠ '-' :: cs := by
      intro cs hcs
      rw [h] at hcs
      rw [(List.cons.inj hcs).1] at hdigit
      cases hdigit
    exact ⟨d, by rw [readSigned_other hother, hread, hfinish], hd⟩

/-! ### Numbers and their texts -/

/-- A number starts with its sign or with a digit. -/
def startsNumber (x : Char) : Bool := x == '-' || x.isDigit

/-- The text of a number starts as a number does, and the number is read back in front of anything that ends it. -/
structure Legible (n : JsonNumber) : Prop where
  starts : ∃ x cs, n.chars = x :: cs ∧ startsNumber x = true
  reads : ∀ ⦃c : Cursor⦄ ⦃rest : List Char⦄, EndsNumber rest → c.rest = n.chars ++ rest → Reads (readSigned c) n rest

theorem legible_int {n : Int} (hrange : -(2 ^ 63) ≤ n ∧ n < 2 ^ 64) : Legible (.int n hrange) where
  starts := by
    obtain ⟨x, xs, hx⟩ := List.exists_cons_of_ne_nil (Numeric.digits_ne_nil n.natAbs)
    by_cases hneg : n < 0
    · exact ⟨'-', _, by rw [JsonNumber.chars, if_pos hneg, List.singleton_append], rfl⟩
    · refine ⟨x, xs, by rw [JsonNumber.chars, if_neg hneg, List.nil_append, hx], ?_⟩
      have hdigit : x.isDigit = true := Numeric.isDigit_of_mem_digits (hx ▸ List.mem_cons_self)
      simp only [startsNumber, hdigit, Bool.or_true]
  reads _ _ hrest hc := readSigned_int hrange hrest hc

private theorem isSpace_eq_false_of_isNumberChar {x : Char} (h : FloatLayout.isNumberChar x = true) :
    isSpace x = false := by
  by_contra hspace
  rw [Bool.not_eq_false] at hspace
  simp only [isSpace, Bool.or_eq_true, beq_iff_eq] at hspace
  rcases hspace with ((rfl | rfl) | rfl) | rfl <;> cases h

private theorem isNumberChar_of_startsNumber {x : Char} (h : startsNumber x = true) :
    FloatLayout.isNumberChar x = true := by
  simp only [startsNumber, Bool.or_eq_true] at h
  simp only [FloatLayout.isNumberChar, Bool.or_eq_true]
  exact .inl (.inl (.inl h.symm))

theorem readValue_number {c : Cursor} {x : Char} {cs : List Char} (h : c.rest = x :: cs) (hx : startsNumber x = true)
    (fuel depth : Nat) : readValue (fuel + 1) depth c = (readSigned c).map fun p => (.num p.1, p.2) := by
  have hspace := isSpace_eq_false_of_isNumberChar (isNumberChar_of_startsNumber hx)
  have hbind : ∀ r : Except ReadError (JsonNumber × Cursor),
      (r >>= fun p => Except.ok (Json.num p.1, p.2)) = r.map fun p => (.num p.1, p.2) := by
    intro r
    cases r <;> rfl
  unfold readValue
  dsimp only
  rw [Cursor.skipSpace_eq h hspace, h]
  by_cases hminus : x = '-'
  · subst hminus
    rw [readSigned_minus h]
    exact hbind _
  · have hdigit : x.isDigit = true := by
      simp only [startsNumber, Bool.or_eq_true, beq_iff_eq] at hx
      exact hx.resolve_left hminus
    rw [readSigned_other (fun cs' hcs' => hminus (by rw [h] at hcs'; exact (List.cons.inj hcs').1))]
    -- none of the other characters that start a value is a digit
    split <;> rename_i heq <;> cases heq
    any_goals cases hdigit
    rw [if_pos hdigit]
    exact hbind _

/-- A text is read as a value if that is at its start and nothing but white space stands behind it. -/
theorem read_eq_ok_iff {s : String} {v : Json} :
    read s = .ok v ↔ ∃ d : Cursor, readValue (2 * s.toList.length + 2) maxDepth (Cursor.ofText s) = .ok (v, d) ∧
      d.rest.dropWhile isSpace = [] := by
  unfold read
  dsimp only
  change (readValue (2 * s.toList.length + 2) maxDepth (Cursor.ofText s) >>= _) = _ ↔ _
  cases readValue (2 * s.toList.length + 2) maxDepth (Cursor.ofText s) with
  | error e =>
    constructor
    · intro h
      cases h
    · rintro ⟨d, h, -⟩
      cases h
  | ok p =>
    obtain ⟨w, d⟩ := p
    dsimp only [bind, Except.bind]
    rw [Cursor.rest_skipSpace]
    constructor
    · intro h
      split at h
      · rename_i hnil
        cases h
        exact ⟨d, rfl, hnil⟩
      · exact absurd h (failAtNext_ne_ok _ _ _)
    · rintro ⟨d', h, hnil⟩
      cases h
      rw [hnil]

/-- A float that is read back where it stands alone is read back everywhere. -/
theorem legible_float {v : Binary64} {hv : v.isFinite = true}
    (h : read (JsonNumber.float v hv).text = .ok (.num (.float v hv))) : Legible (.float v hv) := by
  have hchars : (Cursor.ofText (JsonNumber.float v hv).text).rest = (JsonNumber.float v hv).chars :=
    String.toList_ofList
  have hmem : ∀ x ∈ (JsonNumber.float v hv).chars, FloatLayout.isNumberChar x = true :=
    fun x hx => isNumberChar_of_mem_chars hx
  obtain ⟨d, hread, hspace⟩ := read_eq_ok_iff.1 h
  generalize Cursor.ofText (JsonNumber.float v hv).text = c at hchars hread
  -- the text starts as a number does, for anything else would not have been read
  have hstart : ∃ x cs, (JsonNumber.float v hv).chars = x :: cs ∧ startsNumber x = true := by
    cases hcons : (JsonNumber.float v hv).chars with
    | nil =>
      obtain ⟨rest, line, column⟩ := c
      cases hchars.trans hcons
      cases hread
    | cons x cs =>
      refine ⟨x, cs, rfl, ?_⟩
      have hx := hmem x (hcons ▸ List.mem_cons_self)
      by_contra hstart
      simp only [startsNumber, Bool.or_eq_true, not_or, beq_iff_eq, Bool.not_eq_true] at hstart
      simp only [FloatLayout.isNumberChar, Bool.or_eq_true, beq_iff_eq, hstart.2, Bool.false_eq_true, false_or] at hx
      obtain ⟨rest, line, column⟩ := c
      cases hchars.trans hcons
      rcases hx with ((hx | rfl) | rfl) | rfl
      · exact hstart.1 hx
      all_goals cases hread
  obtain ⟨x, cs, hcons, hx⟩ := hstart
  rw [readValue_number (hchars.trans hcons) hx] at hread
  cases hsigned : readSigned c with
  | error e =>
    rw [hsigned] at hread
    cases hread
  | ok p =>
    obtain ⟨n, d'⟩ := p
    rw [hsigned] at hread
    cases hread
    obtain ⟨hsuffix, happend⟩ := readSigned_local hsigned
    -- nothing is left, as no character of the number is white space
    have hnil : d'.rest = [] := by
      cases hrest : d'.rest with
      | nil => rfl
      | cons y ys =>
        have hy : y ∈ d'.rest := hrest ▸ List.mem_cons_self
        have hother := isSpace_eq_false_of_isNumberChar (hmem y (hchars ▸ hsuffix.subset hy))
        rw [hrest, List.dropWhile_cons_of_neg (by rw [hother]; exact Bool.false_ne_true)] at hspace
        cases hspace
    refine ⟨⟨x, cs, hcons, hx⟩, fun c' rest hend hc => ?_⟩
    have hread := happend hend (hc.trans (by rw [hchars]))
    rwa [hnil, List.nil_append] at hread

end Sandscript.Json
