import Mathlib.Algebra.Order.Field.Basic
import Mathlib.Algebra.Order.Field.Power
import Mathlib.Data.List.TakeWhile
import Mathlib.Tactic.FieldSimp
import Mathlib.Tactic.Linarith
import Mathlib.Tactic.Ring
import Sandscript.Numeric.DecimalReader
import Sandscript.Proofs.Numeric.NumberText

/-!
# Texts of decimals

The reader takes all digits of a text that has room for them (`ofChars_of_writes`), so a decimal is read back from its
text (`ofText_text`).  Of the digits behind a point it takes twenty-eight, and rounds by the next one, so it is off by
at most half a unit of the last place (`ofChars_of_long`).
-/

namespace Sandscript

open Numeric

namespace Decimal

/-- The number that a decimal stands for. -/
def toRat (d : Decimal) : ℚ := d.signed / 10 ^ d.scale

private theorem signedAt_eq (d : Decimal) {s : Nat} (h : d.scale ≤ s) : (signedAt d s : ℚ) = d.toRat * 10 ^ s := by
  rw [signedAt, toRat]
  push_cast
  rw [div_mul_eq_mul_div, eq_div_iff (by positivity), mul_assoc, ← pow_add, Nat.sub_add_cancel h]

theorem eqv_iff {a b : Decimal} : a.eqv b = true ↔ a.toRat = b.toRat := by
  have hpos : (10 : ℚ) ^ max a.scale b.scale ≠ 0 := by positivity
  rw [eqv, beq_iff_eq, compare, Int.compare_eq_eq, ← mul_left_inj' hpos, ← signedAt_eq a (le_max_left _ _),
    ← signedAt_eq b (le_max_right _ _)]
  exact_mod_cast Iff.rfl

theorem toRat_mk (negative : Bool) (coefficient scale : Nat) (hc : coefficient < 2 ^ 96) (hs : scale ≤ 28) :
    toRat ⟨negative, coefficient, scale, hc, hs⟩ = (if negative then -1 else 1) * (coefficient / 10 ^ scale) := by
  cases negative <;> simp [toRat, signed, neg_div]

/-! ### Reading digits -/

section

variable {ds : List Char} {c k : Nat}

/-- The digits that are read after `c`. -/
private theorem next_lt {d : Char} (h : 10 ^ (d :: ds).length * c + ofDigits (d :: ds) < 2 ^ 96) :
    10 ^ ds.length * (10 * c + digitValue d) + ofDigits ds = 10 ^ (d :: ds).length * c + ofDigits (d :: ds) ∧
      10 * c + digitValue d < 2 ^ 96 := by
  have hvalue : 10 ^ ds.length * (10 * c + digitValue d) + ofDigits ds =
      10 ^ (d :: ds).length * c + ofDigits (d :: ds) := by
    rw [ofDigits_cons, List.length_cons]
    ring
  have hle : 10 * c + digitValue d ≤ 10 ^ ds.length * (10 * c + digitValue d) :=
    Nat.le_mul_of_pos_left _ (by positivity)
  exact ⟨hvalue, by omega⟩

private theorem readFrom_whole (negative : Bool) (rest : List Char) (hds : ∀ x ∈ ds, x.isDigit = true)
    (hlt : 10 ^ ds.length * c + ofDigits ds < 2 ^ 96) (seen : Bool) :
    readFrom negative ⟨c, 0, false, seen⟩ (ds ++ rest) =
      readFrom negative ⟨10 ^ ds.length * c + ofDigits ds, 0, false, seen || !ds.isEmpty⟩ rest := by
  induction ds generalizing c seen with
  | nil => simp [ofDigits]
  | cons d ds ih =>
    obtain ⟨hvalue, hnext⟩ := next_lt hlt
    rw [List.cons_append, readFrom, if_neg (by simp), if_pos (hds d List.mem_cons_self)]
    dsimp only
    rw [if_pos hnext, if_neg Bool.false_ne_true, ih (fun x hx => hds x (List.mem_cons_of_mem _ hx)) (hvalue ▸ hlt),
      hvalue]
    simp

private theorem readFrom_start (negative : Bool) (rest : List Char) (hds : ∀ x ∈ ds, x.isDigit = true) (hne : ds ≠ [])
    (hlt : ofDigits ds < 2 ^ 96) :
    readFrom negative {} (ds ++ rest) = readFrom negative ⟨ofDigits ds, 0, false, true⟩ rest := by
  have hread := readFrom_whole (c := 0) negative rest hds (by rwa [Nat.mul_zero, Nat.zero_add]) false
  rw [Nat.mul_zero, Nat.zero_add, Bool.false_or, List.isEmpty_eq_false_iff.2 hne] at hread
  exact hread

private theorem readFrom_point (negative : Bool) (rest : List Char) (c : Nat) :
    readFrom negative ⟨c, 0, false, true⟩ ('.' :: rest) = readFrom negative ⟨c, 0, true, true⟩ rest := by
  rw [readFrom, if_neg (by simp), if_neg (by decide)]
  exact if_pos rfl

private theorem readFrom_places (negative : Bool) (rest : List Char) (hds : ∀ x ∈ ds, x.isDigit = true)
    (hlt : 10 ^ ds.length * c + ofDigits ds < 2 ^ 96) (hk : k + ds.length ≤ 28) :
    readFrom negative ⟨c, k, true, true⟩ (ds ++ rest) =
      readFrom negative ⟨10 ^ ds.length * c + ofDigits ds, k + ds.length, true, true⟩ rest := by
  induction ds generalizing c k with
  | nil => simp [ofDigits]
  | cons d ds ih =>
    obtain ⟨hvalue, hnext⟩ := next_lt hlt
    rw [List.length_cons] at hk
    rw [List.cons_append, readFrom, if_neg (by simp; omega), if_pos (hds d List.mem_cons_self)]
    dsimp only
    rw [if_pos hnext, if_pos rfl, ih (fun x hx => hds x (List.mem_cons_of_mem _ hx)) (hvalue ▸ hlt) (by omega),
      hvalue, List.length_cons, Nat.add_right_comm, Nat.add_assoc]

/-- A whole number that is too large is refused, however it goes on. -/
private theorem readFrom_tooLarge (negative : Bool) (rest : List Char) (hds : ∀ x ∈ ds, x.isDigit = true)
    (hc : c < 2 ^ 96) (hlt : 2 ^ 96 ≤ 10 ^ ds.length * c + ofDigits ds) (seen : Bool) :
    readFrom negative ⟨c, 0, false, seen⟩ (ds ++ rest) = .error .tooManyDigits := by
  induction ds generalizing c seen with
  | nil =>
    simp [ofDigits] at hlt
    omega
  | cons d ds ih =>
    rw [List.cons_append, readFrom, if_neg (by simp), if_pos (hds d List.mem_cons_self)]
    dsimp only
    split
    · rename_i hnext
      refine ih (fun x hx => hds x (List.mem_cons_of_mem _ hx)) hnext (hlt.trans (le_of_eq ?_)) true
      rw [ofDigits_cons, List.length_cons]
      ring
    · rfl

end

/-! ### Reading texts -/

section

variable {cs : List Char} {n k : Nat}

/-- The sign of a number, in front of its digits. -/
def signChars (negative : Bool) : List Char := if negative then ['-'] else []

theorem isDigit_or_point_of_writes (h : Writes cs n k) {x : Char} (hx : x ∈ cs) : x.isDigit = true ∨ x = '.' := by
  cases h with
  | whole _ hds => exact .inl (hds x hx)
  | places _ hds _ hfs =>
    rcases List.mem_append.1 hx with hx | hx
    · exact .inl (hds x hx)
    · rcases List.mem_cons.1 hx with rfl | hx
      · exact .inr rfl
      · exact .inl (hfs x hx)

private theorem exists_digit_of_writes (h : Writes cs n k) : ∃ x xs, cs = x :: xs ∧ x.isDigit = true := by
  have hfront : ∀ (ds rest : List Char), ds ≠ [] → (∀ x ∈ ds, x.isDigit = true) →
      ∃ x xs, ds ++ rest = x :: xs ∧ x.isDigit = true := by
    intro ds rest hne hds
    obtain ⟨x, xs, rfl⟩ := List.exists_cons_of_ne_nil hne
    exact ⟨x, xs ++ rest, rfl, hds x List.mem_cons_self⟩
  cases h with
  | whole hne hds =>
    obtain ⟨x, xs, hcons, hx⟩ := hfront cs [] hne hds
    exact ⟨x, xs, by rw [← hcons, List.append_nil], hx⟩
  | places hne hds _ _ => exact hfront _ _ hne hds

/-- A text without an exponent is read by its digits, behind the sign. -/
private theorem ofChars_of_signChars (h : Writes cs n k) (negative : Bool) :
    ofChars (signChars negative ++ cs) = readFrom negative {} cs := by
  have hplain : ∀ x ∈ signChars negative ++ cs, (x != 'e' && x != 'E') = true := by
    intro x hx
    rcases List.mem_append.1 hx with hx | hx
    · unfold signChars at hx
      split at hx
      · rw [List.mem_singleton.1 hx]
        rfl
      · cases hx
    · rcases isDigit_or_point_of_writes h hx with hdigit | rfl
      · rw [Bool.and_eq_true, bne_iff_ne, bne_iff_ne]
        constructor <;> rintro rfl <;> cases hdigit
      · rfl
  have hspan : (signChars negative ++ cs).span (fun x => x != 'e' && x != 'E') = (signChars negative ++ cs, []) := by
    rw [List.span_eq_takeWhile_dropWhile, List.takeWhile_eq_self_iff.2 hplain, List.dropWhile_eq_nil_iff.2 hplain]
  rw [ofChars, hspan]
  dsimp only
  cases negative with
  | true => rfl
  | false =>
    obtain ⟨x, xs, rfl, hx⟩ := exists_digit_of_writes h
    rw [signChars, if_neg Bool.false_ne_true, List.nil_append, readPlain]
    · exact List.cons_ne_nil x xs
    · rintro rest ⟨⟩
      cases hx
    · rintro rest ⟨⟩
      cases hx

theorem ofChars_of_writes (h : Writes cs n k) (hn : n < 2 ^ 96) (hk : k ≤ 28) (negative : Bool) :
    ofChars (signChars negative ++ cs) = finish negative n k := by
  rw [ofChars_of_signChars h]
  cases h with
  | @whole ds hne hds =>
    have hread := readFrom_start negative [] hds hne hn
    rwa [List.append_nil, readFrom, if_pos rfl] at hread
  | @places ds fs hne hds _ hfs =>
    rw [ofDigits_append] at hn ⊢
    have hwhole : ofDigits ds < 2 ^ 96 := by
      have hle : ofDigits ds ≤ 10 ^ fs.length * ofDigits ds := Nat.le_mul_of_pos_left _ (by positivity)
      omega
    have hread := readFrom_places (k := 0) negative [] hfs hn (by omega)
    rw [List.append_nil, Nat.zero_add, readFrom, if_pos rfl] at hread
    rw [readFrom_start _ _ hds hne hwhole, readFrom_point, hread]

private theorem ofChars_of_tooLarge (h : Writes cs n 0) (hn : 2 ^ 96 ≤ n) (negative : Bool) :
    ofChars (signChars negative ++ cs) = .error .tooManyDigits := by
  rw [ofChars_of_signChars h]
  generalize hzero : 0 = k at h
  cases h with
  | @whole ds _ hds =>
    have hread := readFrom_tooLarge negative [] hds (by decide : 0 < 2 ^ 96) (by rwa [Nat.mul_zero, Nat.zero_add]) false
    rwa [List.append_nil] at hread
  | places _ _ hne _ => exact absurd hzero.symm (List.length_eq_zero_iff.not.2 hne)

/-- What a digit makes of the number in front of it that has no room for it. -/
def roundedBy (c : Char) (n : Nat) : Nat := if 5 ≤ digitValue c then n + 1 else n

private theorem readFrom_full {negative : Bool} {c : Char} {back : List Char} (hc : c.isDigit = true)
    (hback : ∀ x ∈ back, x.isDigit = true) (hn : n + 1 < 2 ^ 96) :
    readFrom negative ⟨n, 28, true, true⟩ (c :: back) = finish negative (roundedBy c n) 28 := by
  have hignoring : ∀ r : Except ReadError Decimal, r.bind (ignoring back) = r := by
    have hnone : back.find? (fun c => !c.isDigit && c != '_') = none :=
      List.find?_eq_none.2 fun x hx => by simp [hback x hx]
    intro r
    cases r with
    | error e => rfl
    | ok d =>
      dsimp only [Except.bind, ignoring]
      rw [hnone]
  rw [readFrom, if_pos rfl, hignoring, roundOff, hc, roundedBy]
  by_cases hup : 5 ≤ digitValue c
  · simp [hup, hn]
  · simp [hup]

/-- A digit and what stands behind it, in units of the last place, round to the nearest number. -/
private theorem abs_roundedBy_sub_le {c : Char} (hc : c.isDigit = true) {back : List Char}
    (hback : ∀ x ∈ back, x.isDigit = true) (n : Nat) :
    |(10 ^ (c :: back).length * roundedBy c n - (10 ^ (c :: back).length * n + ofDigits (c :: back) : ℕ) : ℚ)| ≤
      5 * 10 ^ back.length := by
  have hdigit : (digitValue c : ℚ) ≤ 9 := by exact_mod_cast Nat.le_of_lt_succ (digitValue_lt hc)
  have hrest : (ofDigits back : ℚ) < 10 ^ back.length := by exact_mod_cast ofDigits_lt hback
  have hrest' : (0 : ℚ) ≤ ofDigits back := by positivity
  have hunit : (0 : ℚ) < 10 ^ back.length := by positivity
  rw [ofDigits_cons, List.length_cons]
  push_cast
  rw [pow_succ]
  generalize (10 : ℚ) ^ back.length = unit at hrest hunit ⊢
  have hleast : 0 ≤ unit * digitValue c := mul_nonneg hunit.le (by positivity)
  have hmost : unit * digitValue c ≤ unit * 9 := mul_le_mul_of_nonneg_left hdigit hunit.le
  unfold roundedBy
  rw [abs_le]
  split
  · rename_i hup
    have hmore : unit * 5 ≤ unit * digitValue c := mul_le_mul_of_nonneg_left (by exact_mod_cast hup) hunit.le
    push_cast
    constructor <;> linarith
  · rename_i hdown
    have hless : unit * digitValue c ≤ unit * 4 :=
      mul_le_mul_of_nonneg_left (by exact_mod_cast (by omega : digitValue c ≤ 4)) hunit.le
    constructor <;> linarith

/-- Half a unit of the last place, as it is told from the digits behind it. -/
private theorem abs_div_sub_div_le {m n unit : ℚ} (hunit : 0 < unit) (h : |unit * 10 * m - n| ≤ 5 * unit) :
    |m / 10 ^ 28 - n / (10 ^ 28 * (unit * 10))| ≤ 1 / 2 / 10 ^ 28 := by
  have hcommon : m / 10 ^ 28 - n / (10 ^ 28 * (unit * 10)) = (unit * 10 * m - n) / (10 ^ 28 * (unit * 10)) := by
    field_simp
  have hhalf : 1 / 2 / 10 ^ 28 = 5 * unit / (10 ^ 28 * (unit * 10)) := by
    field_simp
    norm_num
  rw [hcommon, hhalf, abs_div, abs_of_pos (by positivity : 0 < (10 : ℚ) ^ 28 * (unit * 10))]
  exact div_le_div_of_nonneg_right h (by positivity)

/-- Places that find no room are rounded off. -/
theorem ofChars_of_long (h : Writes cs n k) (hn : n < 10 ^ 28) (hk : 28 < k) (negative : Bool) :
    ∃ m, ofChars (signChars negative ++ cs) = finish negative m 28 ∧
      |(m / 10 ^ 28 - n / 10 ^ k : ℚ)| ≤ 1 / 2 / 10 ^ 28 := by
  rw [ofChars_of_signChars h]
  cases h with
  | whole _ _ => omega
  | @places ds fs hne hds _ hfs =>
    obtain ⟨front, c, back, rfl, hfront⟩ : ∃ front c back, fs = front ++ c :: back ∧ front.length = 28 := by
      refine ⟨fs.take 28, fs[28], fs.drop 29, ?_, by rw [List.length_take]; omega⟩
      rw [← List.drop_eq_getElem_cons hk, List.take_append_drop]
    have hc : c.isDigit = true := hfs c (List.mem_append_right _ List.mem_cons_self)
    have hback : ∀ x ∈ back, x.isDigit = true :=
      fun x hx => hfs x (List.mem_append_right _ (List.mem_cons_of_mem _ hx))
    have hvalue : ofDigits (ds ++ (front ++ c :: back)) =
        10 ^ (c :: back).length * ofDigits (ds ++ front) + ofDigits (c :: back) := by
      rw [← List.append_assoc, ofDigits_append]
    have hfirst : ofDigits (ds ++ front) = 10 ^ 28 * ofDigits ds + ofDigits front := by rw [ofDigits_append, hfront]
    have hle : ofDigits (ds ++ front) ≤ 10 ^ (c :: back).length * ofDigits (ds ++ front) :=
      Nat.le_mul_of_pos_left _ (by positivity)
    refine ⟨roundedBy c (ofDigits (ds ++ front)), ?_, ?_⟩
    · have hread := readFrom_places (k := 0) (c := ofDigits ds) negative (c :: back)
        (fun x hx => hfs x (List.mem_append_left _ hx)) (by rw [hfront]; omega) (by omega)
      rw [readFrom_start _ _ hds hne (by omega), readFrom_point, hread, hfront, Nat.zero_add, ← hfirst]
      exact readFrom_full hc hback (by omega)
    · have hclose := abs_roundedBy_sub_le hc hback (ofDigits (ds ++ front))
      have hunit : (10 : ℚ) ^ (c :: back).length = 10 ^ back.length * 10 := pow_succ _ _
      rw [hvalue, List.length_append, hfront, pow_add, hunit]
      rw [hunit] at hclose
      exact abs_div_sub_div_le (by positivity) hclose

end

/-! ### The text of a decimal -/

private theorem finish_eq_ok {negative : Bool} {n k : Nat} (hn : n < 2 ^ 96) (hk : k ≤ 28) :
    finish negative n k = .ok ⟨negative && n != 0, n, k, hn, hk⟩ := by
  rw [finish, ofParts?, dif_pos ⟨hn, hk⟩]

private theorem toRat_of_finish {negative : Bool} {n k : Nat} {d : Decimal} (h : finish negative n k = .ok d) :
    d.toRat = (if negative then -1 else 1) * (n / 10 ^ k) := by
  rw [finish, ofParts?] at h
  split at h
  · rename_i hparts
    split at hparts
    · cases hparts
      cases h
      rw [toRat_mk]
      by_cases hn : n = 0
      · simp [hn]
      · rw [bne_iff_ne.2 hn, Bool.and_true]
    · cases hparts
  · cases h

theorem exists_chars (d : Decimal) :
    ∃ cs, Writes cs d.coefficient d.scale ∧ d.chars = signChars d.negative ++ cs := by
  let padded := List.replicate (d.scale + 1 - (digits d.coefficient).length) '0' ++ digits d.coefficient
  have hdigits : ∀ x ∈ padded, x.isDigit = true := by
    intro x hx
    exact (List.mem_append.1 hx).elim isDigit_zeros isDigit_of_mem_digits
  have hvalue : ofDigits padded = d.coefficient := by
    rw [ofDigits_append, ofDigits_replicate, Nat.mul_zero, Nat.zero_add, ofDigits_digits]
  have hlength : d.scale < padded.length := by
    rw [List.length_append, List.length_replicate]
    omega
  have hchars : d.chars = signChars d.negative ++ (padded.take (padded.length - d.scale) ++
      if d.scale = 0 then [] else '.' :: padded.drop (padded.length - d.scale)) := List.append_assoc _ _ _
  refine ⟨_, ?_, hchars⟩
  by_cases hscale : d.scale = 0
  · have h : Writes padded (ofDigits padded) 0 :=
      .whole (List.append_ne_nil_of_right_ne_nil _ (digits_ne_nil _)) hdigits
    rw [if_pos hscale, hscale, Nat.sub_zero, List.take_length, List.append_nil]
    rwa [hvalue] at h
  · have h := Writes.of_split hdigits (by omega) hlength
    rw [if_neg hscale]
    rwa [hvalue] at h

/-- A decimal is read back from its text, but a zero without its sign. -/
theorem ofText_text_eq (d : Decimal) : ofText d.text =
    .ok ⟨d.negative && d.coefficient != 0, d.coefficient, d.scale, d.coefficient_lt, d.scale_le⟩ := by
  obtain ⟨cs, hwrites, hchars⟩ := d.exists_chars
  rw [ofText, text, String.toList_ofList, hchars, ofChars_of_writes hwrites d.coefficient_lt d.scale_le,
    finish_eq_ok d.coefficient_lt d.scale_le]

theorem ofText_text {d : Decimal} (h : d.negative = true → d.coefficient ≠ 0) : ofText d.text = .ok d := by
  have hsign : (d.negative && d.coefficient != 0) = d.negative := by
    cases hnegative : d.negative with
    | true => simp [h hnegative]
    | false => rfl
  rw [ofText_text_eq]
  simp only [hsign]

/-! ### The text of a floating-point number -/

private theorem chars_unscaled {x : Binary64} (hx : x.isFinite = true) :
    FloatLayout.unscaled.chars x =
      signChars x.isNegative ++ FloatLayout.plain false x.shortest.1 x.shortest.2 := by
  have hword : x.absWord < Binary64.infinityWord := of_decide_eq_true hx
  have hplain : FloatLayout.unscaled.isPlain x = true := by
    have hhighest : FloatLayout.unscaled.highest.absWord = Binary64.infinityWord := by decide
    rw [FloatLayout.isPlain, hhighest, Bool.or_eq_true, Bool.and_eq_true, decide_eq_true_eq, decide_eq_true_eq]
    exact .inr ⟨Nat.zero_le _, hword.le⟩
  rw [FloatLayout.chars, Binary64.isNaN_of_isFinite hx, if_neg Bool.false_ne_true, Binary64.isInfinite_of_isFinite hx]
  dsimp only
  rw [if_neg Bool.false_ne_true, hplain, if_pos rfl, signChars]
  cases x.isNegative <;> rfl

/-- The plain text of a floating-point number is read as the number that its digits denote, rounded to twenty-eight
places if they are more. -/
theorem toRat_of_unscaled {x : Binary64} (hx : x.isFinite = true) {d : Decimal}
    (h : ofText (FloatLayout.unscaled.text x) = .ok d) :
    (-28 ≤ x.shortest.2 → d.toRat = x.written) ∧ |d.toRat - x.written| ≤ 1 / 2 / 10 ^ 28 := by
  have hchars := chars_unscaled hx
  rw [ofText, FloatLayout.text, String.toList_ofList, hchars] at h
  have hexact : d.toRat = x.written → (-28 ≤ x.shortest.2 → d.toRat = x.written) ∧
      |d.toRat - x.written| ≤ 1 / 2 / 10 ^ 28 := by
    intro heq
    refine ⟨fun _ => heq, ?_⟩
    rw [heq, sub_self, abs_zero]
    positivity
  by_cases he : 0 ≤ x.shortest.2
  · have hwrites := FloatLayout.writes_plain_of_nonneg (c := x.shortest.1) he
    by_cases hlt : x.shortest.1 * 10 ^ x.shortest.2.toNat < 2 ^ 96
    · rw [ofChars_of_writes hwrites hlt (Nat.zero_le _)] at h
      refine hexact ((toRat_of_finish h).trans ?_)
      rw [Binary64.written, pow_zero, div_one, Nat.cast_mul, Nat.cast_pow, Nat.cast_ofNat, ← zpow_natCast,
        Int.toNat_of_nonneg he]
    · rw [ofChars_of_tooLarge hwrites (by omega)] at h
      cases h
  · have hwrites : Writes (FloatLayout.plain false x.shortest.1 x.shortest.2) x.shortest.1 (-x.shortest.2).toNat :=
      FloatLayout.writes_plain_of_neg (not_le.1 he)
    have hcoefficient := Binary64.shortest_lt hx
    have hwritten : x.written = (if x.isNegative then -1 else 1) *
        ((x.shortest.1 : ℚ) / 10 ^ (-x.shortest.2).toNat) := by
      rw [Binary64.written, ← zpow_natCast, Int.toNat_of_nonneg (by omega), zpow_neg, div_inv_eq_mul]
    by_cases hk : (-x.shortest.2).toNat ≤ 28
    · rw [ofChars_of_writes hwrites (by omega) hk] at h
      exact hexact ((toRat_of_finish h).trans hwritten.symm)
    · obtain ⟨m, hread, hclose⟩ := ofChars_of_long hwrites (by omega) (by omega) x.isNegative
      rw [hread] at h
      refine ⟨fun hle => absurd hle (by omega), ?_⟩
      rwa [toRat_of_finish h, hwritten, ← mul_sub, abs_mul, abs_sign, one_mul]

end Decimal

end Sandscript
