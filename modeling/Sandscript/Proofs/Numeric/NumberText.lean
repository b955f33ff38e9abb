import Mathlib.Algebra.Order.Field.Power
import Mathlib.Tactic.FieldSimp
import Mathlib.Tactic.Ring
import Sandscript.Proofs.Numeric.Digits
import Sandscript.Proofs.Numeric.Shortest

/-!
# What the text of a number denotes

A number is written with digits, perhaps with a point among them (`Writes`), and with a sign and an exponent around
them.  The text of a finite floating-point number denotes its shortest digits in every layout (`denoted?_chars`).
-/

namespace Sandscript

namespace Numeric

/-! ### Digits and points -/

/-- The digits of a text read `n`, and `places` of them stand behind a point. -/
inductive Writes : List Char → Nat → Nat → Prop
  | whole {ds : List Char} : ds ≠ [] → (∀ c ∈ ds, c.isDigit = true) → Writes ds (ofDigits ds) 0
  | places {ds fs : List Char} : ds ≠ [] → (∀ c ∈ ds, c.isDigit = true) → fs ≠ [] → (∀ c ∈ fs, c.isDigit = true) →
      Writes (ds ++ '.' :: fs) (ofDigits (ds ++ fs)) fs.length

theorem isDigit_zeros {k : Nat} {c : Char} (h : c ∈ List.replicate k '0') : c.isDigit = true := by
  rw [List.eq_of_mem_replicate h]
  rfl

private theorem writes_digits (n : Nat) : Writes (digits n) n 0 := by
  have h := Writes.whole (digits_ne_nil n) (fun _ => isDigit_of_mem_digits)
  rwa [ofDigits_digits] at h

/-- A point put among digits, `k` places from their end. -/
theorem Writes.of_split {ds : List Char} {k : Nat} (hds : ∀ c ∈ ds, c.isDigit = true) (hpos : 0 < k)
    (hk : k < ds.length) : Writes (ds.take (ds.length - k) ++ '.' :: ds.drop (ds.length - k)) (ofDigits ds) k := by
  have hfront : ds.take (ds.length - k) ≠ [] := by
    rw [← List.length_pos_iff, List.length_take]
    omega
  have hback : ds.drop (ds.length - k) ≠ [] := by
    rw [← List.length_pos_iff, List.length_drop]
    omega
  have h := Writes.places hfront (fun c hc => hds c (List.mem_of_mem_take hc)) hback
    (fun c hc => hds c (List.mem_of_mem_drop hc))
  rwa [List.take_append_drop, List.length_drop, Nat.sub_sub_self hk.le] at h

end Numeric

open Numeric

namespace FloatLayout

/-- The digits of a whole number without an exponent. -/
private theorem exists_plain_of_nonneg {c : Nat} {e : Int} (he : 0 ≤ e) : ∃ ds, ds ≠ [] ∧ (∀ x ∈ ds, x.isDigit = true) ∧
    ofDigits ds = c * 10 ^ e.toNat ∧
      ∀ pointZero, plain pointZero c e = ds ++ if pointZero then ['.', '0'] else [] := by
  by_cases hc : c = 0
  · refine ⟨['0'], List.cons_ne_nil _ _, by simp, ?_, fun pointZero => by rw [plain, if_pos he, if_pos hc]⟩
    rw [hc, Nat.zero_mul]
    rfl
  · refine ⟨digits c ++ zeros e.toNat, by simp [digits_ne_nil], ?_, ?_, fun pointZero => by
      rw [plain, if_pos he, if_neg hc]⟩
    · intro x hx
      exact (List.mem_append.1 hx).elim isDigit_of_mem_digits isDigit_zeros
    · rw [ofDigits_append, ofDigits_digits, zeros, ofDigits_replicate, List.length_replicate, Nat.add_zero,
        Nat.mul_comm]

theorem writes_plain_of_nonneg {c : Nat} {e : Int} (he : 0 ≤ e) : Writes (plain false c e) (c * 10 ^ e.toNat) 0 := by
  obtain ⟨ds, hne, hds, hvalue, hplain⟩ := exists_plain_of_nonneg (c := c) he
  rw [hplain false, if_neg Bool.false_ne_true, List.append_nil, ← hvalue]
  exact .whole hne hds

private theorem writes_plain_point_zero {c : Nat} {e : Int} (he : 0 ≤ e) :
    Writes (plain true c e) (c * 10 ^ e.toNat * 10) 1 := by
  obtain ⟨ds, hne, hds, hvalue, hplain⟩ := exists_plain_of_nonneg (c := c) he
  have h : Writes (ds ++ '.' :: ['0']) (ofDigits (ds ++ ['0'])) 1 := .places hne hds (by simp) (by simp)
  have hzero : ofDigits (ds ++ ['0']) = c * 10 ^ e.toNat * 10 := by
    rw [ofDigits_append, hvalue, Nat.mul_comm]
    rfl
  rw [hplain true, if_pos rfl]
  rwa [hzero] at h

theorem writes_plain_of_neg {pointZero : Bool} {c : Nat} {e : Int} (he : e < 0) :
    Writes (plain pointZero c e) c (-e).toNat := by
  have hplaces : 0 < (-e).toNat := by omega
  rw [plain, if_neg (by omega)]
  dsimp only
  split
  · rename_i hlength
    have h := Writes.of_split (fun _ => isDigit_of_mem_digits) hplaces hlength
    rwa [ofDigits_digits] at h
  · rename_i hlength
    have hfraction : ∀ x ∈ zeros ((-e).toNat - (digits c).length) ++ digits c, x.isDigit = true := by
      intro x hx
      exact (List.mem_append.1 hx).elim isDigit_zeros isDigit_of_mem_digits
    have hzero : ∀ x ∈ ['0'], x.isDigit = true := by simp
    have h := Writes.places (List.cons_ne_nil '0' []) hzero (List.append_ne_nil_of_right_ne_nil _ (digits_ne_nil c))
      hfraction
    have hvalue : ofDigits (['0'] ++ (zeros ((-e).toNat - (digits c).length) ++ digits c)) = c := by
      rw [ofDigits_append, ofDigits_append, ofDigits_digits, zeros, ofDigits_replicate]
      simp [ofDigits, digitValue]
    have hcount : (zeros ((-e).toNat - (digits c).length) ++ digits c).length = (-e).toNat := by
      rw [List.length_append, zeros, List.length_replicate]
      omega
    rwa [hvalue, hcount] at h

/-- The digits of a number with a point behind the first one. -/
def mantissa (c : Nat) : List Char :=
  (digits c).take 1 ++ if (digits c).length = 1 then [] else '.' :: (digits c).drop 1

private theorem writes_mantissa (c : Nat) : Writes (mantissa c) c ((digits c).length - 1) := by
  unfold mantissa
  by_cases hlength : (digits c).length = 1
  · rw [if_pos hlength, hlength, List.append_nil, List.take_of_length_le hlength.le]
    exact writes_digits c
  · have hpos := List.length_pos_iff.2 (digits_ne_nil c)
    have hdigits : ∀ x ∈ digits c, x.isDigit = true := fun _ => isDigit_of_mem_digits
    have h := Writes.of_split (k := (digits c).length - 1) hdigits (by omega) (by omega)
    rw [Nat.sub_sub_self hpos, ofDigits_digits] at h
    rwa [if_neg hlength]

end FloatLayout

/-! ### What is denoted -/

namespace Numeric

/-- The exponent that stands behind the digits of a number. -/
def denotedExponent? : List Char → Option Int
  | [] => some 0
  | 'e' :: '-' :: ds => if ds ≠ [] ∧ ds.all Char.isDigit then some (-(ofDigits ds)) else none
  | 'e' :: '+' :: ds => if ds ≠ [] ∧ ds.all Char.isDigit then some (ofDigits ds) else none
  | 'e' :: ds => if ds ≠ [] ∧ ds.all Char.isDigit then some (ofDigits ds) else none
  | _ => none

/-- The digits behind a point, and what follows them. -/
def takePlaces : List Char → List Char × List Char
  | '.' :: r => (r.takeWhile Char.isDigit, r.dropWhile Char.isDigit)
  | r => ([], r)

/-- The number that a text without a sign denotes. -/
def denotedMagnitude? (cs : List Char) : Option ℚ :=
  let whole := cs.takeWhile Char.isDigit
  let (fraction, rest) := takePlaces (cs.dropWhile Char.isDigit)
  if whole = [] then none
  else (denotedExponent? rest).map fun e : Int => (ofDigits (whole ++ fraction) : ℚ) * 10 ^ (e - fraction.length)

/-- The number that a text denotes: digits, with a sign, a point and an exponent if it has them. -/
def denoted? : List Char → Option ℚ
  | '-' :: cs => (denotedMagnitude? cs).map fun q => -q
  | cs => denotedMagnitude? cs

theorem abs_sign (negative : Bool) : |(if negative then -1 else 1 : ℚ)| = 1 := by cases negative <;> simp

/-- What may follow the digits of a number. -/
def EndsDigits (rest : List Char) : Prop := ∀ c ∈ rest.head?, c = 'e'

private theorem EndsDigits.takeWhile {rest : List Char} (h : EndsDigits rest) {ds : List Char}
    (hds : ∀ c ∈ ds, c.isDigit = true) : (ds ++ rest).takeWhile Char.isDigit = ds ∧
      (ds ++ rest).dropWhile Char.isDigit = rest := by
  rw [List.takeWhile_append_of_pos hds, List.dropWhile_append_of_pos hds]
  cases rest with
  | nil => simp
  | cons c rest =>
    have hc : c.isDigit = false := by
      rw [h c rfl]
      rfl
    simp [hc]

private theorem EndsDigits.takePlaces {rest : List Char} (h : EndsDigits rest) : takePlaces rest = ([], rest) := by
  unfold Numeric.takePlaces
  split
  · cases h '.' rfl
  · rfl

private theorem Writes.denotedMagnitude? {cs rest : List Char} {n k : Nat} (h : Writes cs n k)
    (hrest : EndsDigits rest) :
    denotedMagnitude? (cs ++ rest) = (denotedExponent? rest).map fun e : Int => (n : ℚ) * 10 ^ (e - k) := by
  unfold Numeric.denotedMagnitude?
  cases h with
  | @whole ds hne hds =>
    obtain ⟨htake, hdrop⟩ := hrest.takeWhile hds
    rw [htake, hdrop, hrest.takePlaces]
    dsimp only
    rw [if_neg hne, List.append_nil]
    rfl
  | @places ds fs hne hds hne' hfs =>
    have hsplit : (ds ++ '.' :: fs ++ rest) = ds ++ '.' :: (fs ++ rest) := by simp
    obtain ⟨htake, hdrop⟩ := hrest.takeWhile hfs
    rw [hsplit, List.takeWhile_append_of_pos hds, List.dropWhile_append_of_pos hds,
      List.takeWhile_cons_of_neg (by decide), List.dropWhile_cons_of_neg (by decide), List.append_nil, takePlaces,
      htake,
      hdrop]
    dsimp only
    rw [if_neg hne]

private theorem denoted?_of_magnitude {cs : List Char} {q : ℚ} (h : denotedMagnitude? cs = some q) :
    denoted? cs = some q := by
  unfold denoted?
  split
  · rw [denotedMagnitude?, List.takeWhile_cons_of_neg (by decide)] at h
    cases h
  · exact h

/-- An exponent is denoted by its digits behind a sign; a plus sign may be left out. -/
private theorem denotedExponent?_eq (n : Int) (plusSign : Bool) :
    denotedExponent? ('e' :: (if n < 0 then ['-'] else if plusSign then ['+'] else []) ++ digits n.natAbs) =
      some n := by
  have hdigits : digits n.natAbs ≠ [] ∧ (digits n.natAbs).all Char.isDigit = true :=
    ⟨digits_ne_nil _, List.all_eq_true.2 fun _ => isDigit_of_mem_digits⟩
  by_cases hneg : n < 0
  · rw [if_pos hneg, List.cons_append, List.singleton_append, denotedExponent?, if_pos hdigits, ofDigits_digits]
    congr 1
    omega
  · have hvalue : ((ofDigits (digits n.natAbs) : Nat) : Int) = n := by
      rw [ofDigits_digits]
      omega
    rw [if_neg hneg]
    cases plusSign with
    | true =>
      rw [if_pos rfl, List.cons_append, List.singleton_append, denotedExponent?, if_pos hdigits, hvalue]
    | false =>
      obtain ⟨d, ds, hcons⟩ := List.exists_cons_of_ne_nil hdigits.1
      have hd : d.isDigit = true := isDigit_of_mem_digits (hcons ▸ List.mem_cons_self)
      rw [if_neg Bool.false_ne_true, List.cons_append, List.nil_append]
      rw [hcons] at hdigits hvalue ⊢
      unfold denotedExponent?
      split
      all_goals rename_i heq
      · cases heq
      · cases heq
        cases hd
      · cases heq
        cases hd
      · cases heq
        rw [if_pos hdigits, hvalue]
      · exact absurd rfl (heq _)

end Numeric

namespace FloatLayout

variable {c : Nat} {e : Int}

private theorem denoted_scientific (plusSign : Bool) :
    denotedMagnitude? (scientific plusSign c e) = some ((c : ℚ) * 10 ^ e) := by
  have hends : EndsDigits ('e' :: (if e + ((digits c).length - 1 : Nat) < 0 then ['-'] else if plusSign then ['+']
      else []) ++ digits (e + ((digits c).length - 1 : Nat)).natAbs) := by
    intro x hx
    exact (Option.some.inj hx).symm
  have hsplit : scientific plusSign c e = mantissa c ++ ('e' :: (if e + ((digits c).length - 1 : Nat) < 0 then ['-']
      else if plusSign then ['+'] else []) ++ digits (e + ((digits c).length - 1 : Nat)).natAbs) := by
    simp [scientific, mantissa]
  rw [hsplit, (writes_mantissa c).denotedMagnitude? hends, denotedExponent?_eq, Option.map_some, add_sub_cancel_right]

private theorem denoted_plain (pointZero : Bool) :
    denotedMagnitude? (plain pointZero c e) = some ((c : ℚ) * 10 ^ e) := by
  have hwrites : ∀ {cs : List Char} {n k : Nat}, Writes cs n k →
      denotedMagnitude? cs = some ((n : ℚ) * 10 ^ (-(k : Int))) := by
    intro cs n k h
    have hnil : EndsDigits [] := fun x hx => nomatch hx
    have hdenoted := h.denotedMagnitude? hnil
    rwa [List.append_nil, denotedExponent?, Option.map_some, zero_sub] at hdenoted
  by_cases he : 0 ≤ e
  · have hpower : (10 : ℚ) ^ e = 10 ^ e.toNat := by rw [← zpow_natCast, Int.toNat_of_nonneg he]
    cases pointZero with
    | true =>
      rw [hwrites (writes_plain_point_zero he), hpower]
      simp
    | false =>
      rw [hwrites (writes_plain_of_nonneg he), hpower]
      simp
  · have hplaces : -((-e).toNat : Int) = e := by omega
    rw [hwrites (writes_plain_of_neg (by omega)), hplaces]

end FloatLayout

namespace Binary64

/-- The number that the shortest digits of a number denote. -/
def written (x : Binary64) : ℚ := (if x.isNegative then -1 else 1) * (x.shortest.1 * 10 ^ x.shortest.2)

theorem abs_written (x : Binary64) : |x.written| = x.shortest.1 * 10 ^ x.shortest.2 := by
  rw [written, abs_mul, abs_sign, one_mul, abs_of_nonneg (by positivity)]

end Binary64

/-- The text of a finite number denotes its shortest digits, however it is laid out. -/
theorem FloatLayout.denoted?_chars {x : Binary64} (hx : x.isFinite = true) (l : FloatLayout) :
    denoted? (l.chars x) = some x.written := by
  have hbody : denotedMagnitude? (if l.isPlain x then plain l.pointZero x.shortest.1 x.shortest.2
      else scientific l.plusSign x.shortest.1 x.shortest.2) = some ((x.shortest.1 : ℚ) * 10 ^ x.shortest.2) := by
    split
    · exact denoted_plain _
    · exact denoted_scientific _
  rw [chars, Binary64.isNaN_of_isFinite hx, if_neg Bool.false_ne_true, Binary64.isInfinite_of_isFinite hx]
  dsimp only
  rw [if_neg Bool.false_ne_true]
  split
  · rename_i hsign
    rw [Bool.and_eq_true] at hsign
    rw [denoted?, hbody, Option.map_some, Binary64.written, if_pos hsign.1, neg_one_mul]
  · rename_i hsign
    rw [denoted?_of_magnitude hbody, Binary64.written]
    by_cases hnegative : x.isNegative = true
    · -- the sign of a zero was left out
      have hzero : l.signedZero = false ∧ x.isZero = true := by simpa [hnegative] using hsign
      simp [Binary64.shortest_of_isZero hzero.2]
    · rw [if_neg hnegative, one_mul]

example : denoted? (FloatLayout.interchange.chars (.ofScaled true 15 20)) = some (-15 * 10 ^ 20) := by decide +kernel

end Sandscript
