import Mathlib.Data.Rat.Floor
import Sandscript.Proofs.Library.Calls
import Sandscript.Proofs.Numeric.Squaring
import Sandscript.Proofs.Value.Decimals

/-!
# Exact integers

Absolute values, powers and totals of integers and the whole parts of decimals are the exact integers where these have
64 bits, and are refused otherwise (`integers_exact`).  A total is refused too if it goes beyond 64 bits on the way,
although the items that follow may bring it back.
-/

namespace Sandscript.Library

open Numeric

/-- The integers of 64 bits. -/
def Fits (n : Int) : Prop := -(2 ^ 63) ≤ n ∧ n < 2 ^ 63

instance (n : Int) : Decidable (Fits n) := inferInstanceAs (Decidable (_ ∧ _))

/-- A call answers with the integer `n` if the condition holds, and with the refusal otherwise. -/
structure AnswersExactly (name : String) (args : List Value) (n : Int) (condition : Prop) (message : String) :
    Prop where
  exact : condition → ∃ w : Int64, w.toInt = n ∧ call? name args = some (.ok (.int w))
  refused : ¬ condition → call? name args = some (.error (.refusal message))

private theorem word?_eq_some_of_fits {n : Int} (h : Fits n) : ∃ w, word? n = some w ∧ w.toInt = n := by
  obtain ⟨w, hw⟩ := Option.ne_none_iff_exists'.1 fun hnone => word?_eq_none_iff.1 hnone h
  exact ⟨w, hw, toInt_of_word? hw⟩

private theorem answersExactly_of_word? {name message : String} {args : List Value} {n : Int}
    (h : call? name args = refused .int (orRefuse message (word? n))) :
    AnswersExactly name args n (Fits n) message := by
  constructor
  · intro hfits
    obtain ⟨w, hword, htoInt⟩ := word?_eq_some_of_fits hfits
    refine ⟨w, htoInt, ?_⟩
    rw [h, hword]
    rfl
  · intro hlarge
    rw [h, word?_eq_none_iff.2 hlarge]
    rfl

/-! ### Absolute values -/

private theorem abs_exact (x : Int64) :
    AnswersExactly "abs" [.int x] |x.toInt| (Fits |x.toInt|) "integer overflow in abs()" := by
  refine answersExactly_of_word? ?_
  rw [call?_abs, abs, Int.abs_eq_natAbs]

/-! ### Powers -/

/-- The exponents that `pow` takes. -/
def IsExponent (e : Int64) : Prop := 0 ≤ e.toInt ∧ e.toInt < 2 ^ 32

instance (e : Int64) : Decidable (IsExponent e) := inferInstanceAs (Decidable (_ ∧ _))

private theorem not_fits_pow {b : Int} (hb : 1 < b.natAbs) {e : Nat} (he : 64 ≤ e) : ¬ Fits (b ^ e) := by
  have hlarge : 2 ^ 64 ≤ (b ^ e).natAbs := by
    rw [Int.natAbs_pow]
    exact (Nat.pow_le_pow_left hb 64).trans (Nat.pow_le_pow_right (by omega) he)
  unfold Fits
  omega

/-- The powers of 0, 1 and -1 depend on whether there are factors and on their parity. -/
private theorem pow_small {b : Int} (hb : b.natAbs ≤ 1) (e : Nat) : b ^ (if e = 0 then 0 else 2 - e % 2) = b ^ e := by
  split
  · rename_i hzero
    rw [hzero]
  · rename_i hpos
    obtain rfl | rfl | rfl : b = 0 ∨ b = 1 ∨ b = -1 := by omega
    · rw [Int.zero_pow (by omega), Int.zero_pow hpos]
    · rw [Int.one_pow, Int.one_pow]
    · rcases Nat.mod_two_eq_zero_or_one e with heven | hodd
      · rw [heven, Even.neg_one_pow (Nat.even_iff.2 heven)]
        rfl
      · rw [hodd, Odd.neg_one_pow (Nat.odd_iff.2 hodd)]
        rfl

private theorem power?_eq (b : Int64) (e : Nat) : Numeric.power? b e = word? (b.toInt ^ e) := by
  unfold Numeric.power?
  by_cases hsmall : b.toInt.natAbs ≤ 1
  · rw [if_pos hsmall, pow_small hsmall]
  rw [if_neg hsmall]
  by_cases hlarge : 64 ≤ e
  · rw [if_pos hlarge]
    exact (word?_eq_none_iff.2 (not_fits_pow (by omega) hlarge)).symm
  · rw [if_neg hlarge]

private theorem pow_exact (b : Int64) {e : Int64} (he : IsExponent e) :
    AnswersExactly "pow" [.int b, .int e] (b.toInt ^ e.toInt.toNat) (Fits (b.toInt ^ e.toInt.toNat))
      "integer overflow in pow()" := by
  refine answersExactly_of_word? ?_
  have hnonneg : ¬ (e < 0 ∨ 2 ^ 32 ≤ e.toInt) := by
    rw [Int64.lt_iff_toInt_lt, show (0 : Int64).toInt = 0 by decide]
    exact fun h => h.elim (Int.not_lt.2 he.1) (Int.not_le.2 he.2)
  rw [call?_pow, pow, if_neg hnonneg, power?_eq]

/-! ### Totals -/

/-- The total of some integers, of whatever size. -/
def total (ns : List Int64) : Int := (ns.map Int64.toInt).sum

private theorem total_nil : total [] = 0 := rfl

private theorem total_cons (n : Int64) (ns : List Int64) : total (n :: ns) = n.toInt + total ns := rfl

/-- The message about totals that do not fit. -/
def totalMessage : String := "integer overflow in sum()"

private theorem forall_prefix_cons {p : List Int64 → Prop} {n : Int64} {ns : List Int64} (hnil : p []) :
    (∀ start, start <+: n :: ns → p start) ↔ ∀ start, start <+: ns → p (n :: start) := by
  constructor
  · exact fun h start hstart => h _ (List.cons_prefix_cons.2 ⟨rfl, hstart⟩)
  · intro h start hstart
    rcases List.prefix_cons_iff.1 hstart with rfl | ⟨rest, rfl, hrest⟩
    · exact hnil
    · exact h rest hrest

private theorem fits_add_total_nil (sofar : Int64) : Fits (sofar.toInt + total []) := by
  rw [total_nil, Int.add_zero]
  exact ⟨sofar.le_toInt, sofar.toInt_lt⟩

/-- The sum goes on exactly as long as the total so far fits. -/
private theorem sumFrom_ints (ns : List Int64) (sofar : Int64) :
    ((∀ start, start <+: ns → Fits (sofar.toInt + total start)) →
        ∃ w : Int64, w.toInt = sofar.toInt + total ns ∧ sumFrom sofar (ns.map .int) = .ok (.int w)) ∧
      (¬ (∀ start, start <+: ns → Fits (sofar.toInt + total start)) →
        sumFrom sofar (ns.map .int) = .error totalMessage) := by
  induction ns generalizing sofar with
  | nil =>
    refine ⟨fun _ => ⟨sofar, (Int.add_zero _).symm, rfl⟩, fun h => absurd (fun start hstart => ?_) h⟩
    rw [List.prefix_nil.1 hstart]
    exact fits_add_total_nil sofar
  | cons n rest ih =>
    rw [forall_prefix_cons (p := fun start => Fits (sofar.toInt + total start)) (fits_add_total_nil sofar),
      List.map_cons, sumFrom]
    simp only [total_cons, ← Int.add_assoc]
    cases hword : word? (sofar.toInt + n.toInt) with
    | none =>
      have hlarge : ¬ Fits (sofar.toInt + n.toInt) := word?_eq_none_iff.1 hword
      refine ⟨fun h => absurd (h [] List.nil_prefix) ?_, fun _ => rfl⟩
      rw [total_nil, Int.add_zero]
      exact hlarge
    | some w =>
      rw [← toInt_of_word? hword]
      exact ih w

private theorem sum_exact (ns : List Int64) :
    AnswersExactly "sum" [.arr (ns.map .int)] (total ns) (∀ start, start <+: ns → Fits (total start)) totalMessage := by
  obtain ⟨hexact, hrefused⟩ := sumFrom_ints ns 0
  simp only [show (0 : Int64).toInt = 0 by decide, Int.zero_add] at hexact hrefused
  constructor
  · intro hfits
    obtain ⟨w, htoInt, hsum⟩ := hexact hfits
    refine ⟨w, htoInt, ?_⟩
    rw [call?_sum, sum, hsum]
    rfl
  · intro hlarge
    rw [call?_sum, sum, hrefused hlarge]
    rfl

/-! ### Whole parts of decimals -/

/-- The whole part of a number, toward zero. -/
def towardZero (q : ℚ) : ℤ := if 0 ≤ q then ⌊q⌋ else ⌈q⌉

private theorem towardZero_div (n : ℤ) {d : ℕ} (hd : 0 < d) : towardZero ((n : ℚ) / d) = n.tdiv d := by
  have hsign : 0 ≤ (n : ℚ) / d ↔ 0 ≤ n := by
    have hpos : (0 : ℚ) < d := by exact_mod_cast hd
    rw [le_div_iff₀ hpos, zero_mul, Int.cast_nonneg_iff]
  unfold towardZero
  by_cases hn : 0 ≤ n
  · rw [if_pos (hsign.2 hn), Rat.floor_intCast_div_natCast, Int.tdiv_eq_ediv_of_nonneg hn]
  · rw [if_neg fun h => hn (hsign.1 h), Rat.ceil_intCast_div_natCast, ← Int.tdiv_eq_ediv_of_nonneg (by omega),
      Int.neg_tdiv, Int.neg_neg]

private theorem truncated_eq_towardZero (d : Decimal) : d.truncated = towardZero d.toRat := by
  have hpower : (10 ^ d.scale : ℚ) = ((10 ^ d.scale : ℕ) : ℚ) := by rw [Nat.cast_pow, Nat.cast_ofNat]
  rw [d.truncated_eq, Decimal.toRat, hpower, towardZero_div _ (by positivity), Nat.cast_pow, Nat.cast_ofNat]

private theorem int_exact (d : Decimal) :
    AnswersExactly "int" [.dec d] (towardZero d.toRat) (Fits (towardZero d.toRat))
      ("int() cannot convert " ++ d.text ++ " to an integer") := by
  rw [← truncated_eq_towardZero]
  exact answersExactly_of_word? (call?_int (.dec d))

/-! ### All of them -/

/-- The integer results of the library are exact.  `abs`, `pow` and the whole part of a decimal are refused just if they
do not fit, and a total just if that of some first items does not; squaring again and again on the way to a power
refuses nothing that fits. -/
theorem integers_exact :
    (∀ x : Int64, AnswersExactly "abs" [.int x] |x.toInt| (Fits |x.toInt|) "integer overflow in abs()") ∧
      (∀ b e : Int64, IsExponent e →
        AnswersExactly "pow" [.int b, .int e] (b.toInt ^ e.toInt.toNat) (Fits (b.toInt ^ e.toInt.toNat))
            "integer overflow in pow()" ∧
          Numeric.power? b e.toInt.toNat = powerFrom? 1 b e.toInt.toNat) ∧
      (∀ ns : List Int64, AnswersExactly "sum" [.arr (ns.map .int)] (total ns)
        (∀ start, start <+: ns → Fits (total start)) "integer overflow in sum()") ∧
      ∀ d : Decimal, AnswersExactly "int" [.dec d] (towardZero d.toRat) (Fits (towardZero d.toRat))
        ("int() cannot convert " ++ d.text ++ " to an integer") := by
  refine ⟨abs_exact, fun b e he => ⟨pow_exact b he, ?_⟩, sum_exact, int_exact⟩
  rw [power?_eq, powerFrom?_one]

/-- The least integer has no absolute value, but is a power of -2 and the whole part of a decimal.  A total that fits is
refused for the first two items. -/
theorem integers_exact_of_limits :
    call? "abs" [.int (-9223372036854775808)] = some (.error (.refusal "integer overflow in abs()")) ∧
      call? "pow" [.int (-2), .int 63] = some (.ok (.int (-9223372036854775808))) ∧
      call? "sum" [.arr [.int 9223372036854775807, .int 1, .int (-1)]] =
        some (.error (.refusal "integer overflow in sum()")) ∧
      call? "int" [.dec ⟨true, 92233720368547758089, 1, by decide, by decide⟩] =
        some (.ok (.int (-9223372036854775808))) := by
  obtain ⟨habs, hpow, hsum, hint⟩ := integers_exact
  have hleast {w : Int64} (h : w.toInt = -9223372036854775808) : w = -9223372036854775808 := Int64.toInt_inj.1 h
  refine ⟨(habs _).refused (by decide), ?_, (hsum [9223372036854775807, 1, -1]).refused fun h => ?_, ?_⟩
  · obtain ⟨w, htoInt, hcall⟩ := (hpow (-2) 63 (by decide)).1.exact (by decide)
    rw [hcall, hleast htoInt]
  · exact absurd (h [9223372036854775807, 1] ⟨[-1], rfl⟩) (by decide)
  · have hwhole : towardZero (Decimal.toRat ⟨true, 92233720368547758089, 1, by decide, by decide⟩) =
        -9223372036854775808 := by
      rw [← truncated_eq_towardZero]
      decide
    have hfits : Fits (-9223372036854775808) := by decide
    obtain ⟨w, htoInt, hcall⟩ := (hint _).exact (hwhole ▸ hfits)
    rw [hcall, hleast (htoInt.trans hwhole)]

end Sandscript.Library
