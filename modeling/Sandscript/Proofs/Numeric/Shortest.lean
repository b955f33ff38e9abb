import Mathlib.Algebra.Order.Field.Power
import Mathlib.Tactic.FieldSimp
import Mathlib.Tactic.Linarith
import Mathlib.Tactic.Ring
import Sandscript.Numeric.Shortest

/-!
# Seventeen digits suffice

The shortest digits of a number do not end in a zero.  At the seventeenth digit the grid of decimals is finer than the
interval of the numbers that are rounded to a floating-point number, so no number needs more digits than that
(`shortest_spec`).
-/

namespace Sandscript

namespace Numeric

/-! ### Powers of ten and of two -/

section

variable {a b : ℚ} {p q : ℕ} {k n : ℤ}

private theorem zpow_le_zpow_of_pow_le (ha : 1 < a) (hb : 1 < b) (hq : q ≠ 0) (hab : a ^ p ≤ b ^ q) (hn : 0 ≤ n)
    (h : q * k ≤ p * n) : a ^ k ≤ b ^ n := by
  have hpower : (a ^ k) ^ q ≤ (b ^ n) ^ q := calc
    (a ^ k) ^ q = a ^ (q * k) := by rw [← zpow_natCast, ← zpow_mul, mul_comm]
    _ ≤ a ^ (p * n) := zpow_le_zpow_right₀ ha.le h
    _ = (a ^ p) ^ n := by rw [zpow_mul, zpow_natCast]
    _ ≤ (b ^ q) ^ n := zpow_le_zpow_left₀ hn (by positivity) hab
    _ = (b ^ n) ^ q := by rw [← zpow_natCast, ← zpow_natCast, ← zpow_mul, ← zpow_mul, mul_comm]
  exact le_of_pow_le_pow_left₀ hq (by positivity) hpower

private theorem zpow_le_zpow_of_pow_le_of_nonpos (ha : 1 < a) (hb : 1 < b) (hq : q ≠ 0) (hab : a ^ p ≤ b ^ q)
    (hn : n ≤ 0) (h : p * n ≤ q * k) : b ^ n ≤ a ^ k := by
  have hinverse : a ^ (-k) ≤ b ^ (-n) := by
    refine zpow_le_zpow_of_pow_le ha hb hq hab (by omega) ?_
    rw [mul_neg, mul_neg]
    exact neg_le_neg h
  rw [zpow_neg, zpow_neg] at hinverse
  exact (inv_le_inv₀ (zpow_pos (by linarith) _) (zpow_pos (by linarith) _)).1 hinverse

end

/-- Binary exponents of floating-point numbers turn into decimal ones by a factor of `0.30103`; up to a place they are
too small. -/
private theorem ten_zpow_le_two_zpow {n : ℤ} (h : |n| ≤ 10000) : (10 : ℚ) ^ (n * 30103 / 100000 - 1) ≤ 2 ^ n := by
  rw [abs_le] at h
  rcases le_total 0 n with hn | hn
  · exact zpow_le_zpow_of_pow_le (p := 31) (q := 103) (by norm_num) (by norm_num) (by decide) (by norm_num) hn
      (by omega)
  · exact zpow_le_zpow_of_pow_le_of_nonpos (p := 93) (q := 28) (by norm_num) (by norm_num) (by decide) (by norm_num)
      (by omega) (by omega)

/-- Four places above the estimate lies a greater number. -/
private theorem two_zpow_le_ten_zpow {n : ℤ} (h : |n| ≤ 10000) :
    (2 : ℚ) ^ (n + 2) ≤ 10 ^ (n * 30103 / 100000 - 1 + 5) := by
  rw [abs_le] at h
  rcases le_total 0 (n * 30103 / 100000 + 4) with hn | hn
  · exact zpow_le_zpow_of_pow_le (p := 93) (q := 28) (by norm_num) (by norm_num) (by decide) (by norm_num)
      (by omega) (by omega)
  · exact zpow_le_zpow_of_pow_le_of_nonpos (p := 31) (q := 103) (by norm_num) (by norm_num) (by decide) (by norm_num)
      (by omega) (by omega)

/-! ### Zeros at the end -/

private theorem dropZerosFrom_spec {k c : Nat} {e : ℤ} (hc : c ≠ 0) (hk : c < 2 ^ (k + 1)) :
    (dropZerosFrom k c e).1 % 10 ≠ 0 ∧ (dropZerosFrom k c e).1 ≤ c := by
  induction k generalizing c e with
  | zero =>
    have hone : c = 1 := by omega
    simp [dropZerosFrom, hone]
  | succ k ih =>
    rw [dropZerosFrom]
    split
    · obtain ⟨hend, hle⟩ := ih (c := c / 10) (e := e + 1) (by omega) (by rw [pow_succ] at hk; omega)
      exact ⟨hend, hle.trans (Nat.div_le_self c 10)⟩
    · rename_i hother
      exact ⟨hother, le_refl _⟩

private theorem dropZeros_spec {c : Nat} {e : ℤ} (hc : c ≠ 0) : (dropZeros c e).1 % 10 ≠ 0 ∧ (dropZeros c e).1 ≤ c := by
  rw [dropZeros, if_neg hc]
  exact dropZerosFrom_spec hc Nat.lt_log2_self

end Numeric

open Numeric

namespace Binary64

/-! ### The leading digit -/

/-- The leading decimal digit of a number has the exponent `top`. -/
def Leads (top : ℤ) (v : ℚ) : Prop := (10 : ℚ) ^ top ≤ v ∧ v < 10 ^ (top + 1)

section

variable {num den : Nat}

private theorem above_iff (hden : 0 < den) (e : ℤ) :
    (if 0 ≤ e then den * 10 ^ e.toNat ≤ num else den ≤ num * 10 ^ (-e).toNat) ↔ (10 : ℚ) ^ e ≤ num / den := by
  have hpos : (0 : ℚ) < den := by exact_mod_cast hden
  split
  · rename_i he
    have hpower : (10 : ℚ) ^ e = 10 ^ e.toNat := by rw [← zpow_natCast, Int.toNat_of_nonneg he]
    rw [le_div_iff₀ hpos, hpower, mul_comm]
    exact_mod_cast Iff.rfl
  · rename_i he
    have hpower : (10 : ℚ) ^ e = ((10 : ℚ) ^ (-e).toNat)⁻¹ := by
      rw [← zpow_natCast, Int.toNat_of_nonneg (by omega), zpow_neg, inv_inv]
    rw [le_div_iff₀ hpos, hpower, inv_mul_le_iff₀ (by positivity), mul_comm]
    exact_mod_cast Iff.rfl

private theorem leadingFrom_spec (hden : 0 < den) {k : Nat} {e : ℤ} (hlow : (10 : ℚ) ^ e ≤ num / den)
    (hhigh : (num / den : ℚ) < 10 ^ (e + k + 1)) : Leads (leadingFrom num den k e) (num / den) := by
  induction k generalizing e with
  | zero =>
    rw [Nat.cast_zero, add_zero] at hhigh
    exact ⟨hlow, hhigh⟩
  | succ k ih =>
    by_cases habove : (10 : ℚ) ^ (e + 1) ≤ num / den
    · rw [leadingFrom, if_pos ((above_iff hden _).2 habove)]
      refine ih habove ?_
      rwa [show e + 1 + (k : ℤ) + 1 = e + ((k + 1 : ℕ) : ℤ) + 1 by push_cast; ring]
    · rw [leadingFrom, if_neg ((above_iff hden _).not.2 habove)]
      exact ⟨hlow, not_le.1 habove⟩

private theorem two_zpow_le_div (hnum : 0 < num) (hden : 0 < den) :
    (2 : ℚ) ^ ((num.log2 : ℤ) - den.log2 - 1) ≤ num / den := by
  have hn : (2 : ℚ) ^ num.log2 ≤ num := by exact_mod_cast Nat.log2_self_le hnum.ne'
  have hd : (den : ℚ) ≤ 2 ^ (den.log2 + 1) := by exact_mod_cast Nat.lt_log2_self.le
  calc (2 : ℚ) ^ ((num.log2 : ℤ) - den.log2 - 1) = 2 ^ num.log2 / 2 ^ (den.log2 + 1) := by
        rw [sub_sub, zpow_sub₀ (by norm_num), ← Nat.cast_succ, zpow_natCast, zpow_natCast]
    _ ≤ num / den := div_le_div₀ (by positivity) hn (by exact_mod_cast hden) hd

private theorem div_lt_two_zpow (hden : 0 < den) : (num / den : ℚ) < 2 ^ ((num.log2 : ℤ) - den.log2 - 1 + 2) := by
  have hn : (num : ℚ) < 2 ^ (num.log2 + 1) := by exact_mod_cast Nat.lt_log2_self
  have hd : (2 : ℚ) ^ den.log2 ≤ den := by exact_mod_cast Nat.log2_self_le hden.ne'
  calc (num / den : ℚ) < 2 ^ (num.log2 + 1) / 2 ^ den.log2 := div_lt_div₀ hn hd (by positivity) (by positivity)
    _ = 2 ^ ((num.log2 : ℤ) - den.log2 - 1 + 2) := by
        rw [show (num.log2 : ℤ) - den.log2 - 1 + 2 = ((num.log2 + 1 : ℕ) : ℤ) - (den.log2 : ℕ) by push_cast; ring,
          zpow_sub₀ (by norm_num), zpow_natCast, zpow_natCast]

private theorem decimalExponent_spec (hnum : 0 < num) (hden : 0 < den) (h : |((num.log2 : ℤ) - den.log2 - 1)| ≤ 10000) :
    Leads (decimalExponent num den) (num / den) := by
  have hlow := (ten_zpow_le_two_zpow h).trans (two_zpow_le_div hnum hden)
  have hhigh := (div_lt_two_zpow hden).trans_le (two_zpow_le_ten_zpow h)
  unfold decimalExponent
  dsimp only
  generalize ((num.log2 : ℤ) - den.log2 - 1) * 30103 / 100000 - 1 = e at hlow hhigh ⊢
  exact leadingFrom_spec hden hlow (by rwa [add_assoc])

end

/-! ### The grid of decimals -/

/-- Ten to the power `e`, as a quotient. -/
def tenPow (e : ℤ) : Nat × Nat := (if 0 ≤ e then 10 ^ e.toNat else 1, if 0 ≤ e then 1 else 10 ^ (-e).toNat)

private theorem tenPow_fst_pos (e : ℤ) : 0 < (tenPow e).1 := by
  unfold tenPow
  split <;> positivity

private theorem tenPow_snd_pos (e : ℤ) : 0 < (tenPow e).2 := by
  unfold tenPow
  split <;> positivity

private theorem cast_tenPow (e : ℤ) : (10 : ℚ) ^ e = (tenPow e).1 / (tenPow e).2 := by
  unfold tenPow
  by_cases he : 0 ≤ e
  · simp only [if_pos he]
    rw [Nat.cast_one, div_one, Nat.cast_pow, ← zpow_natCast, Int.toNat_of_nonneg he, Nat.cast_ofNat]
  · simp only [if_neg he]
    rw [Nat.cast_one, Nat.cast_pow, ← zpow_natCast, Int.toNat_of_nonneg (by omega), zpow_neg, one_div, inv_inv,
      Nat.cast_ofNat]

section

variable {i : Interval} {e : ℤ}

/-- The last point of the grid `10 ^ e` that is not above the number. -/
def gridFloor (i : Interval) (e : ℤ) : Nat := i.value * (tenPow e).2 / (i.unit * (tenPow e).1)

private theorem le_gridFloor_iff (hunit : 0 < i.unit) {k : Nat} :
    k ≤ gridFloor i e ↔ (k * 10 ^ e : ℚ) ≤ i.value / i.unit := by
  have hfst := tenPow_fst_pos e
  have hsnd := tenPow_snd_pos e
  rw [gridFloor, Nat.le_div_iff_mul_le (by positivity), cast_tenPow, mul_div_assoc', div_le_div_iff₀ (by positivity)
    (by positivity)]
  rw [← mul_assoc, mul_right_comm]
  exact_mod_cast Iff.rfl

private theorem onGrid_eq : onGrid i e =
    match i.holds (gridFloor i e) (tenPow e).1 (tenPow e).2 && 0 < gridFloor i e,
      i.holds (gridFloor i e + 1) (tenPow e).1 (tenPow e).2 with
    | true, true =>
      if 2 * (i.value * (tenPow e).2 % (i.unit * (tenPow e).1)) ≤ i.unit * (tenPow e).1 then some (gridFloor i e)
      else some (gridFloor i e + 1)
    | true, false => some (gridFloor i e)
    | false, true => some (gridFloor i e + 1)
    | false, false => none := rfl

private theorem onGrid_eq_some {c : Nat} (h : onGrid i e = some c) : 0 < c ∧ c ≤ gridFloor i e + 1 := by
  rw [onGrid_eq] at h
  have hfloor : ∀ b : Bool, (b && decide (0 < gridFloor i e)) = true → 0 < gridFloor i e := by
    intro b hb
    rw [Bool.and_eq_true] at hb
    exact of_decide_eq_true hb.2
  split at h
  · rename_i hholds _
    have hpos := hfloor _ hholds
    split at h <;> cases h <;> omega
  · rename_i hholds _
    have hpos := hfloor _ hholds
    cases h
    omega
  · cases h
    omega
  · cases h

private theorem isSome_onGrid : (onGrid i e).isSome =
    ((i.holds (gridFloor i e) (tenPow e).1 (tenPow e).2 && 0 < gridFloor i e) ||
      i.holds (gridFloor i e + 1) (tenPow e).1 (tenPow e).2) := by
  rw [onGrid_eq]
  split
  · rename_i hbelow _
    rw [hbelow]
    split <;> rfl
  · rename_i hbelow _
    rw [hbelow]
    rfl
  · rename_i habove
    rw [habove, Bool.or_true]
    rfl
  · rename_i hbelow habove
    rw [hbelow, habove]
    rfl

private theorem holds_of_lt (hunit : 0 < i.unit) {c : Nat} (hlower : (i.lower / i.unit : ℚ) < c * 10 ^ e)
    (hupper : (c * 10 ^ e : ℚ) < i.upper / i.unit) : i.holds c (tenPow e).1 (tenPow e).2 = true := by
  have hunit' : (0 : ℚ) < i.unit := by exact_mod_cast hunit
  have hsnd : (0 : ℚ) < (tenPow e).2 := by exact_mod_cast tenPow_snd_pos e
  rw [cast_tenPow, mul_div_assoc', div_lt_div_iff₀ (by positivity) (by positivity)] at hlower hupper
  have hlower' : i.lower * (tenPow e).2 < c * (tenPow e).1 * i.unit := by exact_mod_cast hlower
  have hupper' : c * (tenPow e).1 * i.unit < i.upper * (tenPow e).2 := by exact_mod_cast hupper
  unfold Interval.holds
  split
  · simp [hlower'.le, hupper'.le]
  · simp [hlower', hupper']

/-- A grid finer than the interval has a point in it. -/
private theorem exists_onGrid (hunit : 0 < i.unit) (hlower : i.lower < i.value) (hupper : i.value < i.upper)
    (hfine : (10 : ℚ) ^ e < (i.upper - i.lower) / i.unit) (hfirst : 0 < gridFloor i e) : ∃ c, onGrid i e = some c := by
  have hunit' : (0 : ℚ) < i.unit := by exact_mod_cast hunit
  have hlower' : (i.lower / i.unit : ℚ) < i.value / i.unit := div_lt_div_of_pos_right (by exact_mod_cast hlower) hunit'
  have hupper' : (i.value / i.unit : ℚ) < i.upper / i.unit := div_lt_div_of_pos_right (by exact_mod_cast hupper) hunit'
  have hbelow : (gridFloor i e * 10 ^ e : ℚ) ≤ i.value / i.unit := (le_gridFloor_iff hunit).1 (le_refl _)
  have habove : (i.value / i.unit : ℚ) < (gridFloor i e + 1 : ℕ) * 10 ^ e :=
    not_le.1 fun hle => Nat.not_succ_le_self _ ((le_gridFloor_iff hunit).2 hle)
  rw [← Option.isSome_iff_exists, isSome_onGrid, Bool.or_eq_true, Bool.and_eq_true, decide_eq_true_eq]
  -- the point below the number is in the interval, or else the one above it is
  by_cases hinside : (i.lower / i.unit : ℚ) < gridFloor i e * 10 ^ e
  · exact .inl ⟨holds_of_lt hunit hinside (hbelow.trans_lt hupper'), hfirst⟩
  · refine .inr (holds_of_lt hunit (hlower'.trans habove) ?_)
    rw [sub_div] at hfine
    push_cast
    linarith

end

/-! ### The search -/

private theorem search_spec {i : Interval} {top : ℤ} {k n m : Nat} (hn : n ≤ m) (hm : m < n + k) {c : Nat}
    (h : onGrid i (top - m) = some c) :
    ∃ j ≤ m, ∃ c, onGrid i (top - j) = some c ∧ search i top k n = dropZeros c (top - j) := by
  induction k generalizing n with
  | zero => omega
  | succ k ih =>
    rw [search]
    cases hgrid : onGrid i (top - n) with
    | some c => exact ⟨n, hn, c, hgrid, rfl⟩
    | none =>
      have hne : n ≠ m := by
        rintro rfl
        rw [hgrid] at h
        cases h
      exact ih (by omega) (by omega)

/-! ### Numbers and their digits -/

section

variable {x : Binary64}

private theorem significand_pos (h : x.isZero = false) : 0 < x.significand := by
  have hword : x.absWord ≠ 0 := beq_eq_false_iff_ne.1 h
  unfold significand
  split <;> omega

private theorem significand_lt (x : Binary64) : x.significand < 2 ^ 53 := by
  unfold significand
  split <;> omega

private theorem scale_bounds (h : x.isFinite = true) : -1074 ≤ x.scale ∧ x.scale ≤ 971 := by
  have hword : x.absWord < 2047 * 2 ^ 52 := of_decide_eq_true h
  have hquot : x.absWord / 2 ^ 52 ≤ 2046 := by omega
  unfold scale
  omega

private theorem twoPow_pos (e : ℤ) : 0 < (twoPow e).1 ∧ 0 < (twoPow e).2 := by
  unfold twoPow
  split <;> exact ⟨by positivity, by positivity⟩

private theorem twoPow_le {e : ℤ} {k : Nat} (h : e.natAbs ≤ k) : (twoPow e).1 ≤ 2 ^ k ∧ (twoPow e).2 ≤ 2 ^ k := by
  unfold twoPow
  split
  · exact ⟨Nat.pow_le_pow_right (by decide) (by omega), Nat.one_le_two_pow⟩
  · exact ⟨Nat.one_le_two_pow, Nat.pow_le_pow_right (by decide) (by omega)⟩

private theorem log2_bounds (hx : x.isFinite = true) (h : x.isZero = false) :
    |((x.interval.value.log2 : ℤ) - x.interval.unit.log2 - 1)| ≤ 10000 := by
  obtain ⟨hlow, hhigh⟩ := scale_bounds hx
  obtain ⟨k, hk, hscale⟩ : ∃ k, k ≤ 1100 ∧ (x.scale - 2).natAbs ≤ k := ⟨1100, le_refl _, by omega⟩
  obtain ⟨hfst, hsnd⟩ := twoPow_pos (x.scale - 2)
  have hm := significand_lt x
  have hm' : 4 * x.significand < 2 ^ 55 := by omega
  have hpos := significand_pos h
  have hvalue : (4 * x.significand * (twoPow (x.scale - 2)).1).log2 < 55 + k := by
    rw [Nat.log2_lt (by positivity), pow_add]
    exact Nat.mul_lt_mul_of_lt_of_le hm' (twoPow_le hscale).1 (by positivity)
  have hunit : (twoPow (x.scale - 2)).2.log2 < k + 1 := by
    rw [Nat.log2_lt hsnd.ne']
    exact (twoPow_le hscale).2.trans_lt (Nat.pow_lt_pow_right (by decide) (Nat.lt_succ_self k))
  unfold interval
  dsimp only
  rw [abs_le]
  omega

/-- Beyond sixteen digits the grid is finer than the interval. -/
private theorem lt_interval_width {top : ℤ} (h : x.isZero = false)
    (hlead : (10 : ℚ) ^ top ≤ x.interval.value / x.interval.unit) :
    (10 : ℚ) ^ (top - 16) < (x.interval.upper - x.interval.lower) / x.interval.unit := by
  obtain ⟨hfst, hsnd⟩ := twoPow_pos (x.scale - 2)
  have hm := significand_lt x
  have hpos := significand_pos h
  unfold interval at hlead ⊢
  dsimp only at hlead ⊢
  generalize twoPow (x.scale - 2) = p at hlead hfst hsnd ⊢
  have hfst' : (0 : ℚ) < p.1 := by exact_mod_cast hfst
  have hsnd' : (0 : ℚ) < p.2 := by exact_mod_cast hsnd
  -- the width in units of the interval, of which the number has less
  obtain ⟨below, hbelow, hwidth⟩ : ∃ below : Nat,
      below = (if x.significand = 2 ^ 52 ∧ 2 ^ 53 ≤ x.absWord then 1 else 2) ∧
        4 * x.significand < 10 ^ 16 * (2 + below) ∧ below ≤ 2 := by
    refine ⟨_, rfl, ?_⟩
    split
    · rename_i hpower
      omega
    · omega
  rw [← hbelow]
  have hcast : ((4 * x.significand - below : ℕ) : ℚ) = 4 * x.significand - below := by
    rw [Nat.cast_sub (by omega)]
    push_cast
    ring
  have hlt : (4 * x.significand : ℚ) < 10 ^ 16 * (2 + below) := by exact_mod_cast hwidth.1
  push_cast at hlead ⊢
  rw [hcast, zpow_sub₀ (by norm_num), zpow_ofNat, div_lt_iff₀ (by positivity)]
  calc (10 : ℚ) ^ top ≤ 4 * x.significand * p.1 / p.2 := hlead
    _ < 10 ^ 16 * (2 + below) * p.1 / p.2 := by gcongr
    _ = ((4 * x.significand + 2) * p.1 - (4 * x.significand - below) * p.1) / p.2 * 10 ^ 16 := by
        ring

/-- The shortest digits of a number other than zero are at most seventeen, and the last of them is not a zero. -/
theorem shortest_spec (hx : x.isFinite = true) (h : x.isZero = false) :
    0 < x.shortest.1 ∧ x.shortest.1 < 10 ^ 17 ∧ x.shortest.1 % 10 ≠ 0 := by
  obtain ⟨hfst, hsnd⟩ := twoPow_pos (x.scale - 2)
  have hpos := significand_pos h
  have hunit : 0 < x.interval.unit := hsnd
  have hvalue : 0 < x.interval.value := Nat.mul_pos (by omega) hfst
  have hlower : x.interval.lower < x.interval.value := by
    refine Nat.mul_lt_mul_of_pos_right ?_ hfst
    split <;> omega
  have hupper : x.interval.value < x.interval.upper := Nat.mul_lt_mul_of_pos_right (by omega) hfst
  have hlead := decimalExponent_spec hvalue hunit (log2_bounds hx h)
  rw [shortest, if_neg (by rw [h]; exact Bool.false_ne_true)]
  dsimp only
  generalize decimalExponent x.interval.value x.interval.unit = top at hlead ⊢
  have hfloor : 1 ≤ gridFloor x.interval (top - 16) := by
    rw [le_gridFloor_iff hunit, Nat.cast_one, one_mul]
    exact (zpow_le_zpow_right₀ (by norm_num) (by omega)).trans hlead.1
  obtain ⟨c, hc⟩ := exists_onGrid hunit hlower hupper (lt_interval_width h hlead.1) hfloor
  obtain ⟨j, hj, c, hgrid, hsearch⟩ := search_spec (k := 20) (n := 0) (m := 16) (by omega) (by omega) hc
  obtain ⟨hcpos, hcle⟩ := onGrid_eq_some hgrid
  obtain ⟨hend, hle⟩ := dropZeros_spec (e := top - j) hcpos.ne'
  have hcoefficient : gridFloor x.interval (top - j) < 10 ^ (j + 1) := by
    rw [← not_le, le_gridFloor_iff hunit, not_le]
    calc (x.interval.value / x.interval.unit : ℚ) < 10 ^ (top + 1) := hlead.2
      _ = ((10 ^ (j + 1) : ℕ) : ℚ) * 10 ^ (top - j) := by
        rw [Nat.cast_pow, Nat.cast_ofNat, ← zpow_natCast, ← zpow_add₀ (by norm_num)]
        congr 1
        push_cast
        ring
  have hplaces : 10 ^ (j + 1) ≤ 10 ^ 17 := Nat.pow_le_pow_right (by decide) (by omega)
  rw [hsearch]
  omega

theorem shortest_of_isZero (h : x.isZero = true) : x.shortest = (0, 0) := by rw [shortest, if_pos h]

theorem shortest_lt (hx : x.isFinite = true) : x.shortest.1 < 10 ^ 17 := by
  cases h : x.isZero with
  | true =>
    rw [shortest_of_isZero h]
    decide
  | false => exact (shortest_spec hx h).2.1

end

end Binary64

end Sandscript
