import Sandscript.Library.Numbers

/-!
# The floating-point numbers of integers

The conversion of integers to floating-point numbers keeps their order (`Binary64.roundWord_le_roundWord`).  Below
`2 ^ 53` it is exact, so an integer shares its number with a greater one only from there on
(`Binary64.roundWord_lt_roundWord`).
-/

namespace Sandscript

namespace Numeric

/-! ### Rounded quotients -/

section

variable {m n d : Nat}

private theorem le_divRound (n d : Nat) : n / d ≤ divRound n d := by
  unfold divRound
  split <;> omega

private theorem divRound_le (n d : Nat) : divRound n d ≤ n / d + 1 := by
  unfold divRound
  split <;> omega

private theorem divRound_one (n : Nat) : divRound n 1 = n := by
  unfold divRound
  rw [if_pos (by omega), Nat.div_one]

private theorem divRound_le_divRound (h : m ≤ n) : divRound m d ≤ divRound n d := by
  rcases Nat.lt_or_eq_of_le (Nat.div_le_div_right (c := d) h) with hlt | heq
  · exact Nat.le_trans (divRound_le m d) (Nat.le_trans hlt (le_divRound n d))
  · -- with the same whole part, the greater rest is rounded up where the smaller one is
    have hm := Nat.div_add_mod m d
    have hn := Nat.div_add_mod n d
    rw [heq] at hm
    unfold divRound
    rw [heq]
    split <;> split <;> omega

end

end Numeric

open Numeric

namespace Binary64

/-! ### The words of whole numbers -/

section

variable {m n : Nat}

private theorem leadingExponent_one (hn : n ≠ 0) : leadingExponent n 1 = n.log2 := by
  have hle := Nat.log2_self_le hn
  have hlog : Nat.log2 1 = 0 := by decide
  unfold leadingExponent
  rw [hlog]
  unfold twoPow
  simp only [Int.natCast_zero, Int.sub_zero, Int.natCast_nonneg, if_true, Int.toNat_natCast, Nat.one_mul, Nat.mul_one]
  rw [if_pos hle]

/-- The digits of a whole number that its floating-point number keeps, as a number of fifty-three binary digits. -/
def mantissa (n : Nat) : Nat := divRound (n * 2 ^ (52 - n.log2)) (2 ^ (n.log2 - 52))

private theorem mantissa_of_le (h : n.log2 ≤ 52) : mantissa n = n * 2 ^ (52 - n.log2) := by
  unfold mantissa
  rw [Nat.sub_eq_zero_of_le h, Nat.pow_zero, divRound_one]

private theorem mantissa_bounds (hn : n ≠ 0) : 2 ^ 52 ≤ mantissa n ∧ mantissa n ≤ 2 ^ 53 := by
  have hlow := Nat.log2_self_le hn
  have hhigh := Nat.lt_log2_self (n := n)
  rcases Nat.le_total n.log2 52 with h | h
  · rw [mantissa_of_le h]
    have hsum : 2 ^ n.log2 * 2 ^ (52 - n.log2) = 2 ^ 52 := by rw [← Nat.pow_add, Nat.add_sub_cancel' h]
    constructor
    · rw [← hsum]
      exact Nat.mul_le_mul_right _ hlow
    · calc n * 2 ^ (52 - n.log2) ≤ 2 ^ (n.log2 + 1) * 2 ^ (52 - n.log2) := Nat.mul_le_mul_right _ (Nat.le_of_lt hhigh)
        _ = 2 ^ 53 := by rw [← Nat.pow_add, show n.log2 + 1 + (52 - n.log2) = 53 by omega]
  · have hpos : 0 < 2 ^ (n.log2 - 52) := Nat.two_pow_pos _
    have hquot : 2 ^ 52 ≤ n / 2 ^ (n.log2 - 52) ∧ n / 2 ^ (n.log2 - 52) < 2 ^ 53 := by
      rw [Nat.le_div_iff_mul_le hpos, Nat.div_lt_iff_lt_mul hpos, ← Nat.pow_add, ← Nat.pow_add,
        show 52 + (n.log2 - 52) = n.log2 by omega, show 53 + (n.log2 - 52) = n.log2 + 1 by omega]
      exact ⟨hlow, hhigh⟩
    have hfloor := le_divRound n (2 ^ (n.log2 - 52))
    have hceil := divRound_le n (2 ^ (n.log2 - 52))
    unfold mantissa
    rw [Nat.sub_eq_zero_of_le h, Nat.pow_zero, Nat.mul_one]
    omega

/-- The exponent and the digits of a whole number, as they stand in its bit pattern. -/
private theorem roundWord_one (hn : n ≠ 0) (hlt : n < 2 ^ 64) :
    roundWord n 1 = (n.log2 + 1022) * 2 ^ 52 + mantissa n := by
  have hlog : n.log2 < 64 := (Nat.log2_lt hn).2 hlt
  have hunit : max ((n.log2 : Int) - 52) (-1074) = (n.log2 : Int) - 52 := by omega
  have hplaces : ((n.log2 : Int) - 52 + 1074).toNat = n.log2 + 1022 := by omega
  have hpower :
      divRound (n * (twoPow ((n.log2 : Int) - 52)).2) (1 * (twoPow ((n.log2 : Int) - 52)).1) = mantissa n := by
    unfold twoPow mantissa
    split
    · rw [show ((n.log2 : Int) - 52).toNat = n.log2 - 52 by omega, show 52 - n.log2 = 0 by omega, Nat.pow_zero,
        Nat.one_mul]
    · rw [show (-((n.log2 : Int) - 52)).toNat = 52 - n.log2 by omega, show n.log2 - 52 = 0 by omega, Nat.pow_zero,
        Nat.one_mul]
  have hbounds := mantissa_bounds hn
  unfold roundWord
  rw [if_neg hn, leadingExponent_one hn]
  dsimp only
  rw [hunit, hplaces, hpower, Nat.min_eq_right]
  unfold infinityWord
  omega

private theorem mantissa_le_mantissa (h : m ≤ n) (hlog : m.log2 = n.log2) : mantissa m ≤ mantissa n := by
  unfold mantissa
  rw [hlog]
  exact divRound_le_divRound (Nat.mul_le_mul_right _ h)

private theorem log2_le_log2 (hm : m ≠ 0) (h : m ≤ n) : m.log2 ≤ n.log2 :=
  (Nat.le_log2 (by omega)).2 (Nat.le_trans (Nat.log2_self_le hm) h)

theorem roundWord_le_roundWord (h : m ≤ n) (hn : n < 2 ^ 64) : roundWord m 1 ≤ roundWord n 1 := by
  rcases Nat.eq_zero_or_pos m with rfl | hm
  · exact Nat.zero_le _
  · have hmantissa := mantissa_bounds (n := m) (by omega)
    have hmantissa' := mantissa_bounds (n := n) (by omega)
    rw [roundWord_one (by omega) (by omega), roundWord_one (by omega) hn]
    rcases Nat.lt_or_eq_of_le (log2_le_log2 (by omega) h) with hlog | hlog
    · omega
    · have hle := mantissa_le_mantissa h hlog
      rw [hlog]
      omega

/-- A whole number below `2 ^ 53` shares its floating-point number with no greater one. -/
theorem roundWord_lt_roundWord (h : m < n) (hm : m < 2 ^ 53) (hn : n < 2 ^ 64) : roundWord m 1 < roundWord n 1 := by
  have hmantissa' := mantissa_bounds (n := n) (by omega)
  rcases Nat.eq_zero_or_pos m with rfl | hpos
  · rw [roundWord_one (by omega) hn]
    unfold roundWord
    rw [if_pos rfl]
    omega
  · have hlog53 : m.log2 ≤ 52 := Nat.le_of_lt_succ ((Nat.log2_lt (by omega)).2 hm)
    rw [roundWord_one (by omega) (by omega), roundWord_one (by omega) hn]
    rw [mantissa_of_le hlog53]
    rcases Nat.lt_or_eq_of_le (log2_le_log2 (by omega) (Nat.le_of_lt h)) with hlog | hlog
    · have hless : m * 2 ^ (52 - m.log2) < 2 ^ 53 := calc
        m * 2 ^ (52 - m.log2) < 2 ^ (m.log2 + 1) * 2 ^ (52 - m.log2) :=
          Nat.mul_lt_mul_of_pos_right Nat.lt_log2_self (Nat.two_pow_pos _)
        _ = 2 ^ 53 := by rw [← Nat.pow_add, show m.log2 + 1 + (52 - m.log2) = 53 by omega]
      omega
    · rw [hlog] at hlog53 ⊢
      rw [mantissa_of_le hlog53]
      have hless : m * 2 ^ (52 - n.log2) < n * 2 ^ (52 - n.log2) :=
        Nat.mul_lt_mul_of_pos_right h (Nat.two_pow_pos _)
      omega

end

/-! ### Signs and words -/

section

variable {negative : Bool} {w : Nat}

private theorem toNat_ofWord (h : w < 2 ^ 63) :
    (ofWord negative w).bits.toNat = if negative then 2 ^ 63 + w else w := by
  unfold ofWord
  rw [UInt64.toNat_ofNat', Nat.mod_eq_of_lt]
  split <;> omega

private theorem isNegative_ofWord (h : w < 2 ^ 63) : (ofWord negative w).isNegative = negative := by
  unfold isNegative
  rw [toNat_ofWord h]
  cases negative <;> simp [h]

private theorem absWord_ofWord (h : w < 2 ^ 63) : (ofWord negative w).absWord = w := by
  unfold absWord
  rw [toNat_ofWord h]
  split <;> omega

private theorem ofWord_bits (x : Binary64) : ofWord x.isNegative x.absWord = x := by
  have hlt := x.bits.toNat_lt
  have hword : (if x.isNegative = true then 2 ^ 63 + x.absWord else x.absWord) = x.bits.toNat := by
    unfold isNegative absWord
    split
    · rename_i h
      have := of_decide_eq_true h
      omega
    · rename_i h
      have := of_decide_eq_false (Bool.eq_false_iff.2 h)
      omega
  unfold ofWord
  rw [hword, UInt64.ofNat_toNat]

/-- The key of the total order tells all bit patterns apart. -/
theorem totalKey_inj {x y : Binary64} : x.totalKey = y.totalKey ↔ x = y := by
  refine ⟨fun h => ?_, fun h => h ▸ rfl⟩
  unfold totalKey at h
  rw [← ofWord_bits x, ← ofWord_bits y]
  cases hx : x.isNegative <;> cases hy : y.isNegative <;> rw [hx, hy] at h <;>
    simp only [Bool.false_eq_true, if_true, if_false] at h
  · rw [show x.absWord = y.absWord by omega]
  · omega
  · omega
  · rw [show x.absWord = y.absWord by omega]

end

end Binary64

namespace Library

open Binary64

/-! ### Integers as floating-point numbers -/

/-- The word of the magnitude of an integer. -/
def magnitudeWord (n : Int64) : Nat := roundWord n.toInt.natAbs 1

variable {a b : Int64}

private theorem natAbs_lt (n : Int64) : n.toInt.natAbs < 2 ^ 64 := by
  have hlow := n.le_toInt
  have hhigh := n.toInt_lt
  omega

private theorem magnitudeWord_lt (n : Int64) : magnitudeWord n < infinityWord := by
  unfold magnitudeWord
  rcases Nat.eq_zero_or_pos n.toInt.natAbs with h | h
  · rw [h]
    decide
  · have hlog := (Nat.log2_lt (Nat.ne_of_gt h)).2 (natAbs_lt n)
    have hbounds := mantissa_bounds (Nat.ne_of_gt h)
    rw [roundWord_one (Nat.ne_of_gt h) (natAbs_lt n)]
    unfold infinityWord
    omega

private theorem magnitudeWord_pos (h : a.toInt ≠ 0) : 0 < magnitudeWord a := by
  have hpos : roundWord 0 1 < roundWord a.toInt.natAbs 1 :=
    roundWord_lt_roundWord (by omega) (by decide) (natAbs_lt a)
  exact Nat.lt_of_le_of_lt (Nat.zero_le _) hpos

private theorem isNegative_toFloat (n : Int64) : (toFloat n).isNegative = decide (n.toInt < 0) :=
  isNegative_ofWord (Nat.lt_trans (magnitudeWord_lt n) (by decide))

private theorem absWord_toFloat (n : Int64) : (toFloat n).absWord = magnitudeWord n :=
  absWord_ofWord (Nat.lt_trans (magnitudeWord_lt n) (by decide))

theorem isNaN_toFloat (n : Int64) : (toFloat n).isNaN = false := by
  refine isNaN_of_isFinite ?_
  unfold isFinite
  rw [absWord_toFloat]
  exact decide_eq_true (magnitudeWord_lt n)

private theorem key_toFloat (n : Int64) :
    (toFloat n).key = if n.toInt < 0 then -(magnitudeWord n : Int) else magnitudeWord n := by
  unfold key
  rw [isNegative_toFloat, absWord_toFloat]
  simp only [decide_eq_true_eq]

private theorem totalKey_toFloat (n : Int64) :
    (toFloat n).totalKey = if n.toInt < 0 then -(magnitudeWord n : Int) - 1 else magnitudeWord n := by
  unfold totalKey
  rw [isNegative_toFloat, absWord_toFloat]
  simp only [decide_eq_true_eq]

/-- Among the numbers of integers both orders are the same, as there is no negative zero. -/
theorem totalKey_toFloat_le_iff : (toFloat a).totalKey ≤ (toFloat b).totalKey ↔ (toFloat a).key ≤ (toFloat b).key := by
  rw [totalKey_toFloat, totalKey_toFloat, key_toFloat, key_toFloat]
  split
  · have ha := magnitudeWord_pos (a := a) (by omega)
    split <;> omega
  · split
    · have hb := magnitudeWord_pos (a := b) (by omega)
      omega
    · exact Iff.rfl

theorem key_toFloat_inj : (toFloat a).key = (toFloat b).key ↔ toFloat a = toFloat b := by
  rw [← totalKey_inj, Int.le_antisymm_iff, Int.le_antisymm_iff, totalKey_toFloat_le_iff, totalKey_toFloat_le_iff]

/-- The conversion keeps the order of integers. -/
theorem key_toFloat_le (h : a ≤ b) : (toFloat a).key ≤ (toFloat b).key := by
  have hle := Int64.le_iff_toInt_le.1 h
  rw [key_toFloat, key_toFloat]
  split
  · split
    · have hword : magnitudeWord b ≤ magnitudeWord a := roundWord_le_roundWord (by omega) (natAbs_lt a)
      omega
    · omega
  · rw [if_neg (by omega)]
    have hword : magnitudeWord a ≤ magnitudeWord b := roundWord_le_roundWord (by omega) (natAbs_lt b)
    omega

/-- Only integers of at least `2 ^ 53`, whatever their sign, share their floating-point number with others. -/
theorem eq_of_toFloat_eq (h : toFloat a = toFloat b) (ha : a.toInt.natAbs < 2 ^ 53) : a = b := by
  have hsign : (a.toInt < 0 ↔ b.toInt < 0) := by
    have heq := congrArg Binary64.isNegative h
    rwa [isNegative_toFloat, isNegative_toFloat, decide_eq_decide] at heq
  have hword : magnitudeWord a = magnitudeWord b := by rw [← absWord_toFloat, h, absWord_toFloat]
  unfold magnitudeWord at hword
  rcases Nat.lt_trichotomy a.toInt.natAbs b.toInt.natAbs with hlt | heq | hgt
  · have hless := roundWord_lt_roundWord hlt ha (natAbs_lt b)
    omega
  · exact Int64.toInt_inj.1 (by omega)
  · have hless := roundWord_lt_roundWord hgt (by omega) (natAbs_lt a)
    omega

end Library

end Sandscript
