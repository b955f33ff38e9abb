import Sandscript.Numeric.Word

/-!
# Powers by squaring

A power is also reached by squaring again and again, where every product has to fit.  No product is too large where the
power itself is not (`powerFrom?_eq`), so both ways have the same result (`powerFrom?_one`).
-/

namespace Sandscript.Numeric

/-- The product of `acc` and `base ^ e` by repeated squaring, unless a product on the way does not fit. -/
def powerFrom? (acc base : Int64) (e : Nat) : Option Int64 :=
  if e = 0 then some acc
  else
    (if e % 2 = 1 then word? (acc.toInt * base.toInt) else some acc).bind fun acc =>
      if e = 1 then some acc
      else (word? (base.toInt * base.toInt)).bind fun square => powerFrom? acc square (e / 2)
termination_by e

/-! ### Products that do not fit -/

private theorem word?_eq_none_of_natAbs {n : Int} (h : 2 ^ 63 < n.natAbs) : word? n = none :=
  word?_eq_none_iff.2 (by omega)

/-- What does not fit is not brought back by a positive factor. -/
private theorem word?_mul_eq_none {p q : Int} (h : word? p = none) (hq : 1 ≤ q) : word? (p * q) = none := by
  rw [word?_eq_none_iff] at h ⊢
  rcases Int.lt_or_le p (-(2 ^ 63)) with hlow | hhigh
  · have hmul : p * q ≤ p * 1 := Int.mul_le_mul_of_nonpos_left (by omega) hq
    omega
  · have hmul : p * 1 ≤ p * q := Int.mul_le_mul_of_nonneg_left hq (by omega)
    omega

/-- No square is `2 ^ 63`, the least positive number that does not fit. -/
private theorem lt_square {b : Int} (h : word? (b * b) = none) : 2 ^ 63 < (b * b).natAbs := by
  rw [word?_eq_none_iff] at h
  rw [Int.natAbs_mul]
  have hsquare : ((b.natAbs * b.natAbs : Nat) : Int) = b * b := Int.natAbs_mul_self
  rcases Nat.lt_or_ge b.natAbs 3037000500 with hsmall | hlarge
  · have hle : b.natAbs * b.natAbs ≤ 3037000499 * 3037000499 := Nat.mul_le_mul (by omega) (by omega)
    omega
  · have hge : 3037000500 * 3037000500 ≤ b.natAbs * b.natAbs := Nat.mul_le_mul hlarge hlarge
    omega

/-- A square that does not fit is not brought back by further factors, if none of them vanishes. -/
private theorem word?_mul_square_pow_eq_none {c b : Int} (hc : c ≠ 0) (h : word? (b * b) = none) {k : Nat}
    (hk : k ≠ 0) :
    word? (c * (b * b) ^ k) = none := by
  have hsquare := lt_square h
  refine word?_eq_none_of_natAbs ?_
  rw [Int.natAbs_mul, Int.natAbs_pow]
  calc 2 ^ 63 < (b * b).natAbs := hsquare
    _ = 1 * (b * b).natAbs ^ 1 := by rw [Nat.pow_one, Nat.one_mul]
    _ ≤ c.natAbs * (b * b).natAbs ^ k :=
      Nat.mul_le_mul (by omega) (Nat.pow_le_pow_right (by omega) (by omega))

private theorem one_le_square_pow {b : Int} (hb : b ≠ 0) (k : Nat) : 1 ≤ (b * b) ^ k := by
  have hsquare : 0 < b * b := by
    rcases Int.lt_or_lt_of_ne hb with hneg | hpos
    · exact Int.mul_pos_of_neg_of_neg hneg hneg
    · exact Int.mul_pos hpos hpos
  exact Int.pow_pos hsquare

/-! ### The loop -/

private theorem pow_eq_square_pow (b : Int) {e : Nat} (he : e % 2 = 0) : b ^ e = (b * b) ^ (e / 2) := by
  have hsquare : b * b = b ^ 2 := by rw [Int.pow_succ, Int.pow_succ, Int.pow_zero, Int.one_mul]
  rw [hsquare, ← Int.pow_mul, show 2 * (e / 2) = e by omega]

private theorem pow_eq_mul_square_pow (b : Int) {e : Nat} (he : e % 2 = 1) : b ^ e = b * (b * b) ^ (e / 2) := by
  obtain ⟨k, rfl⟩ : ∃ k, e = 2 * k + 1 := ⟨e / 2, by omega⟩
  rw [Int.pow_succ, Int.mul_comm, pow_eq_square_pow b (by omega), show (2 * k + 1) / 2 = 2 * k / 2 by omega]

variable {acc base : Int64}

/-- The first product that does not fit leaves a power that does not fit: what is multiplied after it is positive.
Only a vanishing `acc` would bring it back, and then the base vanishes too. -/
theorem powerFrom?_eq (e : Nat) (h : acc.toInt ≠ 0 ∨ base.toInt = 0) :
    powerFrom? acc base e = word? (acc.toInt * base.toInt ^ e) := by
  induction e using Nat.strongRecOn generalizing acc base with
  | ind e ih =>
    -- What is left of the loop once an odd exponent has been made even.
    have hsquared {c : Int64} (hc : c.toInt ≠ 0 ∨ base.toInt = 0) (he : 2 ≤ e) :
        ((word? (base.toInt * base.toInt)).bind fun square => powerFrom? c square (e / 2)) =
          word? (c.toInt * (base.toInt * base.toInt) ^ (e / 2)) := by
      cases hsquare : word? (base.toInt * base.toInt) with
      | none =>
        have hbase : base.toInt ≠ 0 := by
          intro hzero
          rw [hzero] at hsquare
          exact absurd hsquare (by decide)
        exact (word?_mul_square_pow_eq_none (hc.resolve_right hbase) hsquare (by omega)).symm
      | some square =>
        have htoInt := toInt_of_word? hsquare
        rw [← htoInt]
        refine ih (e / 2) (by omega) (hc.imp_right fun hzero => ?_)
        rw [htoInt, hzero, Int.mul_zero]
    rw [powerFrom?]
    by_cases hzero : e = 0
    · rw [if_pos hzero, hzero, Int.pow_zero, Int.mul_one, word?_toInt]
    rw [if_neg hzero]
    by_cases hodd : e % 2 = 1
    · rw [if_pos hodd, pow_eq_mul_square_pow _ hodd, ← Int.mul_assoc]
      cases hacc : word? (acc.toInt * base.toInt) with
      | none =>
        have hbase : base.toInt ≠ 0 := by
          intro hzero
          rw [hzero, Int.mul_zero] at hacc
          exact absurd hacc (by decide)
        exact (word?_mul_eq_none hacc (one_le_square_pow hbase _)).symm
      | some c =>
        have htoInt := toInt_of_word? hacc
        rw [Option.bind_some, ← htoInt]
        by_cases hone : e = 1
        · rw [if_pos hone, hone, Int.pow_zero, Int.mul_one, word?_toInt]
        rw [if_neg hone]
        refine hsquared ?_ (by omega)
        rw [htoInt]
        exact (Decidable.em (base.toInt = 0)).symm.imp_left fun hbase =>
          Int.mul_ne_zero (h.resolve_right hbase) hbase
    · rw [if_neg hodd, Option.bind_some, if_neg (by omega), pow_eq_square_pow _ (by omega)]
      exact hsquared h (by omega)

/-- No product on the way to a power that fits is too large. -/
theorem powerFrom?_one (base : Int64) (e : Nat) : powerFrom? 1 base e = word? (base.toInt ^ e) := by
  rw [powerFrom?_eq e (.inl (by decide)), show (1 : Int64).toInt = 1 by decide, Int.one_mul]

end Sandscript.Numeric
