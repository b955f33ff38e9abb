import Sandscript.Json.Printer
import Sandscript.Proofs.Numeric.DecimalText
import Sandscript.Value.Json

/-!
# The JSON form of decimals

A whole decimal in range becomes the integer that it is.  Any other decimal becomes a string that is read back as the
decimal, or a number.  The number is let through if its plain text is read as the decimal; as the reader rounds to
twenty-eight places, the number is exact precisely if it is written with no more places than these
(`Decimal.toJson_exact`).
-/

namespace Sandscript

open Numeric

namespace Decimal

private theorem isWhole_iff {d : Decimal} : d.isWhole = true ↔ (10 ^ d.scale : ℤ) ∣ d.signed := by
  rw [isWhole, beq_iff_eq, ← Nat.dvd_iff_mod_eq_zero, signed]
  have hcast : (10 ^ d.scale : ℤ) ∣ (d.coefficient : ℤ) ↔ 10 ^ d.scale ∣ d.coefficient := by
    rw [← Int.natCast_dvd_natCast, Nat.cast_pow, Nat.cast_ofNat]
  split
  · rw [Int.dvd_neg, hcast]
  · rw [hcast]

theorem truncated_eq (d : Decimal) : d.truncated = d.signed.tdiv (10 ^ d.scale) := by
  rw [truncated, signed]
  split
  · rw [Int.neg_tdiv, Int.natCast_div, Int.tdiv_eq_ediv_of_nonneg (by omega), Nat.cast_pow, Nat.cast_ofNat]
  · rw [Int.natCast_div, Int.tdiv_eq_ediv_of_nonneg (by omega), Nat.cast_pow, Nat.cast_ofNat]

private theorem toRat_eq_intCast_iff {d : Decimal} {n : ℤ} : d.toRat = n ↔ d.isWhole = true ∧ d.truncated = n := by
  have hunit : (10 : ℤ) ^ d.scale ≠ 0 := by positivity
  have hcross : d.toRat = n ↔ d.signed = n * 10 ^ d.scale := by
    rw [toRat, div_eq_iff (by positivity)]
    exact_mod_cast Iff.rfl
  rw [hcross, isWhole_iff, truncated_eq]
  constructor
  · intro h
    rw [h, Int.mul_tdiv_cancel _ hunit]
    exact ⟨Int.dvd_mul_left _ _, rfl⟩
  · rintro ⟨hdvd, rfl⟩
    exact (Int.tdiv_mul_cancel hdvd).symm

private theorem abs_toRat (d : Decimal) : |d.toRat| = d.coefficient / 10 ^ d.scale := by
  rw [toRat, abs_div, abs_of_pos (by positivity : (0 : ℚ) < 10 ^ d.scale), signed]
  split <;> simp

variable {d : Decimal} {x : Binary64}

/-- A decimal is a whole number of units of the last place that it can have. -/
private theorem abs_toRat_eq (d : Decimal) : |d.toRat| = (d.coefficient * 10 ^ (28 - d.scale) : ℕ) / 10 ^ 28 := by
  have hplaces : (10 : ℚ) ^ 28 = 10 ^ (28 - d.scale) * 10 ^ d.scale := by
    rw [← pow_add, Nat.sub_add_cancel d.scale_le]
  rw [abs_toRat, hplaces, Nat.cast_mul, Nat.cast_pow, Nat.cast_ofNat]
  field_simp

/-- A decimal has at most twenty-eight places, so more places without a zero at the end make another number. -/
private theorem written_ne_toRat (hx : x.isFinite = true) (he : x.shortest.2 < -28) : x.written ≠ d.toRat := by
  intro heq
  have hzero : x.isZero = false := by
    refine Bool.eq_false_iff.2 fun h => ?_
    rw [Binary64.shortest_of_isZero h] at he
    omega
  obtain ⟨k, hk⟩ : ∃ k : ℕ, x.shortest.2 = -28 - (k + 1 : ℕ) := ⟨(-29 - x.shortest.2).toNat, by omega⟩
  have hpower : (10 : ℚ) ^ x.shortest.2 = 1 / (10 ^ 28 * 10 ^ (k + 1)) := by
    rw [hk, zpow_sub₀ (by norm_num), zpow_natCast, zpow_neg, zpow_ofNat]
    field_simp
  have habs : |x.written| = |d.toRat| := by rw [heq]
  rw [Binary64.abs_written, abs_toRat_eq, hpower, mul_one_div, ← div_div, div_right_comm,
    div_left_inj' (by positivity), div_eq_iff (by positivity)] at habs
  have hmultiple : x.shortest.1 = d.coefficient * 10 ^ (28 - d.scale) * 10 ^ (k + 1) := by exact_mod_cast habs
  refine (Binary64.shortest_spec hx hzero).2.2 ?_
  rw [hmultiple, pow_succ, ← mul_assoc, Nat.mul_mod_left]

private theorem abs_toRat_le (hx : x.isFinite = true) (he : x.shortest.2 < -28)
    (hclose : |d.toRat - x.written| ≤ 1 / 2 / 10 ^ 28) : |d.toRat| ≤ 1 / 10 ^ 12 := by
  by_contra hlt
  rw [not_le] at hlt
  have hwritten : |x.written| < 1 / 10 ^ 12 := by
    have hcoefficient : (x.shortest.1 : ℚ) < 10 ^ 17 := by exact_mod_cast Binary64.shortest_lt hx
    have hpower : (10 : ℚ) ^ x.shortest.2 ≤ 10 ^ (-29 : ℤ) := zpow_le_zpow_right₀ (by norm_num) (by omega)
    calc |x.written| = x.shortest.1 * 10 ^ x.shortest.2 := x.abs_written
      _ < 10 ^ 17 * 10 ^ x.shortest.2 := mul_lt_mul_of_pos_right hcoefficient (by positivity)
      _ ≤ 10 ^ 17 * 10 ^ (-29 : ℤ) := mul_le_mul_of_nonneg_left hpower (by positivity)
      _ = 1 / 10 ^ 12 := by norm_num
  have hunits : (1 / 10 ^ 12 + 1 / 10 ^ 28 : ℚ) ≤ |d.toRat| := by
    rw [abs_toRat_eq] at hlt ⊢
    generalize d.coefficient * 10 ^ (28 - d.scale) = n at hlt ⊢
    have hn : 10 ^ 16 < n := by
      rw [lt_div_iff₀ (by positivity)] at hlt
      have hlt' : (10 ^ 16 : ℚ) < n := by
        calc (10 ^ 16 : ℚ) = 1 / 10 ^ 12 * 10 ^ 28 := by norm_num
          _ < n := hlt
      exact_mod_cast hlt'
    have hn' : (10 ^ 16 + 1 : ℚ) ≤ n := by exact_mod_cast hn
    calc (1 / 10 ^ 12 + 1 / 10 ^ 28 : ℚ) = (10 ^ 16 + 1) / 10 ^ 28 := by norm_num
      _ ≤ n / 10 ^ 28 := div_le_div_of_nonneg_right hn' (by positivity)
  have hdifference := (abs_sub_abs_le_abs_sub d.toRat x.written).trans hclose
  linarith

/-- A decimal that is no integer in range leaves as a string, or as a number whose plain text is read as the decimal. -/
private theorem toJson_of_forall_ne (h : ∀ n : ℤ, -(2 ^ 63) ≤ n → n < 2 ^ 64 → d.toRat ≠ n) :
    d.toJson = .str d.text ∨ ∃ x hx back, d.toJson = .num (.float x hx) ∧
      ofText (FloatLayout.unscaled.text x) = .ok back ∧ back.toRat = d.toRat := by
  have hwhole : (if d.isWhole then Json.ofInt? d.truncated else none) = none := by
    split
    · rename_i hwhole
      have hvalue := toRat_eq_intCast_iff.2 ⟨hwhole, rfl⟩
      rw [Json.ofInt?, JsonNumber.ofInt?, dif_neg fun hrange => h d.truncated hrange.1 hrange.2 hvalue]
      rfl
    · rfl
  unfold toJson
  dsimp only
  rw [hwhole]
  dsimp only
  split
  · rename_i n back hnumber hread
    split
    · rename_i heqv
      refine .inr ?_
      unfold JsonNumber.ofBinary64? at hnumber
      split at hnumber
      · rename_i hx
        cases hnumber
        exact ⟨d.toBinary64, hx, back, rfl, hread, eqv_iff.1 heqv⟩
      · cases hnumber
    · exact .inl rfl
  · exact .inl rfl

/-- How a decimal leaves a script.  An integer in range leaves as this integer.  Otherwise the decimal leaves as a
string that is read back as it was, or as a number that is off by at most half a unit of the last place that a decimal
can have.  This number is exact if and only if it is written with at most twenty-eight places, and so for every decimal
greater than `1e-12`, whatever its sign. -/
theorem toJson_exact (d : Decimal) :
    (∀ (n : ℤ) (h : -(2 ^ 63) ≤ n ∧ n < 2 ^ 64), d.toRat = n → d.toJson = .num (.int n h)) ∧
    ((∀ n : ℤ, -(2 ^ 63) ≤ n → n < 2 ^ 64 → d.toRat ≠ n) →
      (d.toJson = .str d.text ∧ ofText d.text = .ok d) ∨
      ∃ x hx q, d.toJson = .num (.float x hx) ∧ denoted? (JsonNumber.float x hx).chars = some q ∧
        |d.toRat - q| ≤ 1 / 2 / 10 ^ 28 ∧ (q = d.toRat ↔ -28 ≤ x.shortest.2) ∧
        (1 / 10 ^ 12 < |d.toRat| → q = d.toRat)) := by
  refine ⟨fun n h hn => ?_, fun h => ?_⟩
  · obtain ⟨hwhole, htruncated⟩ := toRat_eq_intCast_iff.1 hn
    rw [toJson, if_pos hwhole, htruncated, Json.ofInt?, JsonNumber.ofInt?, dif_pos h]
    rfl
  · rcases toJson_of_forall_ne h with hstring | ⟨x, hx, back, hnumber, hread, hback⟩
    · refine .inl ⟨hstring, ofText_text fun _ hzero => ?_⟩
      refine h 0 (by norm_num) (by norm_num) ?_
      rw [toRat, signed, hzero]
      simp
    · obtain ⟨hexact, hclose⟩ := toRat_of_unscaled hx hread
      rw [hback] at hexact hclose
      have hplaces : x.written = d.toRat ↔ -28 ≤ x.shortest.2 :=
        ⟨fun heq => not_lt.1 fun he => written_ne_toRat hx he heq, fun he => (hexact he).symm⟩
      refine .inr ⟨x, hx, x.written, hnumber, FloatLayout.denoted?_chars hx _, hclose, hplaces, fun hlt => ?_⟩
      exact hplaces.2 (not_lt.1 fun he => not_le.2 hlt (abs_toRat_le hx he hclose))

private def isFloat (x : Binary64) : Json → Bool
  | .num (.float y _) => y == x
  | _ => false

private theorem exists_of_isFloat {x : Binary64} {j : Json} (h : isFloat x j = true) :
    ∃ hx, j = .num (.float x hx) := by
  unfold isFloat at h
  split at h
  · rename_i y hy
    obtain rfl := eq_of_beq h
    exact ⟨hy, rfl⟩
  · cases h

/-- A price leaves as the number that it is. -/
theorem toJson_exact_of_price :
    let d : Decimal := ⟨false, 1999, 2, by decide, by decide⟩
    ∃ x hx, d.toJson = .num (.float x hx) ∧ denoted? (JsonNumber.float x hx).chars = some (1999 / 100) := by
  intro d
  obtain ⟨_, hnumber⟩ := exists_of_isFloat (by decide +kernel : isFloat d.toBinary64 d.toJson = true)
  have hwhole : ∀ n : ℤ, -(2 ^ 63) ≤ n → n < 2 ^ 64 → d.toRat ≠ n :=
    fun n _ _ h => absurd (toRat_eq_intCast_iff.1 h).1 (by decide)
  have hvalue : d.toRat = 1999 / 100 := by norm_num [toRat, signed, d]
  rcases (toJson_exact d).2 hwhole with ⟨hstring, -⟩ | ⟨x, hx, q, hfloat, hdenoted, -, -, hexact⟩
  · rw [hnumber] at hstring
    cases hstring
  · refine ⟨x, hx, hfloat, ?_⟩
    rw [hdenoted, hexact (by rw [hvalue]; norm_num [abs_of_pos]), hvalue]

/-- No floating-point number is the power of ten behind `1e-23`, so the quotient is off by one unit.  In the plain text
this is the thirty-ninth place, which is rounded away when the text is compared. -/
theorem toJson_rounds :
    let d : Decimal := ⟨false, 1, 23, by decide, by decide⟩
    d.toRat = 1 / 10 ^ 23 ∧ ∃ x hx, d.toJson = .num (.float x hx) ∧
      (JsonNumber.float x hx).text = "1.0000000000000001e-23" ∧
      denoted? (JsonNumber.float x hx).chars = some (10000000000000001 / 10 ^ 39) ∧
      (10000000000000001 / 10 ^ 39 : ℚ) ≠ d.toRat := by
  intro d
  have hvalue : d.toRat = 1 / 10 ^ 23 := by norm_num [toRat, signed, d]
  obtain ⟨hx, hnumber⟩ := exists_of_isFloat (by decide +kernel : isFloat d.toBinary64 d.toJson = true)
  have htext : FloatLayout.interchange.text d.toBinary64 = "1.0000000000000001e-23" := by decide +kernel
  have hdigits : d.toBinary64.shortest = (10000000000000001, -39) := by decide +kernel
  have hsign : d.toBinary64.isNegative = false := by decide +kernel
  refine ⟨hvalue, d.toBinary64, hx, hnumber, htext, ?_, ?_⟩
  · rw [JsonNumber.chars, FloatLayout.denoted?_chars hx, Binary64.written, hdigits, hsign]
    norm_num
  · rw [hvalue]
    norm_num

end Decimal

end Sandscript
