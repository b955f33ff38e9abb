import Sandscript.Proofs.Numeric.Digits
import Sandscript.Trace.Timestamp
import Mathlib.Data.List.TakeDrop

/-!
# Timestamps and their texts

A timestamp that names a point in time is read back from its text (`Timestamp.ofText_text`): every number stands with
enough digits for the reader to tell where it ends.
-/

namespace Sandscript

namespace Timestamp

/-- A point in time that the calendar and the clock have. -/
structure Valid (t : Timestamp) : Prop where
  year_ge : -maxYear - 1 ≤ t.year
  year_le : t.year ≤ maxYear
  month_pos : 1 ≤ t.month
  month_le : t.month ≤ 12
  day_pos : 1 ≤ t.day
  day_le : t.day ≤ Calendar.daysInMonth t.year t.month
  hour_le : t.hour ≤ 23
  minute_le : t.minute ≤ 59
  second_le : t.second ≤ 60
  nanos_lt : t.nanos < 10 ^ 9

/-! ### Digits -/

private theorem isDigit_of_mem_padded {c : Char} {width n : Nat} (h : c ∈ padded width n) : c.isDigit = true := by
  rcases List.mem_append.1 h with h | h
  · rw [List.eq_of_mem_replicate h]
    rfl
  · exact Nat.isDigit_of_mem_toDigits (by decide) (by decide) h

private theorem padded_ne_nil (width n : Nat) : padded width n ≠ [] :=
  List.append_ne_nil_of_right_ne_nil _ Nat.toDigits_ne_nil

private theorem ofDigits_padded (width n : Nat) : Numeric.ofDigits (padded width n) = n := by
  rw [Numeric.ofDigits_eq, padded, Nat.ofDigitChars_append, Nat.ofDigitChars_replicate_zero, Nat.mul_zero]
  exact Nat.ofDigitChars_ten_toDigits

private theorem length_padded {width n : Nat} (hwidth : 0 < width) (h : n < 10 ^ width) :
    (padded width n).length = width := by
  have hdigits : (Numeric.digits n).length ≤ width := (Nat.length_toDigits_le_iff (by decide) hwidth).2 h
  rw [padded, List.length_append, List.length_replicate]
  omega

/-! ### Numbers -/

private theorem skipBlank_cons {c : Char} (h : Text.isBlankChar c = false) (rest : List Char) :
    skipBlank (c :: rest) = c :: rest :=
  List.dropWhile_cons_of_neg (by rw [h]; exact Bool.false_ne_true)

section

variable {ds : List Char} (hne : ds ≠ []) (hdigits : ∀ c ∈ ds, c.isDigit = true)

include hne hdigits

private theorem skipBlank_append (rest : List Char) : skipBlank (ds ++ rest) = ds ++ rest := by
  cases ds with
  | nil => exact absurd rfl hne
  | cons d ds =>
    exact skipBlank_cons (Text.isBlankChar_of_isDigit (hdigits d List.mem_cons_self)) _

private theorem isDigit_of_append_eq_cons {c : Char} {rest rest' : List Char} (h : ds ++ rest = c :: rest') :
    c.isDigit = true := by
  cases ds with
  | nil => exact absurd rfl hne
  | cons d ds =>
    cases h
    exact hdigits c List.mem_cons_self

/-- A number ends where there is room for no more digits, or where no digit follows. -/
private theorem number_append {most : Nat} {rest : List Char} (hmost : ds.length ≤ most)
    (hend : ds.length = most ∨ ∀ c ∈ rest.head?, c.isDigit = false) :
    number most (ds ++ rest) = .ok (Numeric.ofDigits ds, rest) := by
  have hrest : (rest.take (most - ds.length)).takeWhile Char.isDigit = [] := by
    rcases hend with rfl | hend
    · rw [Nat.sub_self, List.take_zero, List.takeWhile_nil]
    · cases rest with
      | nil => rw [List.take_nil, List.takeWhile_nil]
      | cons c rest =>
        cases most - ds.length with
        | zero => rfl
        | succ k => rw [List.take_succ_cons, List.takeWhile_cons_of_neg (by rw [hend c rfl]; exact Bool.false_ne_true)]
  have htaken : ((ds ++ rest).take most).takeWhile Char.isDigit = ds := by
    rw [List.take_append, List.take_of_length_le hmost, List.takeWhile_append_of_pos hdigits, hrest, List.append_nil]
  cases ds with
  | nil => exact absurd rfl hne
  | cons d ds =>
    have hd := hdigits d List.mem_cons_self
    rw [List.cons_append] at htaken ⊢
    dsimp only [number]
    rw [hd, Bool.not_true, if_neg Bool.false_ne_true, htaken, ← List.cons_append, List.drop_left]

end

/-! ### Fields -/

private theorem expect_cons {c : Char} (h : Text.isBlankChar c = false) (rest : List Char) :
    expect c (c :: rest) = .ok rest := by
  unfold expect
  rw [skipBlank_cons h]
  dsimp only
  rw [beq_self_eq_true, if_pos rfl]

private theorem field_padded {low high n : Nat} (hlow : low ≤ n) (hhigh : n ≤ high) (h : high < 100)
    (rest : List Char) :
    field low high (padded 2 n ++ rest) = .ok (n, rest) := by
  have hlength : (padded 2 n).length = 2 := length_padded (by decide) (Nat.lt_of_le_of_lt hhigh h)
  have hdigits : ∀ c ∈ padded 2 n, c.isDigit = true := fun c hc => isDigit_of_mem_padded hc
  rw [field, skipBlank_append (padded_ne_nil 2 n) hdigits,
    number_append (padded_ne_nil 2 n) hdigits (Nat.le_of_eq hlength) (.inl hlength), ofDigits_padded]
  exact if_pos ⟨hlow, hhigh⟩

private theorem readYear_yearChars (y : Int) (rest : List Char) :
    readYear (yearChars y ++ '-' :: rest) = .ok (y, '-' :: rest) := by
  have hne (n : Nat) := padded_ne_nil 4 n
  have hdigits (n : Nat) : ∀ c ∈ padded 4 n, c.isDigit = true := fun c hc => isDigit_of_mem_padded hc
  unfold yearChars
  split
  · rename_i hy
    have hlength : (padded 4 y.toNat).length = 4 := length_padded (by decide) (by omega)
    have hnumber : number 4 (padded 4 y.toNat ++ '-' :: rest) = .ok (y.toNat, '-' :: rest) := by
      rw [number_append (hne _) (hdigits _) (Nat.le_of_eq hlength) (.inl hlength), ofDigits_padded]
    unfold readYear
    rw [skipBlank_append (hne _) (hdigits _)]
    dsimp only
    -- a digit is neither of the signs
    split
    · rename_i h
      cases isDigit_of_append_eq_cons (hne _) (hdigits _) h
    · rename_i h
      cases isDigit_of_append_eq_cons (hne _) (hdigits _) h
    · rw [hnumber]
      dsimp only
      rw [Int.toNat_of_nonneg hy.1]
  · have hnumber (n : Nat) :
        number (padded 4 n ++ '-' :: rest).length (padded 4 n ++ '-' :: rest) = .ok (n, '-' :: rest) := by
      have hlength : (padded 4 n).length ≤ (padded 4 n ++ '-' :: rest).length := by simp
      rw [number_append (hne n) (hdigits n) hlength (.inr fun c hc => by cases hc; rfl), ofDigits_padded]
    rw [List.cons_append]
    split
    · rename_i hy
      simp only [readYear, skipBlank_cons (c := '-') rfl, hnumber]
      rw [if_pos trivial, Int.ofNat_natAbs_of_nonpos (Int.le_of_lt hy), Int.neg_neg]
    · rename_i hy
      simp only [readYear, skipBlank_cons (c := '+') rfl, hnumber]
      rw [if_neg Bool.false_ne_true, Int.natAbs_of_nonneg (Int.not_lt.1 hy)]

/-- Places that are a multiple of a power of ten can be read back without the zeros. -/
private theorem readNanos_places {places n : Nat} (hpos : 0 < places) (hplaces : places ≤ 9) (h : n < 10 ^ places) :
    readNanos ('.' :: padded places n ++ ['Z']) = .ok (n * 10 ^ (9 - places), ['Z']) := by
  have hlength : (padded places n).length = places := length_padded hpos h
  have hnumber : number 9 (padded places n ++ ['Z']) = .ok (n, ['Z']) := by
    rw [number_append (padded_ne_nil places n) (fun c hc => isDigit_of_mem_padded hc)
      (Nat.le_trans (Nat.le_of_eq hlength) hplaces) (.inr fun c hc => by cases hc; rfl), ofDigits_padded]
  simp only [readNanos, List.cons_append, hnumber, List.length_append, hlength, Nat.add_sub_cancel]
  rfl

private theorem readNanos_placesChars {n : Nat} (h : n < 10 ^ 9) :
    readNanos (placesChars n ++ ['Z']) = .ok (n, ['Z']) := by
  unfold placesChars
  split
  · rename_i hzero
    rw [hzero]
    rfl
  · split
    · rename_i hmillis
      rw [readNanos_places (by decide) (by decide) (by omega), Nat.div_mul_cancel (Nat.dvd_of_mod_eq_zero hmillis)]
    · split
      · rename_i hmicros
        rw [readNanos_places (by decide) (by decide) (by omega), Nat.div_mul_cancel (Nat.dvd_of_mod_eq_zero hmicros)]
      · rw [readNanos_places (by decide) (by decide) h, Nat.sub_self, Nat.pow_zero, Nat.mul_one]

/-- A point in time can be read back from its text. -/
theorem ofText_text {t : Timestamp} (h : t.Valid) : ofText t.text = .ok t := by
  have hlast : t.day ≤ 31 := by
    have hday := h.day_le
    unfold Calendar.daysInMonth at hday
    split at hday <;> split at hday <;> omega
  have hmonth := field_padded h.month_pos h.month_le (by decide)
  have hday := field_padded h.day_pos hlast (by decide)
  have hhour := field_padded (Nat.zero_le _) h.hour_le (by decide)
  have hminute := field_padded (Nat.zero_le _) h.minute_le (by decide)
  have hsecond := field_padded (Nat.zero_le _) h.second_le (by decide)
  have hrange : (decide (Calendar.daysInMonth t.year t.month < t.day) || decide (maxYear < t.year) ||
      decide (t.year < -maxYear - 1)) = false := by
    simp only [Bool.or_eq_false_iff, decide_eq_false_iff_not, Nat.not_lt, Int.not_lt]
    exact ⟨⟨h.day_le, h.year_le⟩, h.year_ge⟩
  have hoffset : readOffset (skipBlank ['Z']) = .ok (0, []) := rfl
  rw [ofText, text, String.toList_ofList, chars]
  simp only [List.append_assoc, List.cons_append, ofChars, readYear_yearChars, expect_cons (c := '-') rfl,
    expect_cons (c := ':') rfl, hmonth, hday, hhour, hminute, hsecond, readNanos_placesChars h.nanos_lt, hoffset, bind,
    Except.bind, hrange]
  rfl

end Timestamp

end Sandscript
