import Sandscript.Trace.BatchId
import Mathlib.Tactic.Ring

/-!
# Batch identifiers and their texts

A batch identifier is read back from its text (`BatchId.ofText_text`): the hyphens stand where the reader looks for
them, and the digits between them make up the number.
-/

namespace Sandscript.BatchId

/-! ### Digits -/

private theorem length_hexChars (n k : Nat) : (hexChars n k).length = k := by
  induction k with
  | zero => rfl
  | succ k ih => rw [hexChars, List.length_cons, ih]

private theorem exists_hexDigit_of_mem {c : Char} {n k : Nat} (h : c ∈ hexChars n k) :
    ∃ d < 16, c = Text.hexDigit d := by
  induction k with
  | zero => cases h
  | succ k ih =>
    rcases List.mem_cons.1 h with rfl | h
    · exact ⟨_, Nat.mod_lt _ (by decide), rfl⟩
    · exact ih h

private theorem ne_of_mem_hexChars {c : Char} (hc : Text.hexValue? c = none) {d : Char} {n k : Nat}
    (h : d ∈ hexChars n k) :
    d ≠ c := by
  obtain ⟨v, hv, rfl⟩ := exists_hexDigit_of_mem h
  exact Text.hexDigit_ne_of_hexValue? hc hv

private theorem foldl_hexChars (n k front : Nat) :
    (hexChars n k).foldl pushDigit? (some front) = some (16 ^ k * front + n % 16 ^ k) := by
  induction k generalizing front with
  | zero => simp [hexChars, Nat.mod_one]
  | succ k ih =>
    have hpush : pushDigit? (some front) (Text.hexDigit (n / 16 ^ k % 16)) = some (16 * front + n / 16 ^ k % 16) := by
      unfold pushDigit?
      rw [Text.hexValue?_hexDigit (Nat.mod_lt _ (by decide))]
    rw [hexChars, List.foldl_cons, hpush, ih, Nat.pow_succ, Nat.mod_mul]
    congr 1
    ring

private theorem valueOf_hexChars {n k : Nat} (h : n < 16 ^ k) : valueOf (hexChars n k) = some n := by
  rw [valueOf, foldl_hexChars, Nat.mod_eq_of_lt h, Nat.mul_zero, Nat.zero_add]

/-! ### Groups -/

private theorem take_drop_append {α : Type} (l : List α) (j k : Nat) :
    (l.drop j).take k ++ l.drop (j + k) = l.drop j := by
  rw [← List.drop_drop, List.take_append_drop]

/-- Five groups of digits with hyphens between them. -/
def grouped (a b c d e : List Char) : List Char := a ++ '-' :: b ++ '-' :: c ++ '-' :: d ++ '-' :: e

private theorem exists_groups {ds : List Char} (h : ds.length = 32) : ∃ a b c d e, ds = a ++ b ++ c ++ d ++ e ∧
    ds.take 8 ++ '-' :: (ds.drop 8).take 4 ++ '-' :: (ds.drop 12).take 4 ++ '-' :: (ds.drop 16).take 4 ++
      '-' :: ds.drop 20 = grouped a b c d e ∧
    a.length = 8 ∧ b.length = 4 ∧ c.length = 4 ∧ d.length = 4 ∧ e.length = 12 := by
  refine ⟨ds.take 8, (ds.drop 8).take 4, (ds.drop 12).take 4, (ds.drop 16).take 4, ds.drop 20, ?_, rfl, ?_⟩
  · have h₁ := take_drop_append ds 8 4
    have h₂ := take_drop_append ds 12 4
    have h₃ := take_drop_append ds 16 4
    rw [List.append_assoc, List.append_assoc, List.append_assoc, h₃, h₂, h₁, List.take_append_drop]
  · simp only [List.length_take, List.length_drop, h]
    decide

section

variable {a b c d e : List Char} (ha : a.length = 8) (hb : b.length = 4) (hc : c.length = 4) (hd : d.length = 4)
  (he : e.length = 12)

include ha hb hc hd he

private theorem hyphenated?_grouped (hdigits : ∀ x ∈ a ++ b ++ c ++ d ++ e, x ≠ '-') :
    hyphenated? (grouped a b c d e) = valueOf (a ++ b ++ c ++ d ++ e) := by
  have hplaces : (grouped a b c d e).length = 36 ∧ (grouped a b c d e)[8]? = some '-' ∧
      (grouped a b c d e)[13]? = some '-' ∧ (grouped a b c d e)[18]? = some '-' ∧
      (grouped a b c d e)[23]? = some '-' := by
    simp [grouped, ha, hb, hc, hd, he]
  have hfilter : (grouped a b c d e).filter (· != '-') = a ++ b ++ c ++ d ++ e := by
    rw [← List.filter_eq_self.2 fun x hx => bne_iff_ne.2 (hdigits x hx)]
    simp [grouped]
  have hlength : (a ++ b ++ c ++ d ++ e).length = 32 := by
    simp only [List.length_append, ha, hb, hc, hd, he]
  rw [hyphenated?, if_pos hplaces, hfilter]
  dsimp only
  rw [if_pos hlength]

end

/-! ### Texts -/

private theorem unwrap_of_ne {c : Char} (hbrace : c ≠ '\x7b') (hurn : c ≠ 'u') (rest : List Char) :
    unwrap (c :: rest) = (c :: rest, 0, true) := by
  have hprefix : "urn:uuid:".toList.isPrefixOf (c :: rest) = false := by
    rw [show "urn:uuid:".toList = 'u' :: "rn:uuid:".toList by decide, List.isPrefixOf_cons_cons,
      beq_eq_false_iff_ne.2 hurn.symm, Bool.false_and]
  unfold unwrap
  dsimp only
  rw [beq_eq_false_iff_ne.2 hbrace, Bool.false_and, if_neg Bool.false_ne_true, hprefix, if_neg Bool.false_ne_true]

/-- A batch identifier can be read back from its text. -/
theorem ofText_text (b : BatchId) : ofText b.text = .ok b := by
  obtain ⟨u, v, w, x, y, hdigits, hgrouped, hu, hv, hw, hx, hy⟩ := exists_groups (length_hexChars b.bits.toNat 32)
  have hchars : b.chars = grouped u v w x y := hgrouped
  have hmem : ∀ c ∈ u ++ v ++ w ++ x ++ y, c ∈ hexChars b.bits.toNat 32 := fun c hc => hdigits ▸ hc
  have hvalue : hyphenated? b.chars = some b.bits.toNat := by
    rw [hchars, hyphenated?_grouped hu hv hw hx hy fun c hc => ne_of_mem_hexChars rfl (hmem c hc), ← hdigits]
    have hlt : b.bits.toNat < 16 ^ 32 := Nat.lt_of_lt_of_eq b.bits.isLt (by decide)
    exact valueOf_hexChars hlt
  have hunwrap : unwrap b.chars = (b.chars, 0, true) := by
    cases u with
    | nil => cases hu
    | cons c u =>
      have hc : c ∈ hexChars b.bits.toNat 32 := hmem c List.mem_cons_self
      rw [hchars]
      exact unwrap_of_ne (ne_of_mem_hexChars rfl hc) (ne_of_mem_hexChars rfl hc) _
  unfold ofText
  dsimp only
  rw [text, String.toList_ofList, hunwrap]
  dsimp only
  rw [hvalue]
  dsimp only
  rw [BitVec.ofNat_toNat, BitVec.setWidth_eq]

end Sandscript.BatchId
