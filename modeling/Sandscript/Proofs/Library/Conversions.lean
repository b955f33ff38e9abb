import Sandscript.Proofs.Fields
import Sandscript.Proofs.Library.Calls
import Sandscript.Proofs.Numeric.DecimalText
import Sandscript.Proofs.Text.Trimming

/-!
# Conversions undo each other

The text of an integer or of a decimal is read back as the same number, in any white space, and an integer comes back
from its decimal (`readInt?_toString`, `toDecimal_text`, `truncated_ofInt64`).  A map comes back from the pairs of its
entries in any order, and of several pairs whose keys have one text the last counts (`toMap_pairs`).
-/

namespace Sandscript.Library

open Numeric Text

/-! ### Texts of numbers -/

private theorem toList_toString (n : Int) : (toString n).toList = Decimal.signChars (n < 0) ++ digits n.natAbs := by
  cases n with
  | ofNat m =>
    change (Nat.repr m).toList = _
    simp [Nat.repr, digits, Decimal.signChars]
  | negSucc m =>
    change ("-" ++ Nat.repr (m + 1)).toList = _
    simp [Nat.repr, digits, Decimal.signChars, Int.negSucc_lt_zero]

private theorem unspaced_signChars {cs : List Char} (h : Unspaced cs) (negative : Bool) :
    Unspaced (Decimal.signChars negative ++ cs) := by
  intro c hc
  cases negative with
  | true =>
    rcases List.mem_cons.1 hc with rfl | hc
    · decide
    · exact h c hc
  | false => exact h c hc

private theorem unspaced_toString (n : Int) : Unspaced (toString n).toList := by
  rw [toList_toString]
  exact unspaced_signChars (fun c hc => isBlankChar_of_isDigit (isDigit_of_mem_digits hc)) _

private theorem unspaced_text (d : Decimal) : Unspaced d.text.toList := by
  obtain ⟨cs, hwrites, hchars⟩ := d.exists_chars
  rw [Decimal.text, String.toList_ofList, hchars]
  refine unspaced_signChars (fun c hc => ?_) _
  rcases Decimal.isDigit_or_point_of_writes hwrites hc with hdigit | rfl
  · exact isBlankChar_of_isDigit hdigit
  · decide

private theorem signedDigits?_signChars {ds : List Char} (hne : ds ≠ []) (hds : ∀ c ∈ ds, c.isDigit = true)
    (negative : Bool) :
    signedDigits? (Decimal.signChars negative ++ ds) =
      some (if negative then -(ofDigits ds : Int) else ofDigits ds) := by
  have hdigits : ¬(ds.isEmpty || !ds.all Char.isDigit) = true := by
    simp [hne, List.all_eq_true.2 hds]
  cases negative with
  | true =>
    rw [Decimal.signChars, if_pos rfl, List.singleton_append, signedDigits?]
    dsimp only
    rw [if_neg hdigits]
    rfl
  | false =>
    rw [Decimal.signChars, if_neg Bool.false_ne_true, List.nil_append]
    unfold signedDigits?
    dsimp only
    split
    · exact absurd (hds '-' List.mem_cons_self) (by decide)
    · exact absurd (hds '+' List.mem_cons_self) (by decide)
    · rw [if_neg hdigits]
      rfl

/-- An integer is read back from its text. -/
theorem readInt?_toString (n : Int64) : readInt? (toString n.toInt) = some n := by
  have hvalue : (if n.toInt < 0 then -(n.toInt.natAbs : Int) else n.toInt.natAbs) = n.toInt := by
    split <;> omega
  rw [readInt?, toList_toString, signedDigits?_signChars (digits_ne_nil _) fun c hc => isDigit_of_mem_digits hc,
    ofDigits_digits]
  simp only [decide_eq_true_eq]
  rw [hvalue]
  exact word?_toInt n

theorem truncated_ofInt64 (n : Int64) : (Decimal.ofInt64 n).truncated = n.toInt := by
  simp only [Decimal.truncated, Decimal.ofInt64, pow_zero, Nat.div_one, decide_eq_true_eq]
  split <;> omega

/-! ### Numbers -/

/-- The text of an integer, in any white space, is read as the integer. -/
private theorem call?_int_text (n : Int64) : ∃ s, call? "str" [.int n] = some (.ok (.str s)) ∧
    ∀ t, Within s t → call? "int" [.str t] = some (.ok (.int n)) := by
  refine ⟨toString n.toInt, ?_, fun t ht => ?_⟩
  · have htext : (Value.int n).text = toString n.toInt := String.ofList_toList
    rw [call?_str, htext]
    rfl
  · rw [call?_int, toInt, trim_eq_of_within (unspaced_toString n.toInt) ht, readInt?_toString]
    rfl

private theorem call?_int_decimal (n : Int64) : ∃ d, call? "decimal" [.int n] = some (.ok (.dec d)) ∧
    call? "int" [.dec d] = some (.ok (.int n)) := by
  refine ⟨.ofInt64 n, ?_, ?_⟩
  · rw [call?_decimal]
    rfl
  · rw [call?_int, toInt, truncated_ofInt64, word?_toInt]
    rfl

/-- The same number with the same places; a zero may lose its sign. -/
structure SameDecimal (d e : Decimal) : Prop where
  eqv : e.eqv d = true
  scale_eq : e.scale = d.scale
  eq_of_nonzero : d.coefficient ≠ 0 → e = d

/-- A decimal whose sign is taken from it if it is zero. -/
def unsignedZero (d : Decimal) : Decimal := { d with negative := d.negative && d.coefficient != 0 }

private theorem sameDecimal_unsignedZero (d : Decimal) : SameDecimal d (unsignedZero d) := by
  by_cases hzero : d.coefficient = 0
  · have hrat : ∀ negative, Decimal.toRat { d with negative } = 0 := by
      intro negative
      rw [Decimal.toRat_mk, hzero, Nat.cast_zero, zero_div, mul_zero]
    exact ⟨Decimal.eqv_iff.2 ((hrat _).trans (hrat d.negative).symm), rfl, fun hne => absurd hzero hne⟩
  · have heq : unsignedZero d = d := by
      rw [unsignedZero, bne_iff_ne.2 hzero, Bool.and_true]
    rw [heq]
    exact ⟨Decimal.eqv_iff.2 rfl, rfl, fun _ => rfl⟩

/-- The text of a decimal, in any white space, is read as the decimal. -/
private theorem call?_decimal_text (d : Decimal) : ∃ s, call? "str" [.dec d] = some (.ok (.str s)) ∧
    ∀ t, Within s t → ∃ e, call? "decimal" [.str t] = some (.ok (.dec e)) ∧ SameDecimal d e := by
  refine ⟨d.text, by rw [call?_str]; rfl, fun t ht => ⟨unsignedZero d, ?_, sameDecimal_unsignedZero d⟩⟩
  rw [call?_decimal, toDecimal, trim_eq_of_within (unspaced_text d) ht, Decimal.ofText_text_eq]
  rfl

/-! ### Maps -/

/-- The pair of a key and a value. -/
def pair (p : Value × Value) : Value := .arr [p.1, p.2]

/-- The last of the pairs whose keys have the text `key` has the value `v`. -/
def LastPair (key : String) (v : Value) (ps : List (Value × Value)) : Prop :=
  ∃ front k back, ps = front ++ (k, v) :: back ∧ k.text = key ∧ ∀ p ∈ back, p.1.text ≠ key

/-- Pairs with the texts of their keys. -/
def keyTexts (ps : List (Value × Value)) : List (String × Value) := ps.map fun p => (p.1.text, p.2)

private theorem mapM_toPair (ps : List (Value × Value)) : (ps.map pair).mapM toPair = .ok (keyTexts ps) := by
  induction ps with
  | nil => rfl
  | cons p ps ih =>
    rw [List.map_cons, List.mapM_cons, ih]
    rfl

private theorem call?_dict_pairs (ps : List (Value × Value)) :
    call? "dict" [.arr (ps.map pair)] = some (.ok (.map (Fields.ofPairs (keyTexts ps)))) := by
  rw [call?_dict, toMap, mapM_toPair]
  rfl

private theorem lastFor_keyTexts_iff {key : String} {v : Value} {ps : List (Value × Value)} :
    Fields.LastFor key v (keyTexts ps) ↔ LastPair key v ps := by
  constructor
  · rintro ⟨front, back, heq, hback⟩
    obtain ⟨before, rest, rfl, -, hrest⟩ := List.map_eq_append_iff.1 heq
    obtain ⟨⟨k, w⟩, after, rfl, hpair, rfl⟩ := List.map_eq_cons_iff.1 hrest
    cases hpair
    refine ⟨before, k, after, rfl, rfl, fun p hp hkey => hback ?_⟩
    rw [← hkey]
    exact List.mem_map_of_mem (List.mem_map_of_mem hp)
  · rintro ⟨front, k, back, rfl, rfl, hback⟩
    refine ⟨keyTexts front, keyTexts back, by simp [keyTexts], fun hmem => ?_⟩
    obtain ⟨q, hq, hkey⟩ := List.mem_map.1 hmem
    obtain ⟨p, hp, rfl⟩ := List.mem_map.1 hq
    exact hback p hp hkey

/-- The list of a map has each of its keys once, in ascending order. -/
private theorem call?_list_map {es : List (String × Value)} (h : Fields.Sorted es) : ∃ ks : List String,
    call? "list" [.map es] = some (.ok (.arr (ks.map .str))) ∧ ks.Pairwise (· < ·) ∧
      ∀ key, key ∈ ks ↔ ∃ v, (key, v) ∈ es := by
  refine ⟨Fields.keys es, ?_, Fields.pairwise_keys h, fun key => ?_⟩
  · have hkeys : (Fields.keys es).map Value.str = es.map fun e => .str e.1 := List.map_map
    rw [call?_list, hkeys]
    rfl
  · simp [Fields.keys]

/-- A map is what the pairs of its entries describe, in whatever order they stand. -/
private theorem call?_dict_entries {es ps : List (String × Value)} (h : Fields.Sorted es) (hperm : ps.Perm es) :
    call? "dict" [.arr (ps.map fun p => pair (.str p.1, p.2))] = some (.ok (.map es)) := by
  have hpairs : ps.map (fun p => pair (.str p.1, p.2)) = (ps.map fun p => (Value.str p.1, p.2)).map pair := by
    rw [List.map_map]
    rfl
  have htexts : keyTexts (ps.map fun p => (Value.str p.1, p.2)) = ps := by
    rw [keyTexts, List.map_map]
    exact List.map_id ps
  rw [hpairs, call?_dict_pairs, htexts, Fields.ofPairs_of_perm h hperm]

/-! ### All of them -/

/-- The conversions of the library undo each other: integers and decimals come back from their texts, also in white
space, and integers from their decimals.  The list of a map has its keys, and a map comes back from the pairs of its
entries; for any pairs, a map has under each text the value of the last pair whose key has this text. -/
theorem conversions_undone :
    (∀ n : Int64,
      (∃ s, call? "str" [.int n] = some (.ok (.str s)) ∧
        ∀ t, Within s t → call? "int" [.str t] = some (.ok (.int n))) ∧
      ∃ d, call? "decimal" [.int n] = some (.ok (.dec d)) ∧ call? "int" [.dec d] = some (.ok (.int n))) ∧
    (∀ d : Decimal, ∃ s, call? "str" [.dec d] = some (.ok (.str s)) ∧
      ∀ t, Within s t → ∃ e, call? "decimal" [.str t] = some (.ok (.dec e)) ∧ SameDecimal d e) ∧
    (∀ es : List (String × Value), Fields.Sorted es →
      (∃ ks : List String, call? "list" [.map es] = some (.ok (.arr (ks.map .str))) ∧ ks.Pairwise (· < ·) ∧
        ∀ key, key ∈ ks ↔ ∃ v, (key, v) ∈ es) ∧
      ∀ ps : List (String × Value), ps.Perm es →
        call? "dict" [.arr (ps.map fun p => pair (.str p.1, p.2))] = some (.ok (.map es))) ∧
    ∀ ps : List (Value × Value), ∃ es, call? "dict" [.arr (ps.map pair)] = some (.ok (.map es)) ∧ Fields.Sorted es ∧
      ∀ key v, Fields.get? key es = some v ↔ LastPair key v ps := by
  refine ⟨fun n => ⟨call?_int_text n, call?_int_decimal n⟩, call?_decimal_text, fun es h =>
    ⟨call?_list_map h, fun ps hperm => call?_dict_entries h hperm⟩, fun ps => ?_⟩
  refine ⟨_, call?_dict_pairs ps, Fields.sorted_ofPairs _, fun key v => ?_⟩
  rw [Fields.get?_ofPairs_eq_some_iff, lastFor_keyTexts_iff]

/-- The least integer behind a tab and in front of a wide space, a negative decimal with twenty-eight places, a map from
its pairs in reverse, and three pairs of which two have keys with the text `1`. -/
theorem conversions_undone_of_limits :
    Within "-9223372036854775808" "\t-9223372036854775808\u3000" ∧
      call? "int" [.str "\t-9223372036854775808\u3000"] = some (.ok (.int (-9223372036854775808))) ∧
      Within "-0.0000000000000000000000000010" "-0.0000000000000000000000000010\n" ∧
      call? "decimal" [.str "-0.0000000000000000000000000010\n"] =
        some (.ok (.dec ⟨true, 10, 28, by decide, by decide⟩)) ∧
      Fields.Sorted [("a", Value.unit), ("b", .bool true)] ∧
      call? "dict" [.arr [pair (.str "b", .bool true), pair (.str "a", .unit)]] =
        some (.ok (.map [("a", .unit), ("b", .bool true)])) ∧
      ∃ es, call? "dict" [.arr [pair (.int 1, .bool false), pair (.str "2", .unit), pair (.str "1", .bool true)]] =
          some (.ok (.map es)) ∧ Fields.get? "1" es = some (.bool true) := by
  obtain ⟨hints, hdecimals, hmaps, hpairs⟩ := conversions_undone
  have hint : Within "-9223372036854775808" "\t-9223372036854775808\u3000" :=
    ⟨['\t'], ['\u3000'], by decide, by decide, by decide⟩
  have hdecimal : Within "-0.0000000000000000000000000010" "-0.0000000000000000000000000010\n" :=
    ⟨[], ['\n'], by decide, by decide, by decide⟩
  have hsorted : Fields.Sorted [("a", Value.unit), ("b", .bool true)] := List.pairwise_pair.2 (by decide)
  refine ⟨hint, ?_, hdecimal, ?_, hsorted, ?_, ?_⟩
  · obtain ⟨⟨s, hs, hread⟩, -⟩ := hints (-9223372036854775808)
    have htext : (Value.int (-9223372036854775808)).text = "-9223372036854775808" := rfl
    rw [call?_str, htext] at hs
    cases hs
    exact hread _ hint
  · obtain ⟨s, hs, hread⟩ := hdecimals ⟨true, 10, 28, by decide, by decide⟩
    have htext : (Value.dec ⟨true, 10, 28, by decide, by decide⟩).text = "-0.0000000000000000000000000010" := rfl
    rw [call?_str, htext] at hs
    cases hs
    obtain ⟨e, he, hsame⟩ := hread _ hdecimal
    rw [he, hsame.eq_of_nonzero (by decide)]
  · exact (hmaps _ hsorted).2 [("b", .bool true), ("a", .unit)] (List.Perm.swap _ _ _)
  · obtain ⟨es, hes, -, hlast⟩ := hpairs [(.int 1, .bool false), (.str "2", .unit), (.str "1", .bool true)]
    refine ⟨es, hes, (hlast _ _).2 ?_⟩
    exact ⟨[(.int 1, .bool false), (.str "2", .unit)], .str "1", [], rfl, rfl, List.forall_mem_nil _⟩

end Sandscript.Library
