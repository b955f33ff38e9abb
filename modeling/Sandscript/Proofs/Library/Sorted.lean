import Sandscript.Proofs.Library.Calls
import Sandscript.Proofs.Numeric.Integers
import Sandscript.Proofs.Text.Bytes

/-!
# Sorted arrays

Strings are sorted in the order of their bytes.  Integers are sorted by their floating-point numbers, and those with the
same number stay in the order that they had, so an array of integers comes out in order exactly if none of them stood
before a smaller one with the same number (`sorted_exact`).  From `2 ^ 53` on there are such integers
(`sorted_keeps_inversion`).
-/

namespace Sandscript.Library

/-! ### Stability -/

section

variable {α : Type} {le : α → α → Bool} {a b : α} {items : List α}

/-- Items that may stand in either order stay in the order that they had. -/
private theorem pair_sublist_of_sublist_mergeSort (trans : ∀ a b c, le a b → le b c → le a c)
    (total : ∀ a b, (le a b || le b a) = true) (hab : le a b = true) (hba : le b a = true)
    (h : [a, b].Sublist (items.mergeSort le)) : [a, b].Sublist items := by
  -- the items that may stand in the place of `a` are in order as they are, and so all of them stay as they are
  let like (x : α) : Bool := le a x && le x a
  have hself : le a a = true := trans a b a hab hba
  have hordered : (items.filter like).Pairwise fun x y => le x y = true := by
    refine List.pairwise_of_forall_mem_list fun x hx y hy => ?_
    have hx' := (List.mem_filter.1 hx).2
    have hy' := (List.mem_filter.1 hy).2
    simp only [like, Bool.and_eq_true] at hx' hy'
    exact trans x a y hx'.2 hy'.1
  have hkept : (items.filter like).Sublist ((items.mergeSort le).filter like) := by
    have hsub := List.sublist_mergeSort trans total hordered List.filter_sublist
    simpa using hsub.filter like
  have hlength : (items.filter like).length = ((items.mergeSort le).filter like).length :=
    ((List.mergeSort_perm items le).filter like).length_eq.symm
  have hpair : [a, b].Sublist ((items.mergeSort le).filter like) := by
    have hfiltered := h.filter like
    simpa [like, hself, hab, hba] using hfiltered
  rw [← hkept.eq_of_length hlength] at hpair
  exact hpair.trans List.filter_sublist

end

/-! ### The kinds of arrays -/

section

variable {items : List Value} {descending : Bool}

/-- Sorted items in the direction that is asked for. -/
def directed (descending : Bool) (vs : List Value) : List Value := if descending then vs.reverse else vs

/-- The message about arrays that cannot be sorted. -/
def mixedMessage : String := "sorted() expects all numbers or all strings"

private theorem sorted_of_numbers (h : (items.all fun v => (number? v).isSome) = true) :
    sorted items descending = .ok (directed descending (items.mergeSort fun a b => sortKey a ≤ sortKey b)) := by
  unfold sorted
  rw [if_pos h]
  rfl

private theorem sorted_of_texts (hnumbers : ¬ (items.all fun v => (number? v).isSome) = true)
    (h : items.all isText = true) :
    sorted items descending = .ok (directed descending (items.mergeSort fun a b => stringKey a ≤ stringKey b)) := by
  unfold sorted
  rw [if_neg hnumbers, if_pos h]
  rfl

private theorem sorted_of_others (hnumbers : ¬ (items.all fun v => (number? v).isSome) = true)
    (h : ¬ items.all isText = true) :
    sorted items descending = .error mixedMessage := by
  unfold sorted
  rw [if_neg hnumbers, if_neg h]
  rfl

end

/-! ### Integers -/

/-- Whether the number of `a` may stand in front of that of `b`. -/
def standsBefore (a b : Int64) : Bool := (toFloat a).totalKey ≤ (toFloat b).totalKey

private theorem standsBefore_trans (a b c : Int64) (hab : standsBefore a b = true) (hbc : standsBefore b c = true) :
    standsBefore a c = true :=
  decide_eq_true (Int.le_trans (of_decide_eq_true hab) (of_decide_eq_true hbc))

private theorem standsBefore_total (a b : Int64) : (standsBefore a b || standsBefore b a) = true := by
  rw [Bool.or_eq_true]
  exact (Int.le_total _ _).imp decide_eq_true decide_eq_true

private theorem standsBefore_iff {a b : Int64} : standsBefore a b = true ↔ (toFloat a).le (toFloat b) = true := by
  unfold standsBefore Binary64.le
  rw [isNaN_toFloat, isNaN_toFloat, decide_eq_true_eq, totalKey_toFloat_le_iff]
  simp

/-- Two integers may stand in either order exactly if they have the same number. -/
private theorem toFloat_eq_iff {a b : Int64} :
    toFloat a = toFloat b ↔ standsBefore a b = true ∧ standsBefore b a = true := by
  rw [← Binary64.totalKey_inj, Int.le_antisymm_iff]
  unfold standsBefore
  rw [decide_eq_true_eq, decide_eq_true_eq]

private theorem standsBefore_of_le {a b : Int64} (h : a ≤ b) : standsBefore a b = true :=
  decide_eq_true (totalKey_toFloat_le_iff.2 (key_toFloat_le h))

/-- Integers in the order of their numbers. -/
def sortedInts (ns : List Int64) : List Int64 := ns.mergeSort standsBefore

/-- The integers come out in order just if none of them stood before a smaller one with the same number. -/
private theorem pairwise_sortedInts_iff {ns : List Int64} :
    (sortedInts ns).Pairwise (· ≤ ·) ↔ ns.Pairwise fun a b => toFloat a = toFloat b → a ≤ b := by
  rw [List.pairwise_iff_forall_sublist, List.pairwise_iff_forall_sublist]
  constructor
  · intro h a b hab hequal
    exact h (List.pair_sublist_mergeSort standsBefore_trans standsBefore_total (toFloat_eq_iff.1 hequal).1 hab)
  · intro h a b hab
    have hbefore : standsBefore a b = true :=
      List.pairwise_iff_forall_sublist.1 (List.pairwise_mergeSort standsBefore_trans standsBefore_total ns) hab
    cases hafter : standsBefore b a with
    | true =>
      exact h (pair_sublist_of_sublist_mergeSort standsBefore_trans standsBefore_total hbefore hafter hab)
        (toFloat_eq_iff.2 ⟨hbefore, hafter⟩)
    | false =>
      refine Int64.le_of_lt (Int64.not_le.1 fun hle => ?_)
      rw [standsBefore_of_le hle] at hafter
      cases hafter

private theorem sorted_ints (ns : List Int64) (descending : Bool) :
    sorted (ns.map .int) descending = .ok (directed descending ((sortedInts ns).map .int)) := by
  have hnumbers : ((ns.map Value.int).all fun v => (number? v).isSome) = true := by
    rw [List.all_map, List.all_eq_true]
    exact fun _ _ => rfl
  rw [sorted_of_numbers hnumbers]
  exact congrArg _ (congrArg _ (List.map_mergeSort (f := Value.int) fun _ _ _ _ => rfl).symm)

/-! ### Strings -/

/-- Strings in the order of their characters. -/
def sortedTexts (ss : List String) : List String := ss.mergeSort fun s t => s ≤ t

private theorem pairwise_sortedTexts (ss : List String) :
    (sortedTexts ss).Pairwise fun s t => s.toUTF8.toList ≤ t.toUTF8.toList := by
  have htrans (s t u : String) (hst : decide (s ≤ t) = true) (htu : decide (t ≤ u) = true) : decide (s ≤ u) = true :=
    decide_eq_true (le_trans (of_decide_eq_true hst) (of_decide_eq_true htu))
  have htotal (s t : String) : (decide (s ≤ t) || decide (t ≤ s)) = true := by
    rw [Bool.or_eq_true]
    exact (le_total s t).imp decide_eq_true decide_eq_true
  exact (List.pairwise_mergeSort htrans htotal ss).imp fun h => Text.le_iff_bytes_le.1 (of_decide_eq_true h)

private theorem sorted_texts (ss : List String) (descending : Bool) :
    sorted (ss.map .str) descending = .ok (directed descending ((sortedTexts ss).map .str)) := by
  have hsort : (ss.map Value.str).mergeSort (fun a b => stringKey a ≤ stringKey b) = (sortedTexts ss).map .str :=
    (List.map_mergeSort (f := Value.str) fun _ _ _ _ => rfl).symm
  have htexts : (ss.map Value.str).all isText = true := by
    rw [List.all_map, List.all_eq_true]
    exact fun _ _ => rfl
  cases ss with
  | nil =>
    -- an array without items counts as one of numbers
    rw [sorted_of_numbers rfl, List.map_nil, List.mergeSort_nil, sortedTexts, List.mergeSort_nil, List.map_nil]
  | cons s ss =>
    have hfirst : ¬ (((s :: ss).map Value.str).all fun v => (number? v).isSome) = true := Bool.false_ne_true
    rw [sorted_of_texts hfirst htexts, hsort]

/-! ### Other arrays -/

/-- The values that `sorted` takes for numbers. -/
def IsNumber (v : Value) : Prop := (∃ n, v = .int n) ∨ ∃ x, v = .float x

/-- The values that `sorted` takes for texts. -/
def IsString (v : Value) : Prop := ∃ s, v = .str s

private theorem isSome_number?_iff {v : Value} : (number? v).isSome = true ↔ IsNumber v := by
  unfold IsNumber
  cases v <;> simp [number?]

private theorem isText_iff {v : Value} : isText v = true ↔ IsString v := by
  unfold IsString
  cases v <;> simp [isText]

private theorem not_isNumber_of_isString {v : Value} (h : IsString v) : ¬ IsNumber v := by
  obtain ⟨s, rfl⟩ := h
  rintro (⟨n, hn⟩ | ⟨x, hx⟩)
  · cases hn
  · cases hx

/-- An array is neither of numbers nor of strings just if it mixes the two or holds something else. -/
private theorem mixed_iff {items : List Value} :
    (¬ (∀ v ∈ items, IsNumber v) ∧ ¬ ∀ v ∈ items, IsString v) ↔
      ((∃ v ∈ items, IsString v) ∧ ∃ v ∈ items, IsNumber v) ∨ ∃ v ∈ items, ¬ IsString v ∧ ¬ IsNumber v := by
  constructor
  · rintro ⟨hnumbers, hstrings⟩
    push Not at hnumbers hstrings
    obtain ⟨v, hv, hvnumber⟩ := hnumbers
    obtain ⟨w, hw, hwstring⟩ := hstrings
    by_cases hvstring : IsString v
    · by_cases hwnumber : IsNumber w
      · exact .inl ⟨⟨v, hv, hvstring⟩, w, hw, hwnumber⟩
      · exact .inr ⟨w, hw, hwstring, hwnumber⟩
    · exact .inr ⟨v, hv, hvstring, hvnumber⟩
  · rintro (⟨⟨v, hv, hvstring⟩, w, hw, hwnumber⟩ | ⟨v, hv, hvstring, hvnumber⟩)
    · exact ⟨fun h => not_isNumber_of_isString hvstring (h v hv), fun h => not_isNumber_of_isString (h w hw) hwnumber⟩
    · exact ⟨fun h => hvnumber (h v hv), fun h => hvstring (h v hv)⟩

private theorem sorted_eq_error_iff {items : List Value} {descending : Bool} :
    sorted items descending = .error mixedMessage ↔ ¬ (∀ v ∈ items, IsNumber v) ∧ ¬ ∀ v ∈ items, IsString v := by
  have hnumbers : (items.all fun v => (number? v).isSome) = true ↔ ∀ v ∈ items, IsNumber v := by
    rw [List.all_eq_true]
    exact forall₂_congr fun v _ => isSome_number?_iff
  have hstrings : items.all isText = true ↔ ∀ v ∈ items, IsString v := by
    rw [List.all_eq_true]
    exact forall₂_congr fun v _ => isText_iff
  rw [← hnumbers, ← hstrings]
  refine ⟨fun h => ⟨fun hn => ?_, fun hs => ?_⟩, fun h => sorted_of_others h.1 h.2⟩
  · rw [sorted_of_numbers hn] at h
    cases h
  · by_cases hn : (items.all fun v => (number? v).isSome) = true
    · rw [sorted_of_numbers hn] at h
      cases h
    · rw [sorted_of_texts hn hs] at h
      cases h

/-! ### Calls -/

/-- What calls of `sorted` answer: the result, and its reverse if the other direction is asked for. -/
structure SortsTo (items result : List Value) : Prop where
  plain : call? "sorted" [.arr items] = some (.ok (.arr result))
  ascending : call? "sorted" [.arr items, .bool false] = some (.ok (.arr result))
  descending : call? "sorted" [.arr items, .bool true] = some (.ok (.arr result.reverse))

/-- An array that `sorted` refuses in either direction. -/
def RefusesToSort (items : List Value) : Prop :=
  call? "sorted" [.arr items] = some (.error (.refusal mixedMessage)) ∧
    ∀ descending, call? "sorted" [.arr items, .bool descending] = some (.error (.refusal mixedMessage))

private theorem sortsTo_of_sorted {items result : List Value}
    (h : ∀ descending, sorted items descending = .ok (directed descending result)) : SortsTo items result := by
  obtain ⟨hplain, hdirected⟩ := call?_sorted items
  constructor
  · rw [hplain, h false]
    rfl
  · rw [hdirected, h false]
    rfl
  · rw [hdirected, h true]
    rfl

private theorem refusesToSort_iff {items : List Value} :
    RefusesToSort items ↔ ¬ (∀ v ∈ items, IsNumber v) ∧ ¬ ∀ v ∈ items, IsString v := by
  obtain ⟨hplain, hdirected⟩ := call?_sorted items
  have herror (descending : Bool) : refused .arr (sorted items descending) = some (.error (.refusal mixedMessage)) ↔
      sorted items descending = .error mixedMessage := by
    cases sorted items descending <;> simp [refused, Fault.refusal]
  unfold RefusesToSort
  rw [hplain, herror]
  simp only [hdirected, herror, sorted_eq_error_iff]
  exact ⟨fun h => h.1, fun h => ⟨h, fun _ => h⟩⟩

/-- What `sorted` does with an array.  Integers come out in the order of their floating-point numbers, and so in their
own order just if none of them stood before a smaller one with the same number, in particular if all of them are below
`2 ^ 53`, whatever their signs.  Strings come out in the order of their bytes.  An array that mixes numbers and strings
or holds anything else is refused, and no other array is. -/
theorem sorted_exact (ns : List Int64) (ss : List String) (items : List Value) :
    (∃ ms : List Int64, SortsTo (ns.map .int) (ms.map .int) ∧ ms.Perm ns ∧
      ms.Pairwise (fun a b => (toFloat a).le (toFloat b) = true) ∧
      (ms.Pairwise (· ≤ ·) ↔ ns.Pairwise fun a b => toFloat a = toFloat b → a ≤ b) ∧
      ((∀ n ∈ ns, n.toInt.natAbs < 2 ^ 53) → ms.Pairwise (· ≤ ·))) ∧
    (∃ ts : List String, SortsTo (ss.map .str) (ts.map .str) ∧ ts.Perm ss ∧
      ts.Pairwise fun s t => s.toUTF8.toList ≤ t.toUTF8.toList) ∧
    (RefusesToSort items ↔
      ((∃ v ∈ items, IsString v) ∧ ∃ v ∈ items, IsNumber v) ∨ ∃ v ∈ items, ¬ IsString v ∧ ¬ IsNumber v) := by
  refine ⟨?_, ?_, refusesToSort_iff.trans mixed_iff⟩
  · refine ⟨sortedInts ns, sortsTo_of_sorted (sorted_ints ns), List.mergeSort_perm _ _, ?_, pairwise_sortedInts_iff,
      fun hsmall => pairwise_sortedInts_iff.2 ?_⟩
    · exact (List.pairwise_mergeSort standsBefore_trans standsBefore_total ns).imp standsBefore_iff.1
    · refine List.pairwise_of_forall_mem_list fun a ha b _ hequal => ?_
      rw [eq_of_toFloat_eq hequal (hsmall a ha)]
      exact Int64.le_refl b
  · exact ⟨sortedTexts ss, sortsTo_of_sorted (sorted_texts ss), List.mergeSort_perm _ _, pairwise_sortedTexts ss⟩

/-- The ends of the range of integers, and two neighbours beyond `2 ^ 53` of which the smaller one stands first. -/
theorem sorted_exact_of_limits :
    let ns : List Int64 := [9223372036854775807, 9007199254740992, -9223372036854775808, 9007199254740993, 0]
    ∃ ms : List Int64, SortsTo (ns.map .int) (ms.map .int) ∧ ms.Perm ns ∧ ms.Pairwise (· ≤ ·) := by
  intro ns
  obtain ⟨ms, hsorts, hperm, -, hordered, -⟩ := (sorted_exact ns [] []).1
  exact ⟨ms, hsorts, hperm, hordered.2 (by decide +kernel)⟩

/-- Two integers with the same number stay as they are, although the second one is smaller. -/
theorem sorted_keeps_inversion :
    let ns : List Int64 := [9007199254740993, 9007199254740992]
    SortsTo (ns.map .int) (ns.map .int) ∧ ¬ ns.Pairwise (· ≤ ·) := by
  intro ns
  have hbefore : ns.Pairwise fun a b => standsBefore a b = true := by decide +kernel
  have hsame : sortedInts ns = ns := List.mergeSort_of_pairwise hbefore
  have hsorts := sortsTo_of_sorted (sorted_ints ns)
  rw [hsame] at hsorts
  exact ⟨hsorts, by decide⟩

end Sandscript.Library
