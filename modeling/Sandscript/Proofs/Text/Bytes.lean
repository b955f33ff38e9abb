import Mathlib.Data.String.Basic

/-!
# The bytes of texts

A text is read back from its bytes.  Texts are compared character by character; the bytes of a smaller character stand
before those of a greater one, also where the greater one has more of them, so this is the order of the bytes of the
texts (`lt_iff_bytes_lt`).
-/

namespace Sandscript.Text

/-! ### Bytes as a list -/

private theorem toList_loop_eq (bs : ByteArray) (i : Nat) (before : List UInt8) :
    ByteArray.toList.loop bs i before = before.reverse ++ bs.data.toList.drop i := by
  fun_induction ByteArray.toList.loop bs i before with
  | case1 i before hi ih =>
    have hlen : i < bs.data.toList.length := by
      rw [Array.length_toList]
      exact hi
    have hget : bs.get! i = bs.data.toList[i] := by
      rw [Array.getElem_toList]
      exact getElem!_pos bs.data i hi
    rw [ih, List.drop_eq_getElem_cons hlen, hget, List.reverse_cons, List.append_assoc, List.singleton_append]
  | case2 i before hi =>
    have hlen : bs.data.toList.length ≤ i := by
      rw [Array.length_toList]
      exact Nat.not_lt.mp hi
    rw [List.drop_of_length_le hlen, List.append_nil]

/-- A byte array is the array of its list of bytes. -/
private theorem toList_eq (bs : ByteArray) : bs.toList = bs.data.toList := by
  unfold ByteArray.toList
  rw [toList_loop_eq, List.reverse_nil, List.nil_append, List.drop_zero]

theorem fromUTF8?_toList_toUTF8 (text : String) : String.fromUTF8? ⟨text.toUTF8.toList.toArray⟩ = some text := by
  rw [toList_eq]
  change String.fromUTF8? text.toByteArray = some text
  unfold String.fromUTF8?
  rw [dif_pos text.isValidUTF8]
  rfl

/-! ### Bytes of characters -/

private theorem byte_lt {a b : Nat} {xs ys : List UInt8} (hb : b < 256) (h : a < b) :
    UInt8.ofNat a :: xs < UInt8.ofNat b :: ys := by
  refine List.cons_lt_cons_iff.2 (.inl ?_)
  rw [UInt8.lt_iff_toNat_lt, UInt8.toNat_ofNat', UInt8.toNat_ofNat']
  omega

/-- Two runs of bytes are compared by their first bytes, and by the rest if these are equal. -/
private theorem byte_le {a b : Nat} {xs ys : List UInt8} (hb : b < 256) (h : a ≤ b) (hrest : a = b → xs < ys) :
    UInt8.ofNat a :: xs < UInt8.ofNat b :: ys := by
  rcases Nat.lt_or_eq_of_le h with hlt | heq
  · exact byte_lt hb hlt
  · exact List.cons_lt_cons_iff.2 (.inr ⟨congrArg _ heq, hrest heq⟩)

private theorem utf8EncodeChar_lt {c d : Char} (h : c < d) (xs ys : List UInt8) :
    String.utf8EncodeChar c ++ xs < String.utf8EncodeChar d ++ ys := by
  have hcd : c.val.toNat < d.val.toNat := UInt32.lt_iff_toNat_lt.1 (Char.lt_def.1 h)
  have hd : d.val.toNat < 0x110000 := by
    rcases d.valid with hlow | hhigh
    · exact Nat.lt_trans hlow (by decide)
    · exact hhigh.2
  unfold String.utf8EncodeChar
  generalize c.val.toNat = m at hcd ⊢
  generalize d.val.toNat = n at hcd hd ⊢
  dsimp only
  -- the number of bytes of either character; the first byte tells it, and the greater one has no fewer
  split
  · split
    · exact byte_lt (by omega) hcd
    split
    · exact byte_lt (by omega) (by omega)
    split
    · exact byte_lt (by omega) (by omega)
    · exact byte_lt (by omega) (by omega)
  split
  · rw [if_neg (by omega)]
    split
    · refine byte_le (by omega) (by omega) fun _ => ?_
      exact byte_lt (by omega) (by omega)
    split
    · exact byte_lt (by omega) (by omega)
    · exact byte_lt (by omega) (by omega)
  split
  · rw [if_neg (by omega), if_neg (by omega)]
    split
    · refine byte_le (by omega) (by omega) fun _ => ?_
      refine byte_le (by omega) (by omega) fun _ => ?_
      exact byte_lt (by omega) (by omega)
    · exact byte_lt (by omega) (by omega)
  · rw [if_neg (by omega), if_neg (by omega), if_neg (by omega)]
    refine byte_le (by omega) (by omega) fun _ => ?_
    refine byte_le (by omega) (by omega) fun _ => ?_
    refine byte_le (by omega) (by omega) fun _ => ?_
    exact byte_lt (by omega) (by omega)

/-! ### The order of texts -/

private theorem toList_toUTF8 (s : String) : s.toUTF8.toList = s.toList.flatMap String.utf8EncodeChar := by
  conv => lhs; rw [← String.ofList_toList (s := s)]
  rw [String.toUTF8_eq_toByteArray, String.toByteArray_ofList, toList_eq]
  exact List.toList_data_toByteArray

private theorem flatMap_utf8EncodeChar_lt {cs ds : List Char} (h : cs < ds) :
    cs.flatMap String.utf8EncodeChar < ds.flatMap String.utf8EncodeChar := by
  induction cs generalizing ds with
  | nil =>
    cases ds with
    | nil => exact absurd h (List.lt_irrefl [])
    | cons d ds =>
      obtain ⟨b, bs, hbytes⟩ := List.exists_cons_of_ne_nil (String.utf8EncodeChar_ne_nil (c := d))
      rw [List.flatMap_nil, List.flatMap_cons, hbytes]
      exact List.nil_lt_cons _ _
  | cons c cs ih =>
    cases ds with
    | nil => exact absurd h (List.not_lt_nil _)
    | cons d ds =>
      rw [List.flatMap_cons, List.flatMap_cons]
      rcases List.cons_lt_cons_iff.1 h with hlt | ⟨rfl, hrest⟩
      · exact utf8EncodeChar_lt hlt _ _
      · exact List.append_left_lt (ih hrest)

/-- The order of texts is that of their bytes. -/
theorem lt_iff_bytes_lt {s t : String} : s < t ↔ s.toUTF8.toList < t.toUTF8.toList := by
  rw [toList_toUTF8, toList_toUTF8]
  refine ⟨fun h => flatMap_utf8EncodeChar_lt (String.lt_iff_toList_lt.1 h), fun h => ?_⟩
  rcases lt_trichotomy s t with hlt | rfl | hgt
  · exact hlt
  · exact absurd h (List.lt_irrefl _)
  · exact absurd (flatMap_utf8EncodeChar_lt (String.lt_iff_toList_lt.1 hgt)) (List.lt_asymm h)

theorem le_iff_bytes_le {s t : String} : s ≤ t ↔ s.toUTF8.toList ≤ t.toUTF8.toList := by
  rw [← not_lt, lt_iff_bytes_lt]
  exact Iff.rfl

end Sandscript.Text
