import Sandscript.Text.Blank

/-!
# Trimming and splitting

White space at the end of a text goes, and nothing in front of the last character that is none does
(`trimRight_append`, `trimRight_append_cons`).  A text without white space is what is left of it in any white space
(`trim_eq_of_within`).  The pieces of a split text lack the character that it was split at
(`notMem_of_mem_splitOn`), and with this character behind each of them they are the text again (`flatMap_splitOn`).
-/

namespace Sandscript.Text

/-- A text of white space only. -/
def AllBlank (cs : List Char) : Prop := ∀ c ∈ cs, isBlankChar c = true

instance (cs : List Char) : Decidable (AllBlank cs) :=
  decidable_of_iff (cs.all isBlankChar = true) List.all_eq_true

/-- A text without any white space. -/
def Unspaced (cs : List Char) : Prop := ∀ c ∈ cs, isBlankChar c = false

instance (cs : List Char) : Decidable (Unspaced cs) :=
  decidable_of_iff (cs.any isBlankChar = false) (by simp only [List.any_eq_false, Bool.not_eq_true, Unspaced])

/-- The text `t` is `s` with white space around it. -/
def Within (s t : String) : Prop :=
  ∃ front back, AllBlank front ∧ AllBlank back ∧ t.toList = front ++ s.toList ++ back

theorem trimRight_append {back : List Char} (h : AllBlank back) (cs : List Char) :
    trimRight (cs ++ back) = trimRight cs := by
  have hback : ∀ c ∈ back.reverse, isBlankChar c = true := fun c hc => h c (List.mem_reverse.1 hc)
  rw [trimRight, trimRight, List.reverse_append, List.dropWhile_append_of_pos hback]

/-- What stands up to a character that is no white space stays. -/
theorem trimRight_append_cons {c : Char} (hc : isBlankChar c = false) (front back : List Char) :
    trimRight (front ++ c :: back) = front ++ c :: trimRight back := by
  have hreverse : (front ++ c :: back).reverse = back.reverse ++ c :: front.reverse := by simp
  have hstop : (c :: front.reverse).dropWhile isBlankChar = c :: front.reverse :=
    List.dropWhile_cons_of_neg (by rw [hc]; exact Bool.false_ne_true)
  rw [trimRight, hreverse, List.dropWhile_append, hstop, trimRight]
  split
  · rename_i hnil
    rw [List.isEmpty_iff.1 hnil]
    simp
  · simp

/-- Nothing in front of a text is lost if the text is not blank. -/
theorem trimRight_append_of_mem {c : Char} (hc : isBlankChar c = false) {back : List Char} (h : c ∈ back)
    (front : List Char) : trimRight (front ++ back) = front ++ trimRight back := by
  obtain ⟨before, after, rfl⟩ := List.append_of_mem h
  rw [← List.append_assoc, trimRight_append_cons hc, trimRight_append_cons hc, List.append_assoc]

theorem mem_of_mem_trimRight {c : Char} {cs : List Char} (h : c ∈ trimRight cs) : c ∈ cs :=
  List.mem_reverse.1 ((List.dropWhile_suffix isBlankChar).subset (List.mem_reverse.1 h))

theorem trimRight_of_unspaced {cs : List Char} (h : Unspaced cs) : trimRight cs = cs := by
  induction cs with
  | nil => rfl
  | cons c cs ih =>
    have hrest := ih fun x hx => h x (List.mem_cons_of_mem _ hx)
    rw [← List.nil_append (c :: cs), trimRight_append_cons (h c List.mem_cons_self), hrest]

private theorem trimLeft_append {front : List Char} (h : AllBlank front) (cs : List Char) :
    trimLeft (front ++ cs) = trimLeft cs := List.dropWhile_append_of_pos h

/-- A text without white space is what is left of it in white space. -/
theorem trim_eq_of_within {s t : String} (hs : Unspaced s.toList) (h : Within s t) : trim t = s := by
  obtain ⟨front, back, hfront, hback, ht⟩ := h
  rw [trim, ht, List.append_assoc, trimLeft_append hfront]
  cases hcs : s.toList with
  | nil =>
    have hnone : trimLeft back = [] := by
      rw [← List.append_nil back, trimLeft_append hback]
      rfl
    rw [List.nil_append, hnone, ← String.ofList_toList (s := s), hcs]
    rfl
  | cons c cs =>
    have hc : ¬isBlankChar c = true := by
      rw [hs c (hcs ▸ List.mem_cons_self)]
      exact Bool.false_ne_true
    rw [trimLeft, List.cons_append, List.dropWhile_cons_of_neg hc, ← List.cons_append, trimRight_append hback, ← hcs,
      trimRight_of_unspaced hs, String.ofList_toList]

/-! ### Splitting -/

theorem notMem_of_mem_splitOn {c : Char} {cs l : List Char} (h : l ∈ cs.splitOn c) : c ∉ l := by
  induction cs generalizing l with
  | nil =>
    rw [List.splitOn_nil] at h
    cases List.mem_singleton.1 h
    exact List.not_mem_nil
  | cons x cs ih =>
    obtain ⟨first, more, hsplit⟩ := List.exists_cons_of_ne_nil (List.splitOn_ne_nil c cs)
    rw [List.splitOn_cons_eq_if_modifyHead] at h
    split at h
    · rcases List.mem_cons.1 h with rfl | h
      · exact List.not_mem_nil
      · exact ih h
    · rename_i hx
      rw [hsplit, List.modifyHead_cons] at h
      rcases List.mem_cons.1 h with rfl | h
      · have hfirst := ih (hsplit ▸ List.mem_cons_self)
        exact List.not_mem_cons_of_ne_of_not_mem (fun heq => hx (beq_iff_eq.2 heq.symm)) hfirst
      · exact ih (hsplit ▸ List.mem_cons_of_mem first h)

private theorem flatMap_eq_intercalate {c : Char} {ls : List (List Char)} (h : ls ≠ []) :
    ls.flatMap (· ++ [c]) = [c].intercalate ls ++ [c] := by
  induction ls with
  | nil => exact absurd rfl h
  | cons l ls ih =>
    cases ls with
    | nil => rw [List.flatMap_singleton, List.intercalate_singleton]
    | cons l' ls =>
      rw [List.flatMap_cons, ih (List.cons_ne_nil l' ls), List.intercalate_cons_cons, ← List.append_assoc]

theorem flatMap_splitOn (c : Char) (cs : List Char) : (cs.splitOn c).flatMap (· ++ [c]) = cs ++ [c] := by
  rw [flatMap_eq_intercalate (List.splitOn_ne_nil c cs), List.intercalate_splitOn]

end Sandscript.Text
