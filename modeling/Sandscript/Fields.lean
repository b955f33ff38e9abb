/-!
# Fields

A record's fields, and the entries of a map, are a list of pairs in ascending order of their keys.  `insert` keeps the
order and replaces the entry of an equal key, so the last of several entries for one key wins.
-/

namespace Sandscript.Fields

variable {α : Type}

def get? (key : String) : List (String × α) → Option α
  | [] => none
  | (k, v) :: rest => if k = key then some v else get? key rest

def contains (key : String) (fs : List (String × α)) : Bool := (get? key fs).isSome

def insert (key : String) (value : α) : List (String × α) → List (String × α)
  | [] => [(key, value)]
  | (k, v) :: rest =>
    if key < k then (key, value) :: (k, v) :: rest
    else if key = k then (key, value) :: rest
    else (k, v) :: insert key value rest

def erase (key : String) (fs : List (String × α)) : List (String × α) := fs.filter (·.1 != key)

def keys (fs : List (String × α)) : List String := fs.map (·.1)

/-- The fields that a list of pairs describes; of several pairs for one key the last wins. -/
def ofPairs (pairs : List (String × α)) : List (String × α) :=
  pairs.foldl (fun fs p => insert p.1 p.2 fs) []

/-- The keys ascend strictly. -/
def Sorted (fs : List (String × α)) : Prop := fs.Pairwise (·.1 < ·.1)

theorem get?_insert_self (key : String) (v : α) (fs : List (String × α)) :
    get? key (insert key v fs) = some v := by
  induction fs with
  | nil => simp [insert, get?]
  | cons p rest ih =>
    obtain ⟨k, w⟩ := p
    unfold insert
    split
    · simp [get?]
    · split
      · simp [get?]
      · rename_i h
        simp [get?, Ne.symm h, ih]

theorem get?_insert_of_ne {key other : String} (h : key ≠ other) (v : α) (fs : List (String × α)) :
    get? other (insert key v fs) = get? other fs := by
  induction fs with
  | nil => simp [insert, get?, h]
  | cons p rest ih =>
    obtain ⟨k, w⟩ := p
    unfold insert
    split
    · simp [get?, h]
    · split
      · rename_i e
        subst e
        simp [get?, h]
      · simp [get?, ih]

theorem mem_of_get? {key : String} {v : α} {fs : List (String × α)} (h : get? key fs = some v) : (key, v) ∈ fs := by
  induction fs with
  | nil => cases h
  | cons p rest ih =>
    obtain ⟨k, w⟩ := p
    unfold get? at h
    split at h
    · rename_i hk
      cases h
      exact hk ▸ List.mem_cons_self
    · exact List.mem_cons_of_mem _ (ih h)

/-- A field that is there already stays as it is. -/
theorem insert_of_get? {key : String} {v : α} {fs : List (String × α)} (h : Sorted fs) (hget : get? key fs = some v) :
    insert key v fs = fs := by
  induction fs with
  | nil => cases hget
  | cons p rest ih =>
    obtain ⟨k, w⟩ := p
    obtain ⟨hfirst, hrest⟩ := List.pairwise_cons.1 h
    unfold get? at hget
    split at hget
    · rename_i hk
      cases hget
      rw [insert, if_neg (hk ▸ String.lt_irrefl key), if_pos hk.symm, hk]
    · rename_i hk
      have hlt : k < key := hfirst _ (mem_of_get? hget)
      rw [insert, if_neg (String.lt_asymm hlt), if_neg (Ne.symm hk), ih hrest hget]

/-- A field behind all others is added at the end. -/
theorem insert_of_forall_lt {key : String} {v : α} {fs : List (String × α)} (h : ∀ p ∈ fs, p.1 < key) :
    insert key v fs = fs ++ [(key, v)] := by
  induction fs with
  | nil => rfl
  | cons p fs ih =>
    obtain ⟨k, w⟩ := p
    have hk : k < key := h _ List.mem_cons_self
    have hne : key ≠ k := fun he => String.lt_irrefl k (he ▸ hk)
    rw [insert, if_neg (String.lt_asymm hk), if_neg hne, ih fun p hp => h p (List.mem_cons_of_mem _ hp),
      List.cons_append]

private theorem eq_or_mem_of_mem_insert {key : String} {v : α} {fs : List (String × α)} {p : String × α}
    (h : p ∈ insert key v fs) : p.1 = key ∨ p ∈ fs := by
  induction fs with
  | nil => exact .inl (List.mem_singleton.1 h ▸ rfl)
  | cons q rest ih =>
    unfold insert at h
    split at h
    · rcases List.mem_cons.1 h with rfl | h
      · exact .inl rfl
      · exact .inr h
    · split at h
      · rcases List.mem_cons.1 h with rfl | h
        · exact .inl rfl
        · exact .inr (List.mem_cons_of_mem _ h)
      · rcases List.mem_cons.1 h with rfl | h
        · exact .inr List.mem_cons_self
        · exact (ih h).imp_right (List.mem_cons_of_mem _)

theorem sorted_insert {fs : List (String × α)} (h : Sorted fs) (key : String) (v : α) : Sorted (insert key v fs) := by
  induction fs with
  | nil => exact List.pairwise_singleton _ _
  | cons q rest ih =>
    obtain ⟨k, w⟩ := q
    obtain ⟨hfirst, hrest⟩ := List.pairwise_cons.1 h
    unfold insert
    split
    · rename_i hlt
      refine List.pairwise_cons.2 ⟨fun p hp => ?_, h⟩
      rcases List.mem_cons.1 hp with rfl | hp
      · exact hlt
      · exact String.lt_trans hlt (hfirst p hp)
    · rename_i hle
      split
      · rename_i heq
        exact List.pairwise_cons.2 ⟨fun p hp => heq ▸ hfirst p hp, hrest⟩
      · rename_i hne
        refine List.pairwise_cons.2 ⟨fun p hp => ?_, ih hrest⟩
        rcases eq_or_mem_of_mem_insert hp with hkey | hp
        · exact hkey ▸ Std.lt_of_le_of_ne (Std.not_lt.1 hle) (Ne.symm hne)
        · exact hfirst p hp

/-- What pairs describe is in order, whatever their order. -/
theorem sorted_ofPairs (pairs : List (String × α)) : Sorted (ofPairs pairs) := by
  have hfold : ∀ (pairs fs : List (String × α)), Sorted fs →
      Sorted (pairs.foldl (fun fs p => insert p.1 p.2 fs) fs) := by
    intro pairs
    induction pairs with
    | nil => exact fun _ h => h
    | cons p rest ih => exact fun fs h => ih _ (sorted_insert h p.1 p.2)
  exact hfold pairs [] List.Pairwise.nil

end Sandscript.Fields
