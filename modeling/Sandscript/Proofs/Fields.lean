import Mathlib.Data.List.Forall2
import Sandscript.Fields

/-!
# Looking fields up

Which fields and keys there are after a field was set or removed, and what is then found under a key.  Fields in order
have no key twice, so what is found under a key is all that they hold of it (`get?_eq_some_iff`), and they are known
from what is found in them (`ext_get?`).  Of several pairs for a key the last is found (`get?_ofPairs_eq_some_iff`).
-/

namespace Sandscript.Fields

variable {α β : Type}

@[simp] theorem insert_insert (key : String) (v w : α) (fs : List (String × α)) :
    insert key v (insert key w fs) = insert key v fs := by
  induction fs with
  | nil => simp [insert]
  | cons p fs ih =>
    obtain ⟨k, u⟩ := p
    by_cases hlt : key < k
    · simp [insert, hlt]
    · by_cases heq : key = k
      · simp [insert, heq]
      · simp [insert, hlt, heq, ih]

theorem map_insert (f : α → β) (key : String) (v : α) (fs : List (String × α)) :
    (insert key v fs).map (fun p => (p.1, f p.2)) = insert key (f v) (fs.map fun p => (p.1, f p.2)) := by
  induction fs with
  | nil => rfl
  | cons p fs ih =>
    obtain ⟨k, u⟩ := p
    by_cases hlt : key < k
    · simp [insert, hlt]
    · by_cases heq : key = k
      · simp [insert, heq]
      · simp [insert, hlt, heq, ih]

theorem mem_insert {key : String} {v : α} {fs : List (String × α)} {p : String × α} (h : p ∈ insert key v fs) :
    p = (key, v) ∨ p ∈ fs := by
  induction fs with
  | nil => exact .inl (List.mem_singleton.1 h)
  | cons q fs ih =>
    unfold insert at h
    split at h
    · exact List.mem_cons.1 h
    · split at h
      · exact (List.mem_cons.1 h).imp_right (List.mem_cons_of_mem _)
      · rcases List.mem_cons.1 h with rfl | h
        · exact .inr List.mem_cons_self
        · exact (ih h).imp_right (List.mem_cons_of_mem _)

/-- Every key has its field. -/
theorem mem_keys_insert {key other : String} {v : α} {fs : List (String × α)} (h : other = key ∨ other ∈ keys fs) :
    other ∈ keys (insert key v fs) := by
  induction fs with
  | nil => exact List.mem_singleton.2 (h.resolve_right List.not_mem_nil)
  | cons q fs ih =>
    obtain ⟨k, u⟩ := q
    rw [keys, List.map_cons, List.mem_cons] at h
    unfold insert
    split
    · exact List.mem_cons.2 (h.imp_right List.mem_cons.2)
    · split
      · rename_i heq
        rw [keys, List.map_cons, List.mem_cons]
        rcases h with h | h | h
        · exact .inl h
        · exact .inl (h.trans heq.symm)
        · exact .inr h
      · rw [keys, List.map_cons, List.mem_cons]
        rcases h with h | h | h
        · exact .inr (ih (.inl h))
        · exact .inl h
        · exact .inr (ih (.inr h))

theorem mem_of_mem_ofPairs {ps : List (String × α)} {p : String × α} (h : p ∈ ofPairs ps) : p ∈ ps := by
  have hfold : ∀ (ps fs : List (String × α)), p ∈ ps.foldl (fun fs p => insert p.1 p.2 fs) fs → p ∈ ps ∨ p ∈ fs := by
    intro ps
    induction ps with
    | nil => exact fun _ h => .inr h
    | cons q ps ih =>
      intro fs h
      rcases ih _ h with h | h
      · exact .inl (List.mem_cons_of_mem _ h)
      · rcases mem_insert h with rfl | h
        · exact .inl List.mem_cons_self
        · exact .inr h
  exact (hfold ps [] h).resolve_right List.not_mem_nil

theorem mem_keys_ofPairs {ps : List (String × α)} {key : String} (h : key ∈ keys ps) : key ∈ keys (ofPairs ps) := by
  have hfold : ∀ (ps fs : List (String × α)), key ∈ keys ps ∨ key ∈ keys fs →
      key ∈ keys (ps.foldl (fun fs p => insert p.1 p.2 fs) fs) := by
    intro ps
    induction ps with
    | nil => exact fun _ h => h.resolve_left List.not_mem_nil
    | cons q ps ih =>
      intro fs h
      refine ih _ ?_
      rw [keys, List.map_cons, List.mem_cons] at h
      rcases h with (h | h) | h
      · exact .inr (mem_keys_insert (.inl h))
      · exact .inl h
      · exact .inr (mem_keys_insert (.inr h))
  exact hfold ps [] (.inl h)

/-! ### What is found -/

theorem get?_eq_none_iff {key : String} {fs : List (String × α)} : get? key fs = none ↔ key ∉ keys fs := by
  induction fs with
  | nil => simp [get?, keys]
  | cons p rest ih =>
    obtain ⟨k, v⟩ := p
    rw [keys, List.map_cons, List.mem_cons, not_or, ← keys, ← ih, get?]
    by_cases hk : k = key
    · simp [hk]
    · simp [hk, Ne.symm hk]

private theorem isSome_get?_iff {key : String} {fs : List (String × α)} :
    (get? key fs).isSome = true ↔ key ∈ keys fs := by
  rw [Option.isSome_iff_ne_none, ne_eq, get?_eq_none_iff, Decidable.not_not]

/-- Fields in order hold a key once. -/
theorem get?_eq_some_iff {key : String} {v : α} {fs : List (String × α)} (h : Sorted fs) :
    get? key fs = some v ↔ (key, v) ∈ fs := by
  refine ⟨mem_of_get?, fun hmem => ?_⟩
  induction fs with
  | nil => cases hmem
  | cons p rest ih =>
    obtain ⟨k, w⟩ := p
    obtain ⟨hfirst, hrest⟩ := List.pairwise_cons.1 h
    rw [get?]
    rcases List.mem_cons.1 hmem with heq | hmem
    · cases heq
      exact if_pos rfl
    · have hlt : k < key := hfirst _ hmem
      have hne : k ≠ key := by
        rintro rfl
        exact String.lt_irrefl k hlt
      rw [if_neg hne]
      exact ih hrest hmem

theorem get?_erase_self (key : String) (fs : List (String × α)) : get? key (erase key fs) = none := by
  rw [get?_eq_none_iff, keys, erase]
  simp

theorem get?_erase_of_ne {key other : String} (h : key ≠ other) (fs : List (String × α)) :
    get? other (erase key fs) = get? other fs := by
  induction fs with
  | nil => rfl
  | cons p rest ih =>
    obtain ⟨k, v⟩ := p
    by_cases hk : k = key
    · have herase : erase key ((k, v) :: rest) = erase key rest := List.filter_cons_of_neg (by simp [hk])
      rw [herase, ih, get?, if_neg (hk ▸ h)]
    · have herase : erase key ((k, v) :: rest) = (k, v) :: erase key rest := List.filter_cons_of_pos (by simp [hk])
      rw [herase, get?, get?, ih]

theorem sorted_erase {fs : List (String × α)} (h : Sorted fs) (key : String) : Sorted (erase key fs) :=
  List.Pairwise.filter _ h

theorem pairwise_keys {fs : List (String × α)} (h : Sorted fs) : (keys fs).Pairwise (· < ·) :=
  List.pairwise_map.2 h

/-- The first key of fields in order stands in front of all others. -/
private theorem get?_tail_of_sorted {key : String} {v : α} {fs : List (String × α)} (h : Sorted ((key, v) :: fs)) :
    get? key fs = none := by
  refine get?_eq_none_iff.2 fun hmem => ?_
  obtain ⟨p, hp, rfl⟩ := List.mem_map.1 hmem
  exact String.lt_irrefl _ ((List.pairwise_cons.1 h).1 p hp)

/-! ### Fields in order -/

section

variable {fs : List (String × α)} {gs : List (String × β)}

/-- The least key of some fields in order is that of others if each has the key of the other. -/
private theorem eq_of_mem_keys {k l : String} {v : α} {w : β} (hf : Sorted ((k, v) :: fs)) (hg : Sorted ((l, w) :: gs))
    (hk : k ∈ keys ((l, w) :: gs)) (hl : l ∈ keys ((k, v) :: fs)) : k = l := by
  rw [keys, List.map_cons, List.mem_cons] at hk hl
  rcases hk with hk | hk
  · exact hk
  · rcases hl with hl | hl
    · exact hl.symm
    · obtain ⟨p, hp, rfl⟩ := List.mem_map.1 hk
      obtain ⟨q, hq, rfl⟩ := List.mem_map.1 hl
      exact absurd ((List.pairwise_cons.1 hf).1 q hq) (String.lt_asymm ((List.pairwise_cons.1 hg).1 p hp))

private theorem mem_keys_of_rel {r : α → β → Prop} {key : String} (h : Option.Rel r (get? key fs) (get? key gs)) :
    key ∈ keys fs ↔ key ∈ keys gs := by
  have hsome : ∀ {x : Option α} {y : Option β}, Option.Rel r x y → x.isSome = y.isSome := by
    rintro _ _ (_ | _) <;> rfl
  rw [← isSome_get?_iff, ← isSome_get?_iff, hsome h]

/-- Fields in order that are related key by key are related in their places. -/
theorem forall₂_iff {r : α → β → Prop} (hf : Sorted fs) (hg : Sorted gs) :
    List.Forall₂ (fun p q => p.1 = q.1 ∧ r p.2 q.2) fs gs ↔ ∀ key, Option.Rel r (get? key fs) (get? key gs) := by
  induction fs generalizing gs with
  | nil =>
    cases gs with
    | nil => exact ⟨fun _ _ => .none, fun _ => .nil⟩
    | cons q gs =>
      refine ⟨fun h => (nomatch h), fun h => ?_⟩
      cases (mem_keys_of_rel (h q.1)).2 List.mem_cons_self
  | cons p fs ih =>
    obtain ⟨k, v⟩ := p
    cases gs with
    | nil =>
      refine ⟨fun h => (nomatch h), fun h => ?_⟩
      cases (mem_keys_of_rel (h k)).1 List.mem_cons_self
    | cons q gs =>
      obtain ⟨l, w⟩ := q
      rw [List.forall₂_cons, ih (List.pairwise_cons.1 hf).2 (List.pairwise_cons.1 hg).2]
      constructor
      · rintro ⟨⟨rfl, hvalue⟩, hrest⟩ key
        rw [get?, get?]
        split
        · exact .some hvalue
        · exact hrest key
      · intro h
        obtain rfl : k = l := eq_of_mem_keys hf hg ((mem_keys_of_rel (h k)).1 List.mem_cons_self)
          ((mem_keys_of_rel (h l)).2 List.mem_cons_self)
        have hvalue := h k
        rw [get?, if_pos rfl, get?, if_pos rfl] at hvalue
        refine ⟨⟨rfl, Option.rel_some_some.1 hvalue⟩, fun key => ?_⟩
        have hkey := h key
        rw [get?, get?] at hkey
        split at hkey
        · rename_i hk
          rw [← hk, get?_tail_of_sorted hf, get?_tail_of_sorted hg]
          exact .none
        · exact hkey

end

/-- Fields in order are equal if the same is found under each key. -/
theorem ext_get? {fs gs : List (String × α)} (hf : Sorted fs) (hg : Sorted gs)
    (h : ∀ key, get? key fs = get? key gs) : fs = gs := by
  have hrel : ∀ key, Option.Rel (· = ·) (get? key fs) (get? key gs) := by
    intro key
    rw [h key]
    cases get? key gs with
    | none => exact .none
    | some v => exact .some rfl
  have hall := (forall₂_iff hf hg).2 hrel
  exact List.forall₂_eq_eq_eq ▸ hall.imp fun p q hpq => Prod.ext hpq.1 hpq.2

/-! ### Fields from pairs -/

/-- The last of the pairs for a key has the value `v`. -/
def LastFor (key : String) (v : α) (ps : List (String × α)) : Prop :=
  ∃ front back, ps = front ++ (key, v) :: back ∧ key ∉ keys back

private theorem lastFor_cons_iff {key k : String} {v w : α} {ps : List (String × α)} :
    LastFor key v ((k, w) :: ps) ↔ LastFor key v ps ∨ (k = key ∧ w = v ∧ key ∉ keys ps) := by
  constructor
  · rintro ⟨front, back, heq, hback⟩
    cases front with
    | nil =>
      cases heq
      exact .inr ⟨rfl, rfl, hback⟩
    | cons p front =>
      cases heq
      exact .inl ⟨front, back, rfl, hback⟩
  · rintro (⟨front, back, rfl, hback⟩ | ⟨rfl, rfl, hback⟩)
    · exact ⟨(k, w) :: front, back, rfl, hback⟩
    · exact ⟨[], ps, rfl, hback⟩

theorem get?_ofPairs_eq_some_iff {key : String} {v : α} {ps : List (String × α)} :
    get? key (ofPairs ps) = some v ↔ LastFor key v ps := by
  -- pairs for the key replace what was there, so that this counts only if there are none
  have hfold : ∀ (ps fs : List (String × α)), get? key (ps.foldl (fun fs p => insert p.1 p.2 fs) fs) = some v ↔
      LastFor key v ps ∨ (key ∉ keys ps ∧ get? key fs = some v) := by
    intro ps
    induction ps with
    | nil => simp [LastFor, keys]
    | cons p ps ih =>
      intro fs
      obtain ⟨k, w⟩ := p
      rw [List.foldl_cons, ih, lastFor_cons_iff]
      by_cases hk : k = key
      · subst hk
        simp [get?_insert_self, keys, and_comm]
      · simp [get?_insert_of_ne hk, keys, hk, Ne.symm hk]
  rw [ofPairs, hfold]
  simp [get?]

/-- Fields in order are what their pairs describe, in whatever order these are given. -/
theorem ofPairs_of_perm {ps fs : List (String × α)} (h : Sorted fs) (hperm : ps.Perm fs) : ofPairs ps = fs := by
  have hdistinct : (keys ps).Nodup := by
    refine (hperm.map Prod.fst).nodup_iff.2 ((pairwise_keys h).imp ?_)
    rintro k _ hlt rfl
    exact String.lt_irrefl k hlt
  refine ext_get? (sorted_ofPairs ps) h fun key => Option.ext fun v => ?_
  rw [get?_ofPairs_eq_some_iff, get?_eq_some_iff h, ← hperm.mem_iff]
  constructor
  · rintro ⟨front, back, rfl, -⟩
    exact List.mem_append_right _ List.mem_cons_self
  · intro hmem
    obtain ⟨front, back, rfl⟩ := List.append_of_mem hmem
    rw [keys, List.map_append, List.map_cons] at hdistinct
    exact ⟨front, back, rfl, (List.nodup_cons.1 (List.nodup_append.1 hdistinct).2.1).1⟩

/-! ### One field among others -/

section

variable {key : String} {v : α} {front back : List (String × α)}

theorem exists_append_of_get? {fs : List (String × α)} (h : get? key fs = some v) :
    ∃ front back, fs = front ++ (key, v) :: back := List.append_of_mem (mem_of_get? h)

private theorem get?_append_cons_of_ne {other : String} (h : key ≠ other) (v w : α) :
    get? other (front ++ (key, v) :: back) = get? other (front ++ (key, w) :: back) := by
  induction front with
  | nil => rw [List.nil_append, List.nil_append, get?, get?, if_neg h, if_neg h]
  | cons p front ih =>
    obtain ⟨k, u⟩ := p
    rw [List.cons_append, List.cons_append, get?, get?, ih]

private theorem lt_of_mem_front (h : Sorted (front ++ (key, v) :: back)) {p : String × α} (hp : p ∈ front) :
    p.1 < key :=
  (List.pairwise_append.1 h).2.2 p hp (key, v) List.mem_cons_self

private theorem sorted_append_cons (h : Sorted (front ++ (key, v) :: back)) (w : α) :
    Sorted (front ++ (key, w) :: back) := by
  obtain ⟨hfront, hback, hlt⟩ := List.pairwise_append.1 h
  obtain ⟨hkey, hback⟩ := List.pairwise_cons.1 hback
  refine List.pairwise_append.2 ⟨hfront, List.pairwise_cons.2 ⟨hkey, hback⟩, fun p hp q hq => ?_⟩
  rcases List.mem_cons.1 hq with rfl | hq
  · exact lt_of_mem_front h hp
  · exact hlt p hp q (List.mem_cons_of_mem _ hq)

/-- Fields in order that differ from others under one key only are the others with one field replaced. -/
theorem eq_append_cons_of_get? {w : α} {gs : List (String × α)} (hf : Sorted (front ++ (key, v) :: back))
    (hg : Sorted gs) (hw : get? key gs = some w)
    (h : ∀ other, other ≠ key → get? other (front ++ (key, v) :: back) = get? other gs) :
    gs = front ++ (key, w) :: back := by
  have hsorted := sorted_append_cons hf w
  refine ext_get? hg hsorted fun other => ?_
  by_cases hother : other = key
  · rw [hother, hw, (get?_eq_some_iff hsorted).2 (List.mem_append_right _ List.mem_cons_self)]
  · rw [← h other hother, get?_append_cons_of_ne (Ne.symm hother) v w]

end

end Sandscript.Fields
