import Sandscript.Value.Json

/-!
# The leaves of a value

A value has a JSON form exactly if all its leaves have one.  If not, the first leaf without one is reported, with its
type and with the text of the steps that lead to it (`Value.reports_toJsonAt`).  The form of a value does not depend on
where it stands (`Value.toJsonAt_eq_ok`), so the fields of a map are converted one by one
(`Value.map_get?_of_entriesToJson`).
-/

namespace Sandscript.Value

/-- A step into a value. -/
inductive Step where
  | item (index : Nat)
  | entry (key : String)

/-- The text of a path and one step more. -/
def Step.spell (path : String) : Step → String
  | item index => itemPath path index
  | entry key => entryPath path key

/-- The text of some steps, from the outside in. -/
def spell (steps : List Step) : String := steps.foldl Step.spell ""

/-- A value inside of another one, with the steps that lead to it. -/
structure Leaf where
  steps : List Step
  value : Value

/-- A leaf of a part of a value, which is one step inside. -/
def Leaf.behind (step : Step) (l : Leaf) : Leaf := { l with steps := step :: l.steps }

mutual

/-- The values inside of a value that are neither arrays nor maps, in order. -/
def leaves : Value → List Leaf
  | arr items => itemLeaves 0 items
  | map entries => entryLeaves entries
  | v => [⟨[], v⟩]

def itemLeaves (index : Nat) : List Value → List Leaf
  | [] => []
  | v :: rest => (leaves v).map (.behind (.item index)) ++ itemLeaves (index + 1) rest

def entryLeaves : List (String × Value) → List Leaf
  | [] => []
  | (key, v) :: rest => (leaves v).map (.behind (.entry key)) ++ entryLeaves rest

end

/-- What a leaf without a JSON form is reported as. -/
def unfit? : Value → Option String
  | float x => if x.isFinite then none else some nonFinite
  | fn name held => some (fn name held).typeName
  | range lo hi => some (range lo hi).typeName
  | rangeIncl lo hi => some (rangeIncl lo hi).typeName
  | series s => some (series s).typeName
  | _ => none

/-- The first leaf without a JSON form, as it is reported from `path`. -/
def firstUnfit? (path : String) (leaves : List Leaf) : Option Unrepresentable :=
  leaves.findSome? fun l => l.value.unfit?.map fun name => ⟨l.steps.foldl Step.spell path, name⟩

theorem firstUnfit?_append (path : String) (front back : List Leaf) :
    firstUnfit? path (front ++ back) = (firstUnfit? path front).or (firstUnfit? path back) := List.findSome?_append

theorem firstUnfit?_behind (path : String) (step : Step) (leaves : List Leaf) :
    firstUnfit? path (leaves.map (.behind step)) = firstUnfit? (step.spell path) leaves := List.findSome?_map

/-- The leaf that is reported is the first one without a JSON form. -/
theorem firstUnfit?_of_append {path name : String} {front back : List Leaf} {leaf : Leaf}
    (hfront : ∀ l ∈ front, l.value.unfit? = none) (hleaf : leaf.value.unfit? = some name) :
    firstUnfit? path (front ++ leaf :: back) = some ⟨leaf.steps.foldl Step.spell path, name⟩ := by
  have hnone : firstUnfit? path front = none := by
    refine List.findSome?_eq_none_iff.2 fun l hl => ?_
    rw [hfront l hl]
    rfl
  rw [firstUnfit?_append, hnone, Option.none_or, firstUnfit?, List.findSome?_cons, hleaf]
  rfl

theorem firstUnfit?_eq_none {path : String} {leaves : List Leaf} (h : ∀ l ∈ leaves, l.value.unfit? = none) :
    firstUnfit? path leaves = none := by
  refine List.findSome?_eq_none_iff.2 fun l hl => ?_
  rw [h l hl]
  rfl

/-! ### What is reported -/

/-- A conversion fails exactly if there is something to report, and reports it. -/
def Reports {α : Type} (u? : Option Unrepresentable) : Except Unrepresentable α → Prop
  | .ok _ => u? = none
  | .error u => u? = some u

theorem Reports.error_of_some {α : Type} {u : Unrepresentable} {x : Except Unrepresentable α}
    (h : Reports (some u) x) : x = .error u := by
  cases x with
  | ok a => cases h
  | error u' =>
    cases h
    rfl

theorem Reports.exists_ok_of_none {α : Type} {x : Except Unrepresentable α} (h : Reports none x) : ∃ a, x = .ok a := by
  cases x with
  | ok a => exact ⟨a, rfl⟩
  | error u => cases h

mutual

theorem reports_toJsonAt (path : String) : (v : Value) → Reports (firstUnfit? path v.leaves) (toJsonAt path v)
  | unit | bool _ | int _ | dec _ | char _ | str _ | blob _ => rfl
  | float x => by
    simp only [toJsonAt, JsonNumber.ofBinary64?, leaves, firstUnfit?, List.findSome?_cons, List.findSome?_nil, unfit?]
    by_cases hx : x.isFinite = true
    · rw [dif_pos hx, if_pos hx]
      rfl
    · rw [dif_neg hx, if_neg hx]
      rfl
  | arr items => by
    have hitems := reports_itemsToJson path 0 items
    rw [toJsonAt, leaves]
    cases h : itemsToJson path 0 items <;> rw [h] at hitems <;> exact hitems
  | map entries => by
    have hentries := reports_entriesToJson path entries
    rw [toJsonAt, leaves]
    cases h : entriesToJson path entries <;> rw [h] at hentries <;> exact hentries
  | fn _ _ | range _ _ | rangeIncl _ _ | series _ => rfl

private theorem reports_itemsToJson (path : String) (index : Nat) :
    (items : List Value) → Reports (firstUnfit? path (itemLeaves index items)) (itemsToJson path index items)
  | [] => rfl
  | v :: rest => by
    have hv := reports_toJsonAt (itemPath path index) v
    have hrest := reports_itemsToJson path (index + 1) rest
    rw [itemLeaves, firstUnfit?_append, firstUnfit?_behind, itemsToJson, Step.spell]
    cases h : toJsonAt (itemPath path index) v with
    | error u =>
      rw [h] at hv
      rw [show firstUnfit? _ v.leaves = some u from hv]
      rfl
    | ok j =>
      rw [h] at hv
      rw [show firstUnfit? _ v.leaves = none from hv, Option.none_or]
      cases h' : itemsToJson path (index + 1) rest <;> rw [h'] at hrest <;> exact hrest

theorem reports_entriesToJson (path : String) :
    (entries : List (String × Value)) → Reports (firstUnfit? path (entryLeaves entries)) (entriesToJson path entries)
  | [] => rfl
  | (key, v) :: rest => by
    have hv := reports_toJsonAt (entryPath path key) v
    have hrest := reports_entriesToJson path rest
    rw [entryLeaves, firstUnfit?_append, firstUnfit?_behind, entriesToJson, Step.spell]
    cases h : toJsonAt (entryPath path key) v with
    | error u =>
      rw [h] at hv
      rw [show firstUnfit? _ v.leaves = some u from hv]
      rfl
    | ok j =>
      rw [h] at hv
      rw [show firstUnfit? _ v.leaves = none from hv, Option.none_or]
      cases h' : entriesToJson path rest <;> rw [h'] at hrest <;> exact hrest

end

/-! ### Where a value stands -/

section

variable {path : String}

theorem toJsonAt_arr_eq_ok_iff {items : List Value} {j : Json} :
    toJsonAt path (arr items) = .ok j ↔ ∃ js, itemsToJson path 0 items = .ok js ∧ j = .arr js := by
  rw [toJsonAt]
  cases itemsToJson path 0 items <;> simp [eq_comm]

theorem toJsonAt_map_eq_ok_iff {entries : List (String × Value)} {j : Json} :
    toJsonAt path (map entries) = .ok j ↔ ∃ fields, entriesToJson path entries = .ok fields ∧ j = .obj fields := by
  rw [toJsonAt]
  cases entriesToJson path entries <;> simp [eq_comm]

theorem itemsToJson_cons_eq_ok_iff {index : Nat} {v : Value} {rest : List Value} {js : List Json} :
    itemsToJson path index (v :: rest) = .ok js ↔
      ∃ j more, toJsonAt (itemPath path index) v = .ok j ∧ itemsToJson path (index + 1) rest = .ok more ∧
        js = j :: more := by
  rw [itemsToJson]
  cases toJsonAt (itemPath path index) v with
  | error u => simp
  | ok j => cases itemsToJson path (index + 1) rest <;> simp [eq_comm]

theorem entriesToJson_cons_eq_ok_iff {key : String} {v : Value} {rest : List (String × Value)} {fields : Record} :
    entriesToJson path ((key, v) :: rest) = .ok fields ↔
      ∃ j more, toJsonAt (entryPath path key) v = .ok j ∧ entriesToJson path rest = .ok more ∧
        fields = (key, j) :: more := by
  rw [entriesToJson]
  cases toJsonAt (entryPath path key) v with
  | error u => simp
  | ok j => cases entriesToJson path rest <;> simp [eq_comm]

end

mutual

theorem toJsonAt_eq_ok {path : String} (other : String) :
    (v : Value) → {j : Json} → toJsonAt path v = .ok j → toJsonAt other v = .ok j
  | unit, _, h | bool _, _, h | int _, _, h | dec _, _, h | char _, _, h | str _, _, h | blob _, _, h => h
  | float x, _, h => by
    rw [toJsonAt] at h ⊢
    cases hx : JsonNumber.ofBinary64? x with
    | none =>
      rw [hx] at h
      cases h
    | some n =>
      rw [hx] at h
      exact h
  | arr items, _, h => by
    obtain ⟨js, hitems, rfl⟩ := toJsonAt_arr_eq_ok_iff.1 h
    exact toJsonAt_arr_eq_ok_iff.2 ⟨js, itemsToJson_eq_ok other items hitems, rfl⟩
  | map entries, _, h => by
    obtain ⟨fields, hentries, rfl⟩ := toJsonAt_map_eq_ok_iff.1 h
    exact toJsonAt_map_eq_ok_iff.2 ⟨fields, entriesToJson_eq_ok other entries hentries, rfl⟩

private theorem itemsToJson_eq_ok {path : String} {index : Nat} (other : String) :
    (items : List Value) → {js : List Json} → itemsToJson path index items = .ok js →
      itemsToJson other index items = .ok js
  | [], _, h => h
  | v :: rest, _, h => by
    obtain ⟨j, more, hv, hrest, rfl⟩ := itemsToJson_cons_eq_ok_iff.1 h
    exact itemsToJson_cons_eq_ok_iff.2
      ⟨j, more, toJsonAt_eq_ok (itemPath other index) v hv, itemsToJson_eq_ok other rest hrest, rfl⟩

private theorem entriesToJson_eq_ok {path : String} (other : String) :
    (entries : List (String × Value)) → {fields : Record} → entriesToJson path entries = .ok fields →
      entriesToJson other entries = .ok fields
  | [], _, h => h
  | (key, v) :: rest, _, h => by
    obtain ⟨j, more, hv, hrest, rfl⟩ := entriesToJson_cons_eq_ok_iff.1 h
    exact entriesToJson_cons_eq_ok_iff.2
      ⟨j, more, toJsonAt_eq_ok (entryPath other key) v hv, entriesToJson_eq_ok other rest hrest, rfl⟩

end

/-- The fields of a map are its entries, each converted on its own. -/
theorem map_get?_of_entriesToJson {path : String} {entries : List (String × Value)} {fields : Record}
    (h : entriesToJson path entries = .ok fields) (key : String) :
    (Fields.get? key entries).map toJson = (Fields.get? key fields).map .ok := by
  induction entries generalizing fields with
  | nil =>
    cases h
    rfl
  | cons entry rest ih =>
    obtain ⟨k, v⟩ := entry
    obtain ⟨j, more, hv, hrest, rfl⟩ := entriesToJson_cons_eq_ok_iff.1 h
    rw [Fields.get?, Fields.get?]
    by_cases hk : k = key
    · rw [if_pos hk, if_pos hk, Option.map_some, Option.map_some, toJson, toJsonAt_eq_ok "" v hv]
    · rw [if_neg hk, if_neg hk]
      exact ih hrest

end Sandscript.Value
