import Sandscript.Output
import Sandscript.Proofs.Json.Layouts
import Sandscript.Proofs.Value.Positions

/-!
# The entries of an outline

The entries of a container at any depth, in depth-first order, with the steps that lead to them: they are what stands
at the positions inside of the container (`lists_entries`), and the lines of an outline are theirs
(`block_eq_map_line`).  Sorting the fields of an outline changes what is found at no position (`at?_sorted`).
-/

namespace Sandscript

open Value (Step Precedes)

namespace Json

/-! ### What stands at a position -/

/-- What some steps lead to. -/
def at? : Json → List Step → Option Json
  | v, [] => some v
  | arr items, .item index :: steps => items[index]?.bind (at? · steps)
  | obj fields, .entry key :: steps => (Fields.get? key fields).bind (at? · steps)
  | _, _ :: _ => none

private theorem sortedItems_eq_map (items : List Json) : sortedItems items = items.map sorted := by
  induction items with
  | nil => rfl
  | cons v rest ih => rw [sortedItems, ih, List.map_cons]

private theorem get?_sortedFields (key : String) (fields : List (String × Json)) :
    Fields.get? key (sortedFields fields) = (Fields.get? key fields).map sorted := by
  induction fields with
  | nil => rfl
  | cons p rest ih =>
    obtain ⟨k, v⟩ := p
    rw [sortedFields, Fields.get?]
    by_cases hk : k = key
    · rw [hk, Fields.get?_insert_self, if_pos rfl, Option.map_some]
    · rw [Fields.get?_insert_of_ne hk, ih, if_neg hk]

private theorem sorted_sortedFields (fields : List (String × Json)) : Fields.Sorted (sortedFields fields) := by
  induction fields with
  | nil => exact .nil
  | cons p rest ih => exact Fields.sorted_insert ih _ _

/-- Sorting fields keeps what stands at every position. -/
theorem at?_sorted (steps : List Step) (v : Json) : v.sorted.at? steps = (v.at? steps).map sorted := by
  induction steps generalizing v with
  | nil => cases v <;> rfl
  | cons step steps ih =>
    cases v with
    | arr items =>
      cases step with
      | item index =>
        rw [sorted, at?, at?, sortedItems_eq_map, List.getElem?_map]
        cases items[index]? with
        | none => rfl
        | some w => exact ih w
      | entry key => rfl
    | obj fields =>
      cases step with
      | item index => rfl
      | entry key =>
        rw [sorted, at?, at?, get?_sortedFields]
        cases Fields.get? key fields with
        | none => rfl
        | some w => exact ih w
    | _ => cases step <;> rfl

/-! ### Sorted values -/

mutual

private theorem every_of_forall {p : Json → Prop} (h : ∀ v, p v) : (v : Json) → v.Every p
  | null => h null
  | bool b => h (bool b)
  | num n => h (num n)
  | str s => h (str s)
  | arr items => ⟨h (arr items), everyItem_of_forall h items⟩
  | obj fields => ⟨h (obj fields), everyField_of_forall h fields⟩

private theorem everyItem_of_forall {p : Json → Prop} (h : ∀ v, p v) : (items : List Json) → EveryItem p items
  | [] => trivial
  | v :: rest => ⟨every_of_forall h v, everyItem_of_forall h rest⟩

private theorem everyField_of_forall {p : Json → Prop} (h : ∀ v, p v) :
    (fields : List (String × Json)) → EveryField p fields
  | [] => trivial
  | (_, v) :: rest => ⟨every_of_forall h v, everyField_of_forall h rest⟩

end

mutual

/-- A property of all parts of a value is one of all parts of the sorted value if sorting keeps it. -/
theorem Every.sorted {p q : Json → Prop} (h : ∀ v, p v → q v.sorted) : (v : Json) → v.Every p → v.sorted.Every q
  | null, hv => h null hv
  | bool b, hv => h (bool b) hv
  | num n, hv => h (num n) hv
  | str s, hv => h (str s) hv
  | arr items, hv => ⟨h (arr items) hv.1, everyItem_iff.2 (EveryItem.sorted h items hv.2)⟩
  | obj fields, hv => ⟨h (obj fields) hv.1, everyField_iff.2 (EveryField.sorted h fields hv.2)⟩

theorem EveryItem.sorted {p q : Json → Prop} (h : ∀ v, p v → q v.sorted) :
    (items : List Json) → EveryItem p items → ∀ v ∈ sortedItems items, v.Every q
  | [], _ => List.forall_mem_nil _
  | v :: rest, hv => List.forall_mem_cons.2 ⟨Every.sorted h v hv.1, EveryItem.sorted h rest hv.2⟩

theorem EveryField.sorted {p q : Json → Prop} (h : ∀ v, p v → q v.sorted) :
    (fields : List (String × Json)) → EveryField p fields → ∀ f ∈ sortedFields fields, f.2.Every q
  | [], _ => List.forall_mem_nil _
  | (k, v) :: rest, hv => fun f hf => by
    rcases Fields.mem_insert hf with rfl | hf
    · exact Every.sorted h v hv.1
    · exact EveryField.sorted h rest hv.2 f hf

end

private theorem isOrdered_sorted (v : Json) : v.sorted.IsOrdered := by
  cases v with
  | obj fields => exact sorted_sortedFields fields
  | _ => trivial

theorem every_isOrdered_sorted (v : Json) : v.sorted.Every IsOrdered :=
  Every.sorted (fun w _ => isOrdered_sorted w) v (every_of_forall (fun _ => trivial) v)

private theorem at?_cons (step : Step) (steps : List Step) (v : Json) :
    v.at? (step :: steps) = (v.at? [step]).bind (at? · steps) := by
  cases v with
  | arr items =>
    cases step with
    | item index =>
      rw [at?, at?]
      cases items[index]? <;> rfl
    | entry key => rfl
  | obj fields =>
    cases step with
    | item index => rfl
    | entry key =>
      rw [at?, at?]
      cases Fields.get? key fields <;> rfl
  | _ => cases step <;> rfl

theorem Every.at? {p : Json → Prop} {v w : Json} (h : v.Every p) {step : Step} (hw : v.at? [step] = some w) :
    w.Every p := by
  cases v with
  | arr items =>
    cases step with
    | item index =>
      obtain ⟨u, hu, heq⟩ := Option.bind_eq_some_iff.1 hw
      cases heq
      exact everyItem_iff.1 h.2 _ (List.mem_of_getElem? hu)
    | entry key => cases hw
  | obj fields =>
    cases step with
    | item index => cases hw
    | entry key =>
      obtain ⟨u, hu, heq⟩ := Option.bind_eq_some_iff.1 hw
      cases heq
      exact everyField_iff.1 h.2 _ (Fields.mem_of_get? hu)
  | _ => cases step <;> cases hw

end Json

namespace Outline

/-! ### Entries -/

/-- An entry of a container at any depth. -/
structure Entry where
  /-- The steps to the container that it is in. -/
  outer : List Step
  step : Step
  value : Json

/-- The steps to an entry. -/
def Entry.steps (e : Entry) : List Step := e.outer ++ [e.step]

/-- An entry of a part of a value, which is one step inside. -/
def Entry.behind (step : Step) (e : Entry) : Entry := { e with outer := step :: e.outer }

/-- What one step reaches: the value there, whose entries are given, and then these. -/
def reached (step : Step) (v : Json) (inner : List Entry) : List Entry := ⟨[], step, v⟩ :: inner.map (.behind step)

mutual

/-- The entries of a value, each in front of its own entries. -/
def entries : Json → List Entry
  | .arr items => itemEntries 0 items
  | .obj fields => fieldEntries fields
  | _ => []

def itemEntries (index : Nat) : List Json → List Entry
  | [] => []
  | v :: rest => reached (.item index) v (entries v) ++ itemEntries (index + 1) rest

def fieldEntries : List (String × Json) → List Entry
  | [] => []
  | (key, v) :: rest => reached (.entry key) v (entries v) ++ fieldEntries rest

end

private theorem entries_of_not_isNested {v : Json} (h : isNested v = false) : entries v = [] := by
  cases v with
  | arr items =>
    cases items with
    | nil => rfl
    | cons v rest => cases h
  | obj fields =>
    cases fields with
    | nil => rfl
    | cons p rest => cases h
  | _ => rfl

theorem entries_ne_nil {v : Json} (h : isNested v = true) : entries v ≠ [] := by
  cases v with
  | arr items =>
    cases items with
    | nil => cases h
    | cons v rest => exact List.cons_ne_nil _ _
  | obj fields =>
    cases fields with
    | nil => cases h
    | cons p rest => exact List.cons_ne_nil _ _
  | _ => cases h

/-! ### Entries and positions -/

private theorem mem_reached_nil_iff {step s : Step} {v w : Json} {inner : List Entry} :
    ⟨[], s, w⟩ ∈ reached step v inner ↔ s = step ∧ w = v := by
  simp [reached, Entry.behind]

theorem mem_reached_cons_iff {step t s : Step} {outer : List Step} {v w : Json} {inner : List Entry} :
    ⟨t :: outer, s, w⟩ ∈ reached step v inner ↔ t = step ∧ ⟨outer, s, w⟩ ∈ inner := by
  rw [reached, List.mem_cons, List.mem_map]
  constructor
  · rintro (heq | ⟨e, he, heq⟩)
    · cases heq
    · cases heq
      exact ⟨rfl, he⟩
  · rintro ⟨rfl, he⟩
    exact .inr ⟨_, he, rfl⟩

private theorem mem_itemEntries_iff {index : Nat} {items : List Json} {e : Entry} : e ∈ itemEntries index items ↔
    ∃ (i : Nat) (v : Json), items[i]? = some v ∧ e ∈ reached (.item (index + i)) v (entries v) := by
  induction items generalizing index with
  | nil => simp [itemEntries]
  | cons w rest ih =>
    rw [itemEntries, List.mem_append, ih]
    constructor
    · rintro (he | ⟨i, v, hv, he⟩)
      · exact ⟨0, w, rfl, he⟩
      · exact ⟨i + 1, v, hv, by rwa [Nat.add_comm i 1, ← Nat.add_assoc]⟩
    · rintro ⟨i, v, hv, he⟩
      cases i with
      | zero =>
        cases hv
        exact .inl he
      | succ i => exact .inr ⟨i, v, hv, by rwa [Nat.add_assoc, Nat.add_comm 1 i]⟩

private theorem mem_fieldEntries_iff {fields : List (String × Json)} {e : Entry} :
    e ∈ fieldEntries fields ↔ ∃ f ∈ fields, e ∈ reached (.entry f.1) f.2 (entries f.2) := by
  induction fields with
  | nil => simp [fieldEntries]
  | cons f rest ih =>
    obtain ⟨key, v⟩ := f
    rw [fieldEntries, List.mem_append, ih]
    simp

/-- The entries of a value are reached by a single step first. -/
theorem mem_entries_iff_reached {v : Json} (h : v.IsOrdered) {e : Entry} :
    e ∈ entries v ↔ ∃ step w, v.at? [step] = some w ∧ e ∈ reached step w (entries w) := by
  cases v with
  | arr items =>
    rw [entries, mem_itemEntries_iff]
    constructor
    · rintro ⟨i, w, hw, he⟩
      rw [Nat.zero_add] at he
      exact ⟨.item i, w, by rw [Json.at?, hw]; rfl, he⟩
    · rintro ⟨step, w, hw, he⟩
      cases step with
      | item i =>
        obtain ⟨w', hw', heq⟩ := Option.bind_eq_some_iff.1 hw
        cases heq
        exact ⟨i, w, hw', by rwa [Nat.zero_add]⟩
      | entry key => cases hw
  | obj fields =>
    rw [entries, mem_fieldEntries_iff]
    constructor
    · rintro ⟨⟨key, w⟩, hmem, he⟩
      exact ⟨.entry key, w, by rw [Json.at?, (Fields.get?_eq_some_iff h).2 hmem]; rfl, he⟩
    · rintro ⟨step, w, hw, he⟩
      cases step with
      | item i => cases hw
      | entry key =>
        obtain ⟨w', hw', heq⟩ := Option.bind_eq_some_iff.1 hw
        cases heq
        exact ⟨(key, w), Fields.mem_of_get? hw', he⟩
  | _ =>
    refine ⟨fun he => (nomatch he), ?_⟩
    rintro ⟨step, w, hw, -⟩
    cases step <;> cases hw

/-- The entries of a value are what stands at its positions, but for the value itself. -/
theorem mem_entries_iff {v : Json} (h : v.Every Json.IsOrdered) {outer : List Step} {step : Step} {w : Json} :
    ⟨outer, step, w⟩ ∈ entries v ↔ v.at? (outer ++ [step]) = some w := by
  induction outer generalizing v with
  | nil =>
    rw [mem_entries_iff_reached h.self]
    constructor
    · rintro ⟨s, u, hu, he⟩
      obtain ⟨rfl, rfl⟩ := mem_reached_nil_iff.1 he
      exact hu
    · exact fun hw => ⟨step, w, hw, mem_reached_nil_iff.2 ⟨rfl, rfl⟩⟩
  | cons t outer ih =>
    rw [mem_entries_iff_reached h.self, List.cons_append, Json.at?_cons, Option.bind_eq_some_iff]
    constructor
    · rintro ⟨s, u, hu, hreached⟩
      obtain ⟨rfl, hinner⟩ := mem_reached_cons_iff.1 hreached
      exact ⟨u, hu, (ih (h.at? hu)).1 hinner⟩
    · rintro ⟨u, hu, hw⟩
      exact ⟨t, u, hu, mem_reached_cons_iff.2 ⟨rfl, (ih (h.at? hu)).2 hw⟩⟩

/-! ### Order -/

private theorem pairwise_map_behind {es : List Entry} (h : es.Pairwise fun e f => Precedes e.steps f.steps)
    (step : Step) :
    (es.map (Entry.behind step)).Pairwise fun e f => Precedes e.steps f.steps :=
  List.pairwise_map.2 (h.imp fun hef => .cons hef)

/-- All that a step reaches has this step in front. -/
private theorem exists_steps_of_mem_reached {step : Step} {v : Json} {inner : List Entry} {e : Entry}
    (h : e ∈ reached step v inner) : ∃ steps, e.steps = step :: steps := by
  rcases List.mem_cons.1 h with rfl | h
  · exact ⟨[], rfl⟩
  · obtain ⟨f, -, rfl⟩ := List.mem_map.1 h
    exact ⟨f.steps, rfl⟩

private theorem pairwise_reached {inner : List Entry} (h : inner.Pairwise fun e f => Precedes e.steps f.steps)
    (step : Step) (v : Json) : (reached step v inner).Pairwise fun e f => Precedes e.steps f.steps := by
  refine List.pairwise_cons.2 ⟨fun e he => ?_, pairwise_map_behind h step⟩
  obtain ⟨f, -, rfl⟩ := List.mem_map.1 he
  have hnext : f.steps ≠ [] := List.append_ne_nil_of_right_ne_nil _ (List.cons_ne_nil _ _)
  obtain ⟨t, ts, hsteps⟩ := List.exists_cons_of_ne_nil hnext
  change Precedes [step] (step :: f.steps)
  rw [hsteps]
  exact .cons .nil

/-- What an earlier step reaches stands in front of what a later step reaches. -/
private theorem precedes_of_mem_reached {s t : Step} (h : s.Before t) {v w : Json} {inner inner' : List Entry}
    {e f : Entry} (he : e ∈ reached s v inner) (hf : f ∈ reached t w inner') : Precedes e.steps f.steps := by
  obtain ⟨steps, hsteps⟩ := exists_steps_of_mem_reached he
  obtain ⟨steps', hsteps'⟩ := exists_steps_of_mem_reached hf
  rw [hsteps, hsteps']
  exact .rel h

mutual

/-- The entries come in depth-first order. -/
private theorem pairwise_entries : (v : Json) → v.Every Json.IsOrdered →
    (entries v).Pairwise fun e f => Precedes e.steps f.steps
  | .null, _ | .bool _, _ | .num _, _ | .str _, _ => .nil
  | .arr items, h => pairwise_itemEntries 0 items h.2
  | .obj fields, h => pairwise_fieldEntries fields h.1 h.2

private theorem pairwise_itemEntries (index : Nat) : (items : List Json) → Json.EveryItem Json.IsOrdered items →
    (itemEntries index items).Pairwise fun e f => Precedes e.steps f.steps
  | [], _ => .nil
  | v :: rest, h => by
    refine List.pairwise_append.2 ⟨pairwise_reached (pairwise_entries v h.1) _ v,
      pairwise_itemEntries (index + 1) rest h.2, fun e he f hf => ?_⟩
    obtain ⟨i, w, -, hf⟩ := mem_itemEntries_iff.1 hf
    exact precedes_of_mem_reached (.item (by omega)) he hf

private theorem pairwise_fieldEntries : (fields : List (String × Json)) → Fields.Sorted fields →
    Json.EveryField Json.IsOrdered fields → (fieldEntries fields).Pairwise fun e f => Precedes e.steps f.steps
  | [], _, _ => .nil
  | (key, v) :: rest, hsorted, h => by
    obtain ⟨hfirst, hrest⟩ := List.pairwise_cons.1 hsorted
    refine List.pairwise_append.2 ⟨pairwise_reached (pairwise_entries v h.1) _ v,
      pairwise_fieldEntries rest hrest h.2, fun e he f hf => ?_⟩
    obtain ⟨p, hp, hf⟩ := mem_fieldEntries_iff.1 hf
    exact precedes_of_mem_reached (.entry (hfirst p hp)) he hf

end

/-- Entries list a value if they are what stands at its positions, but for the value itself, with fields in order,
each of them once and in depth-first order. -/
structure Lists (v : Json) (es : List Entry) : Prop where
  mem_iff : ∀ e, e ∈ es ↔ (v.at? e.steps).map Json.sorted = some e.value
  ordered : es.Pairwise fun e f => Precedes e.steps f.steps

theorem lists_entries (v : Json) : Lists v (entries v.sorted) where
  mem_iff e := by
    rw [← Json.at?_sorted]
    exact mem_entries_iff (Json.every_isOrdered_sorted v)
  ordered := pairwise_entries _ (Json.every_isOrdered_sorted v)

/-! ### Lines -/

/-- What an entry is marked with: its key and a colon, or a dash for an item. -/
def label (color : Bool) : Step → List Char
  | .item _ => ['-']
  | .entry key => keyStyle.paint color key.toList ++ [':']

/-- What stands behind the label of an entry: a value that does not open a block. -/
def content (color : Bool) (v : Json) : List Char := if isNested v then [] else ' ' :: scalar color v

/-- The line of an entry. -/
def Entry.line (color : Bool) (e : Entry) : List Char :=
  indent e.outer.length ++ (label color e.step ++ content color e.value)

private theorem indent_succ (depth : Nat) : indent (depth + 1) = indent depth ++ indent 1 := by
  rw [indent, indent, indent, Nat.mul_add, List.replicate_add]

private theorem line_behind (color : Bool) (step : Step) (e : Entry) :
    (e.behind step).line color = indent 1 ++ e.line color := by
  have hindent : indent (e.outer.length + 1) = indent 1 ++ indent e.outer.length := by
    rw [indent, Nat.mul_add, Nat.add_comm, List.replicate_add]
    rfl
  change indent (e.outer.length + 1) ++ _ = indent 1 ++ (indent e.outer.length ++ _)
  rw [hindent, List.append_assoc]
  rfl

/-- The lines of an entry and of those in it, where its own entries already have theirs. -/
private theorem map_line_reached {color : Bool} {v : Json} {depth : Nat}
    (h : isNested v = true → block color (depth + 1) v = (entries v).map fun e => indent (depth + 1) ++ e.line color)
    (step : Step) :
    (reached step v (entries v)).map (fun e => indent depth ++ e.line color) =
      if isNested v then (indent depth ++ label color step) :: block color (depth + 1) v
      else [indent depth ++ label color step ++ ' ' :: scalar color v] := by
  have hfirst : Entry.line color ⟨[], step, v⟩ = label color step ++ content color v := rfl
  rw [reached, List.map_cons, List.map_map, hfirst, content]
  by_cases hv : isNested v = true
  · rw [if_pos hv, if_pos hv, List.append_nil, h hv]
    congr 1
    refine List.map_congr_left fun e _ => ?_
    rw [Function.comp_apply, line_behind, indent_succ depth, List.append_assoc]
  · rw [if_neg hv, if_neg hv, entries_of_not_isNested (Bool.eq_false_iff.2 hv), List.map_nil, List.append_assoc]

mutual

/-- The lines of a block are those of its entries. -/
theorem block_eq_map_line (color : Bool) : (v : Json) → isNested v = true → (depth : Nat) →
    block color depth v = (entries v).map fun e => indent depth ++ e.line color
  | .null, h, _ | .bool _, h, _ | .num _, h, _ | .str _, h, _ => by cases h
  | .arr items, _, depth => by rw [block, entries, itemLines_eq_map_line color items 0 depth]
  | .obj fields, _, depth => by rw [block, entries, fieldLines_eq_map_line color fields depth]

private theorem itemLines_eq_map_line (color : Bool) : (items : List Json) → (index depth : Nat) →
    itemLines color depth items = (itemEntries index items).map fun e => indent depth ++ e.line color
  | [], _, _ => rfl
  | v :: rest, index, depth => by
    rw [itemLines, itemEntries, List.map_append, itemLines_eq_map_line color rest (index + 1) depth,
      map_line_reached (fun h => block_eq_map_line color v h (depth + 1))]
    rfl

private theorem fieldLines_eq_map_line (color : Bool) : (fields : List (String × Json)) → (depth : Nat) →
    fieldLines color depth fields = (fieldEntries fields).map fun e => indent depth ++ e.line color
  | [], _ => rfl
  | (key, v) :: rest, depth => by
    rw [fieldLines, fieldEntries, List.map_append, fieldLines_eq_map_line color rest depth,
      map_line_reached (fun h => block_eq_map_line color v h (depth + 1)), label, ← List.append_assoc]

end

end Outline

end Sandscript
