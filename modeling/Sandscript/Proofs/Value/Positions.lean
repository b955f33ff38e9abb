import Sandscript.Proofs.Fields
import Sandscript.Proofs.Value.Leaves

/-!
# The positions of leaves

The steps to a leaf lead to it (`mem_leaves_iff`), and the leaves of a value come in depth-first order: the items of an
array by their indices, the entries of a map by their keys (`pairwise_leaves`).  The text of the steps is that of the
position: keys are joined by points, indices stand in brackets (`spell_eq_position`).  Only empty keys in front of all
other steps are missing from it (`spell_eq_position_shown`).
-/

namespace Sandscript.Value

/-! ### Texts of positions -/

/-- A step behind others. -/
def Step.text : Step → String
  | item index => "[" ++ toString index ++ "]"
  | entry key => "." ++ key

/-- The text of a position; no point stands before the first key. -/
def position : List Step → String
  | [] => ""
  | .item index :: steps => "[" ++ toString index ++ "]" ++ String.join (steps.map Step.text)
  | .entry key :: steps => key ++ String.join (steps.map Step.text)

private theorem spell_of_ne {path : String} (h : path ≠ "") (step : Step) : step.spell path = path ++ step.text := by
  cases step with
  | item index => simp only [Step.spell, itemPath, Step.text, String.append_assoc]
  | entry key =>
    have hpath : path.isEmpty = false := by simpa using h
    rw [Step.spell, entryPath, hpath, if_neg Bool.false_ne_true, Step.text, String.append_assoc]

private theorem foldl_spell_of_ne {path : String} (h : path ≠ "") (steps : List Step) :
    steps.foldl Step.spell path = path ++ String.join (steps.map Step.text) := by
  induction steps generalizing path with
  | nil => simp
  | cons step steps ih =>
    have hnext : path ++ step.text ≠ "" := by simp [h]
    rw [List.foldl_cons, spell_of_ne h, ih hnext, List.map_cons, String.join_cons, String.append_assoc]

/-- A step by the empty key. -/
def Step.isEmptyKey : Step → Bool
  | item _ => false
  | entry key => key.isEmpty

/-- The steps that a path shows: an empty key in front of all other steps leaves no trace in it. -/
def shown (steps : List Step) : List Step := steps.dropWhile Step.isEmptyKey

theorem spell_eq_position_shown (steps : List Step) : spell steps = position (shown steps) := by
  induction steps with
  | nil => rfl
  | cons step steps ih =>
    cases step with
    | item index =>
      have hfirst : Step.spell "" (.item index) = "[" ++ toString index ++ "]" := by simp [Step.spell, itemPath]
      rw [spell, List.foldl_cons, hfirst, foldl_spell_of_ne (by simp)]
      rfl
    | entry key =>
      have hfirst : Step.spell "" (.entry key) = key := rfl
      by_cases hkey : key = ""
      · -- nothing is written for this key
        subst hkey
        exact ih
      · have hshown : shown (.entry key :: steps) = .entry key :: steps :=
          List.dropWhile_cons_of_neg (by simpa [Step.isEmptyKey] using hkey)
        rw [spell, List.foldl_cons, hfirst, foldl_spell_of_ne hkey, hshown, position]

theorem spell_eq_position {steps : List Step} (h : ∀ key, .entry key ∈ steps → key ≠ "") :
    spell steps = position steps := by
  have hshown : shown steps = steps := by
    cases steps with
    | nil => rfl
    | cons step steps =>
      refine List.dropWhile_cons_of_neg ?_
      cases step with
      | item index => exact Bool.false_ne_true
      | entry key => simpa [Step.isEmptyKey] using h key List.mem_cons_self
  rw [spell_eq_position_shown, hshown]

/-! ### What stands at a position -/

/-- What some steps lead to. -/
def at? : Value → List Step → Option Value
  | v, [] => some v
  | arr items, .item index :: steps => items[index]?.bind (at? · steps)
  | map entries, .entry key :: steps => (Fields.get? key entries).bind (at? · steps)
  | _, _ :: _ => none

/-- Whether a value is neither an array nor a map. -/
def isLeaf : Value → Bool
  | arr _ | map _ => false
  | _ => true

mutual

/-- All maps in a value have their entries in order. -/
def Ordered : Value → Prop
  | arr items => OrderedItems items
  | map entries => Fields.Sorted entries ∧ OrderedEntries entries
  | _ => True

def OrderedItems : List Value → Prop
  | [] => True
  | v :: rest => v.Ordered ∧ OrderedItems rest

def OrderedEntries : List (String × Value) → Prop
  | [] => True
  | (_, v) :: rest => v.Ordered ∧ OrderedEntries rest

end

private theorem OrderedItems.of_mem {items : List Value} (h : OrderedItems items) {v : Value} (hv : v ∈ items) :
    v.Ordered := by
  induction items with
  | nil => cases hv
  | cons w rest ih =>
    rcases List.mem_cons.1 hv with rfl | hv
    · exact h.1
    · exact ih h.2 hv

private theorem OrderedEntries.of_mem {entries : List (String × Value)} (h : OrderedEntries entries)
    {p : String × Value} (hp : p ∈ entries) : p.2.Ordered := by
  induction entries with
  | nil => cases hp
  | cons q rest ih =>
    rcases List.mem_cons.1 hp with rfl | hp
    · exact h.1
    · exact ih h.2 hp

theorem leaves_of_isLeaf {v : Value} (h : v.isLeaf = true) : v.leaves = [⟨[], v⟩] := by
  cases v with
  | arr items => cases h
  | map entries => cases h
  | _ => rfl

theorem mem_itemLeaves_iff {index : Nat} {items : List Value} {l : Leaf} :
    l ∈ itemLeaves index items ↔
      ∃ (i : Nat) (v : Value), items[i]? = some v ∧ ∃ inner ∈ v.leaves, inner.behind (.item (index + i)) = l := by
  induction items generalizing index with
  | nil => simp [itemLeaves]
  | cons w rest ih =>
    rw [itemLeaves, List.mem_append, List.mem_map, ih]
    constructor
    · rintro (⟨inner, hinner, rfl⟩ | ⟨i, v, hv, inner, hinner, rfl⟩)
      · exact ⟨0, w, rfl, inner, hinner, rfl⟩
      · exact ⟨i + 1, v, hv, inner, hinner, by rw [Nat.add_assoc, Nat.add_comm 1 i]⟩
    · rintro ⟨i, v, hv, inner, hinner, rfl⟩
      cases i with
      | zero =>
        cases hv
        exact .inl ⟨inner, hinner, rfl⟩
      | succ i => exact .inr ⟨i, v, hv, inner, hinner, by rw [Nat.add_assoc, Nat.add_comm 1 i]⟩

theorem mem_entryLeaves_iff {entries : List (String × Value)} {l : Leaf} :
    l ∈ entryLeaves entries ↔ ∃ p ∈ entries, ∃ inner ∈ p.2.leaves, inner.behind (.entry p.1) = l := by
  induction entries with
  | nil => simp [entryLeaves]
  | cons p rest ih =>
    obtain ⟨key, v⟩ := p
    rw [entryLeaves, List.mem_append, List.mem_map, ih]
    simp

private theorem mem_leaves_nil_iff {v w : Value} : ⟨[], w⟩ ∈ v.leaves ↔ v = w ∧ w.isLeaf = true := by
  cases v with
  | arr items =>
    rw [leaves, mem_itemLeaves_iff]
    refine ⟨fun ⟨_, _, _, _, _, heq⟩ => List.cons_ne_nil _ _ (congrArg Leaf.steps heq) |>.elim, ?_⟩
    rintro ⟨rfl, h⟩
    cases h
  | map entries =>
    rw [leaves, mem_entryLeaves_iff]
    refine ⟨fun ⟨_, _, _, _, heq⟩ => List.cons_ne_nil _ _ (congrArg Leaf.steps heq) |>.elim, ?_⟩
    rintro ⟨rfl, h⟩
    cases h
  | _ =>
    rw [leaves_of_isLeaf rfl, List.mem_singleton]
    constructor
    · intro h
      cases h
      exact ⟨rfl, rfl⟩
    · rintro ⟨rfl, -⟩
      rfl

theorem mem_leaves_item_iff {items : List Value} {index : Nat} {steps : List Step} {w : Value} :
    ⟨.item index :: steps, w⟩ ∈ (arr items).leaves ↔ ∃ v, items[index]? = some v ∧ ⟨steps, w⟩ ∈ v.leaves := by
  rw [leaves, mem_itemLeaves_iff]
  constructor
  · rintro ⟨i, v, hv, ⟨inner, w'⟩, hinner, heq⟩
    cases heq
    exact ⟨v, by rwa [Nat.zero_add], hinner⟩
  · rintro ⟨v, hv, hinner⟩
    exact ⟨index, v, hv, _, hinner, by rw [Nat.zero_add, Leaf.behind]⟩

theorem mem_leaves_entry_iff {entries : List (String × Value)} {key : String} {steps : List Step} {w : Value} :
    ⟨.entry key :: steps, w⟩ ∈ (map entries).leaves ↔ ∃ v, (key, v) ∈ entries ∧ ⟨steps, w⟩ ∈ v.leaves := by
  rw [leaves, mem_entryLeaves_iff]
  constructor
  · rintro ⟨⟨k, v⟩, hv, ⟨inner, w'⟩, hinner, heq⟩
    cases heq
    exact ⟨v, hv, hinner⟩
  · rintro ⟨v, hv, hinner⟩
    exact ⟨(key, v), hv, _, hinner, rfl⟩

/-- The leaves of a value are what stands at its positions and is neither an array nor a map. -/
theorem mem_leaves_iff {v : Value} (h : v.Ordered) {steps : List Step} {w : Value} :
    ⟨steps, w⟩ ∈ v.leaves ↔ v.at? steps = some w ∧ w.isLeaf = true := by
  induction steps generalizing v with
  | nil => rw [mem_leaves_nil_iff, at?, Option.some_inj]
  | cons step steps ih =>
    cases v with
    | arr items =>
      cases step with
      | item index =>
        rw [mem_leaves_item_iff, at?, Option.bind_eq_some_iff, ← exists_and_right]
        refine exists_congr fun v => ?_
        rw [and_assoc]
        exact and_congr_right fun hv => ih (OrderedItems.of_mem h (List.mem_of_getElem? hv))
      | entry key =>
        rw [leaves, mem_itemLeaves_iff]
        constructor
        · rintro ⟨_, _, _, _, _, heq⟩
          cases heq
        · rintro ⟨h, -⟩
          cases h
    | map entries =>
      cases step with
      | item index =>
        rw [leaves, mem_entryLeaves_iff]
        constructor
        · rintro ⟨_, _, _, _, heq⟩
          cases heq
        · rintro ⟨h, -⟩
          cases h
      | entry key =>
        rw [mem_leaves_entry_iff, at?, Option.bind_eq_some_iff, ← exists_and_right]
        refine exists_congr fun v => ?_
        rw [and_assoc, Fields.get?_eq_some_iff h.1]
        exact and_congr_right fun hv => ih (OrderedEntries.of_mem h.2 hv)
    | _ =>
      rw [leaves_of_isLeaf rfl, List.mem_singleton]
      constructor
      · intro h
        cases h
      · rintro ⟨h, -⟩
        cases step <;> cases h

/-! ### Order -/

/-- A step comes before another one at the same place: items by index, entries by key. -/
inductive Step.Before : Step → Step → Prop
  | item {i j : Nat} : i < j → Before (item i) (item j)
  | entry {k l : String} : k < l → Before (entry k) (entry l)

/-- The depth-first order of positions. -/
def Precedes : List Step → List Step → Prop := List.Lex Step.Before

private theorem pairwise_behind {ls : List Leaf} (h : ls.Pairwise fun l m => Precedes l.steps m.steps) (step : Step) :
    (ls.map (Leaf.behind step)).Pairwise fun l m => Precedes l.steps m.steps :=
  List.pairwise_map.2 (h.imp .cons)

mutual

/-- The leaves come in depth-first order. -/
theorem pairwise_leaves : (v : Value) → v.Ordered → v.leaves.Pairwise fun l m => Precedes l.steps m.steps
  | unit, _ | bool _, _ | int _, _ | float _, _ | dec _, _ | char _, _ | str _, _ | blob _, _ | fn _ _, _
  | range _ _, _ | rangeIncl _ _, _ | series _, _ => List.pairwise_singleton _ _
  | arr items, h => pairwise_itemLeaves 0 items h
  | map entries, h => pairwise_entryLeaves entries h.1 h.2

private theorem pairwise_itemLeaves (index : Nat) : (items : List Value) → OrderedItems items →
    (itemLeaves index items).Pairwise fun l m => Precedes l.steps m.steps
  | [], _ => .nil
  | v :: rest, h => by
    refine List.pairwise_append.2 ⟨pairwise_behind (pairwise_leaves v h.1) _,
      pairwise_itemLeaves (index + 1) rest h.2, fun l hl m hm => ?_⟩
    obtain ⟨inner, -, rfl⟩ := List.mem_map.1 hl
    obtain ⟨i, _, -, inner', -, rfl⟩ := mem_itemLeaves_iff.1 hm
    exact .rel (.item (by omega))

private theorem pairwise_entryLeaves :
    (entries : List (String × Value)) → Fields.Sorted entries → OrderedEntries entries →
    (entryLeaves entries).Pairwise fun l m => Precedes l.steps m.steps
  | [], _, _ => .nil
  | (key, v) :: rest, hsorted, h => by
    obtain ⟨hfirst, hrest⟩ := List.pairwise_cons.1 hsorted
    refine List.pairwise_append.2 ⟨pairwise_behind (pairwise_leaves v h.1) _,
      pairwise_entryLeaves rest hrest h.2, fun l hl m hm => ?_⟩
    obtain ⟨inner, -, rfl⟩ := List.mem_map.1 hl
    obtain ⟨p, hp, inner', -, rfl⟩ := mem_entryLeaves_iff.1 hm
    exact .rel (.entry (hfirst p hp))

end

end Sandscript.Value
