import Mathlib.Data.List.Forall2
import Sandscript.Proofs.Value.Positions

/-!
# The conversion of values to JSON

A value that has a JSON form has exactly one, which mirrors it: arrays keep their items in order, maps keep their keys,
and a leaf has the form of its kind, wherever it stands (`Mirrors`).  A value has no form exactly if some leaf has none,
and then the first such leaf is what is reported, with its position (`toJson_mirrors`).
-/

namespace Sandscript.Value

/-- The form of a leaf. -/
def leafForm? : Value → Option Json
  | unit => some .null
  | bool b => some (.bool b)
  | int n => some (.num (.ofInt64 n))
  | float x => (JsonNumber.ofBinary64? x).map .num
  | dec d => some d.toJson
  | char c => some (.str c.toString)
  | str s => some (.str s)
  | blob bytes => some (.arr (bytes.map fun b => .ofNat b.toNat))
  | _ => none

/-- A JSON value has the shape of a value, and the forms of its leaves in their places. -/
inductive Mirrors : Value → Json → Prop
  | leaf {v : Value} {j : Json} : v.leafForm? = some j → Mirrors v j
  | arr {items : List Value} {js : List Json} : List.Forall₂ Mirrors items js → Mirrors (arr items) (.arr js)
  | map {entries : List (String × Value)} {fields : Record} : Fields.keys entries = Fields.keys fields →
      List.Forall₂ Mirrors (entries.map (·.2)) (fields.map (·.2)) → Mirrors (map entries) (.obj fields)

private theorem mirrors_iff_of_isLeaf {v : Value} (h : v.isLeaf = true) {j : Json} :
    v.Mirrors j ↔ v.leafForm? = some j := by
  refine ⟨fun hj => ?_, .leaf⟩
  cases hj with
  | leaf hform => exact hform
  | arr _ => cases h
  | map _ _ => cases h

private theorem mirrors_arr_iff {items : List Value} {j : Json} :
    (arr items).Mirrors j ↔ ∃ js, List.Forall₂ Mirrors items js ∧ j = .arr js := by
  constructor
  · intro h
    cases h with
    | leaf hform => cases hform
    | arr hitems => exact ⟨_, hitems, rfl⟩
  · rintro ⟨js, hitems, rfl⟩
    exact .arr hitems

private theorem mirrors_map_iff {entries : List (String × Value)} {j : Json} :
    (map entries).Mirrors j ↔ ∃ fields, (Fields.keys entries = Fields.keys fields ∧
      List.Forall₂ Mirrors (entries.map (·.2)) (fields.map (·.2))) ∧ j = .obj fields := by
  constructor
  · intro h
    cases h with
    | leaf hform => cases hform
    | map hkeys hvalues => exact ⟨_, ⟨hkeys, hvalues⟩, rfl⟩
  · rintro ⟨fields, ⟨hkeys, hvalues⟩, rfl⟩
    exact .map hkeys hvalues

private theorem toJsonAt_eq_ok_iff_of_isLeaf {v : Value} (h : v.isLeaf = true) {path : String} {j : Json} :
    toJsonAt path v = .ok j ↔ v.leafForm? = some j := by
  cases v with
  | arr items => cases h
  | map entries => cases h
  | float x =>
    rw [toJsonAt, leafForm?]
    cases JsonNumber.ofBinary64? x <;> simp
  | _ => simp [toJsonAt, leafForm?]

mutual

/-- The form of a value is what mirrors it, wherever it stands. -/
private theorem toJsonAt_eq_ok_iff (path : String) : (v : Value) → {j : Json} → (toJsonAt path v = .ok j ↔ v.Mirrors j)
  | unit, _ | bool _, _ | int _, _ | float _, _ | dec _, _ | char _, _ | str _, _ | blob _, _ | fn _ _, _
  | range _ _, _ | rangeIncl _ _, _ | series _, _ =>
    (toJsonAt_eq_ok_iff_of_isLeaf rfl).trans (mirrors_iff_of_isLeaf rfl).symm
  | arr items, j => by
    rw [toJsonAt_arr_eq_ok_iff, mirrors_arr_iff]
    exact exists_congr fun js => and_congr_left' (itemsToJson_eq_ok_iff path 0 items)
  | map entries, j => by
    rw [toJsonAt_map_eq_ok_iff, mirrors_map_iff]
    exact exists_congr fun fields => and_congr_left' (entriesToJson_eq_ok_iff path entries)

private theorem itemsToJson_eq_ok_iff (path : String) (index : Nat) :
    (items : List Value) → {js : List Json} → (itemsToJson path index items = .ok js ↔ List.Forall₂ Mirrors items js)
  | [], js => by
    rw [itemsToJson, List.forall₂_nil_left_iff, Except.ok.injEq, eq_comm]
  | v :: rest, js => by
    rw [itemsToJson_cons_eq_ok_iff, List.forall₂_cons_left_iff]
    simp only [toJsonAt_eq_ok_iff (itemPath path index) v, itemsToJson_eq_ok_iff path (index + 1) rest]

theorem entriesToJson_eq_ok_iff (path : String) : (entries : List (String × Value)) → {fields : Record} →
    (entriesToJson path entries = .ok fields ↔
      Fields.keys entries = Fields.keys fields ∧ List.Forall₂ Mirrors (entries.map (·.2)) (fields.map (·.2)))
  | [], fields => by
    cases fields <;> simp [entriesToJson, Fields.keys]
  | (key, v) :: rest, fields => by
    rw [entriesToJson_cons_eq_ok_iff]
    cases fields with
    | nil => simp [Fields.keys]
    | cons field fields =>
      obtain ⟨k, j⟩ := field
      simp only [toJsonAt_eq_ok_iff (entryPath path key) v, entriesToJson_eq_ok_iff path rest, Fields.keys,
        List.map_cons, List.cons.injEq, List.forall₂_cons, Prod.mk.injEq]
      constructor
      · rintro ⟨_, _, hv, ⟨hkeys, hrest⟩, ⟨rfl, rfl⟩, rfl⟩
        exact ⟨⟨rfl, hkeys⟩, hv, hrest⟩
      · rintro ⟨⟨rfl, hkeys⟩, hv, hrest⟩
        exact ⟨j, fields, hv, ⟨hkeys, hrest⟩, ⟨rfl, rfl⟩, rfl⟩

end

/-! ### What is reported -/

theorem firstUnfit?_eq_none_iff {path : String} {ls : List Leaf} :
    firstUnfit? path ls = none ↔ ∀ l ∈ ls, l.value.unfit? = none := by
  refine ⟨fun h l hl => ?_, firstUnfit?_eq_none⟩
  have hnone := List.findSome?_eq_none_iff.1 h l hl
  rwa [Option.map_eq_none_iff] at hnone

theorem firstUnfit?_eq_some_iff {path : String} {ls : List Leaf} {u : Unrepresentable} :
    firstUnfit? path ls = some u ↔
      ∃ front leaf back, ls = front ++ leaf :: back ∧ (∀ l ∈ front, l.value.unfit? = none) ∧
        leaf.value.unfit? = some u.typeName ∧ u.path = leaf.steps.foldl Step.spell path := by
  rw [firstUnfit?, List.findSome?_eq_some_iff]
  simp only [Option.map_eq_some_iff, Option.map_eq_none_iff]
  constructor
  · rintro ⟨front, leaf, back, hls, ⟨name, hname, rfl⟩, hfront⟩
    exact ⟨front, leaf, back, hls, hfront, hname, rfl⟩
  · rintro ⟨front, leaf, back, hls, hfront, hname, hpath⟩
    refine ⟨front, leaf, back, hls, ⟨_, hname, ?_⟩, hfront⟩
    rw [← hpath]

theorem toJson_eq_error_iff {v : Value} {u : Unrepresentable} :
    v.toJson = .error u ↔ firstUnfit? "" v.leaves = some u := by
  have hreports := reports_toJsonAt "" v
  rw [toJson]
  cases h : toJsonAt "" v with
  | error u' =>
    rw [h] at hreports
    rw [show firstUnfit? "" v.leaves = some u' from hreports, Except.error.injEq, Option.some_inj]
  | ok j =>
    rw [h] at hreports
    rw [show firstUnfit? "" v.leaves = none from hreports]
    simp

theorem exists_toJson_iff {v : Value} : (∃ j, v.toJson = .ok j) ↔ ∀ l ∈ v.leaves, l.value.unfit? = none := by
  have hreports := reports_toJsonAt "" v
  have hfit : firstUnfit? "" v.leaves = none ↔ ∀ l ∈ v.leaves, l.value.unfit? = none := firstUnfit?_eq_none_iff
  rw [← hfit, toJson]
  cases h : toJsonAt "" v with
  | error u =>
    rw [h] at hreports
    rw [show firstUnfit? "" v.leaves = some u from hreports]
    simp
  | ok j =>
    rw [h] at hreports
    exact ⟨fun _ => hreports, fun _ => ⟨j, rfl⟩⟩

/-- A value has a JSON form exactly if all its leaves have one, and the form is what mirrors the value.  Otherwise the
first leaf without a form is reported, with its type and its position.  The leaves are what stands at the positions of
the value, in depth-first order. -/
theorem toJson_mirrors (v : Value) :
    ((∃ j, v.toJson = .ok j) ↔ ∀ l ∈ v.leaves, l.value.unfit? = none) ∧
    (∀ j, v.toJson = .ok j ↔ v.Mirrors j) ∧
    (∀ u, v.toJson = .error u ↔ ∃ front leaf back, v.leaves = front ++ leaf :: back ∧
      (∀ l ∈ front, l.value.unfit? = none) ∧ leaf.value.unfit? = some u.typeName ∧ u.path = spell leaf.steps) ∧
    (∀ l ∈ v.leaves, (∀ key, .entry key ∈ l.steps → key ≠ "") → spell l.steps = position l.steps) ∧
    (v.Ordered → (∀ steps w, ⟨steps, w⟩ ∈ v.leaves ↔ v.at? steps = some w ∧ w.isLeaf = true) ∧
      v.leaves.Pairwise fun l m => Precedes l.steps m.steps) :=
  ⟨exists_toJson_iff, fun _ => toJsonAt_eq_ok_iff "" v, fun _ => toJson_eq_error_iff.trans firstUnfit?_eq_some_iff,
    fun _ _ h => spell_eq_position h, fun h => ⟨fun _ _ => mem_leaves_iff h, pairwise_leaves v h⟩⟩

/-- A range inside of a map in an array, in front of a number that is not finite. -/
theorem toJson_mirrors_of_nested :
    let v := map [("a", arr [unit, map [("b", range 1 3)]]), ("c", float .nan)]
    v.toJson = .error ⟨"a[1].b", "core::ops::range::Range<i64>"⟩ ∧
      v.at? [.entry "a", .item 1, .entry "b"] = some (range 1 3) := by
  intro v
  have hordered : v.Ordered :=
    ⟨Fields.sorted_ofPairs [("a", arr [unit, map [("b", range 1 3)]]), ("c", float .nan)],
      ⟨trivial, ⟨Fields.sorted_ofPairs [("b", range 1 3)], trivial, trivial⟩, trivial⟩, trivial, trivial⟩
  obtain ⟨-, -, herror, hspell, hpositions⟩ := toJson_mirrors v
  have hleaves : v.leaves = [⟨[.entry "a", .item 0], unit⟩] ++ ⟨[.entry "a", .item 1, .entry "b"], range 1 3⟩ ::
      [⟨[.entry "c"], float .nan⟩] := rfl
  have hmem : ⟨[.entry "a", .item 1, .entry "b"], range 1 3⟩ ∈ v.leaves := by simp [hleaves]
  refine ⟨(herror _).2 ⟨_, _, _, hleaves, ?_, rfl, ?_⟩, (((hpositions hordered).1 _ _).1 hmem).1⟩
  · simp [unfit?]
  · rw [hspell _ hmem (by simp)]
    decide

end Sandscript.Value
