import Mathlib.Data.List.Forall2
import Sandscript.Capture.Pool
import Sandscript.Proofs.Capture

/-!
# What is seen through the clones of a handle

The handles that come from a new handle by cloning are a family (`Capture.Family`).  Through each of them the same
capture is seen, and it holds what was written through any of them, in order; what is written through other handles does
not reach it (`Capture.Holds`).  So a family keeps the first texts, counts the others, and cuts a text only between two
of its characters (`Capture.clones_agree`).
-/

namespace Sandscript.Capture

/-! ### How a text is kept -/

/-- A text is kept whole if it has few enough characters, and else up to the place behind that many of them, with the
marker. -/
inductive KeptAs (maxChars : Nat) (text : String) : String → Prop
  | whole (h : text.length ≤ maxChars) : KeptAs maxChars text text
  | cut {front rest : String} (place : text.Pos) (hplace : place.Splits front rest) (hfront : front.length = maxChars)
    (hrest : rest ≠ "") : KeptAs maxChars text (front ++ truncationMarker)

private theorem keptAs_cut (maxChars : Nat) (text : String) : KeptAs maxChars text (cut maxChars text) := by
  unfold cut
  split
  · rename_i h
    exact .whole h
  · rename_i h
    have hlength : maxChars < text.toList.length := by rwa [String.length_toList, ← Nat.not_le]
    have hsplit : text = String.ofList (text.toList.take maxChars) ++ String.ofList (text.toList.drop maxChars) := by
      rw [← String.ofList_append, List.take_append_drop, String.ofList_toList]
    -- the end of the characters that are kept is a place of the whole text
    have hvalid : String.Pos.Raw.IsValid text (String.ofList (text.toList.take maxChars)).rawEndPos :=
      String.Pos.Raw.isValid_iff_exists_append.2 ⟨_, _, hsplit, rfl⟩
    refine .cut ⟨_, hvalid⟩ ⟨hsplit, rfl⟩ ?_ ?_
    · rw [String.length_ofList, List.length_take_of_le (Nat.le_of_lt hlength)]
    · intro hempty
      have hnil : text.toList.drop maxChars = [] := by simpa using congrArg String.toList hempty
      exact absurd (List.drop_eq_nil_iff.1 hnil) (Nat.not_le.2 hlength)

private theorem KeptAs.length_le {maxChars : Nat} {text kept : String} (h : KeptAs maxChars text kept) :
    kept.length ≤ maxChars + truncationMarker.length := by
  cases h with
  | whole h => exact Nat.le_add_right_of_le h
  | cut _ _ hfront _ => exact Nat.le_of_eq (by rw [String.length_append, hfront])

/-! ### Families of handles -/

/-- The handles that come from one handle by cloning, and the texts written through any of them. -/
structure Family where
  /-- The number of the next handle. -/
  next : Nat
  members : List Nat
  texts : List String

namespace Family

/-- One handle that has no clones yet and was not written through. -/
def alone (handle : Nat) : Family := ⟨handle + 1, [handle], []⟩

def step (f : Family) : Pool.Step → Family
  | .create _ _ => { f with next := f.next + 1 }
  | .clone handle =>
    if handle ∈ f.members then { f with next := f.next + 1, members := f.members ++ [f.next] }
    else if handle < f.next then { f with next := f.next + 1 }
    else f
  | .write handle text => if handle ∈ f.members then { f with texts := f.texts ++ [text] } else f

def run (f : Family) (steps : List Pool.Step) : Family := steps.foldl step f

end Family

/-! ### What a step does to the pool -/

namespace Pool

variable {p : Pool} {handle i : Nat}

@[simp] theorem captures_clone (p : Pool) (handle : Nat) : (p.clone handle).captures = p.captures := by
  unfold clone
  split
  · rfl
  · rfl

private theorem targets_clone (h : p.targets[handle]? = some i) : (p.clone handle).targets = p.targets ++ [i] := by
  unfold clone
  split
  · rename_i hnone
    cases hnone.symm.trans h
  · rename_i j hj
    cases hj.symm.trans h
    rfl

private theorem clone_of_none (h : p.targets[handle]? = none) : p.clone handle = p := by
  unfold clone
  split
  · rfl
  · rename_i hsome
    cases hsome.symm.trans h

@[simp] theorem targets_write (p : Pool) (handle : Nat) (text : String) :
    (p.write handle text).targets = p.targets := by
  unfold write
  split
  · rfl
  · rfl

private theorem captures_write (h : p.targets[handle]? = some i) (text : String) :
    (p.write handle text).captures = p.captures.modify i (·.write text) := by
  unfold write
  rw [h]

private theorem write_of_none (h : p.targets[handle]? = none) (text : String) : p.write handle text = p := by
  unfold write
  rw [h]

end Pool

/-! ### One capture for a family -/

/-- One capture belongs to the family: all its members are handles on it and no others are, and it is what `start`
becomes by their texts. -/
structure Holds (p : Pool) (start : Capture) (f : Family) : Prop where
  next : f.next = p.handles
  shared : ∃ i, (∀ handle, p.targets[handle]? = some i ↔ handle ∈ f.members) ∧
    p.captures[i]? = some (start.writeAll f.texts)

private theorem getElem?_concat_eq_some_iff {l : List Nat} {a b j : Nat} :
    (l ++ [a])[j]? = some b ↔ l[j]? = some b ∨ j = l.length ∧ a = b := by
  rcases Nat.lt_trichotomy j l.length with h | rfl | h
  · rw [List.getElem?_append_left h]
    simp [Nat.ne_of_lt h]
  · simp
  · rw [List.getElem?_eq_none (by simpa using Nat.succ_le_of_lt h), List.getElem?_eq_none (Nat.le_of_lt h)]
    simp [Nat.ne_of_gt h]

namespace Holds

variable {p : Pool} {start : Capture} {f : Family}

private theorem create (h : Holds p start f) (maxLines maxLineChars : Nat) :
    Holds (p.create maxLines maxLineChars) start (f.step (.create maxLines maxLineChars)) := by
  obtain ⟨i, hmembers, hcapture⟩ := h.shared
  have hi : i < p.captures.length := (List.getElem?_eq_some_iff.1 hcapture).1
  refine ⟨?_, i, fun handle => ?_, ?_⟩
  · simp [Family.step, Pool.create, Pool.handles, h.next]
  · change (p.targets ++ [p.captures.length])[handle]? = some i ↔ handle ∈ f.members
    rw [getElem?_concat_eq_some_iff, hmembers]
    exact ⟨fun hor => hor.resolve_right fun hnew => Nat.ne_of_gt hi hnew.2, .inl⟩
  · change (p.captures ++ [Capture.empty maxLines maxLineChars])[i]? = _
    rw [List.getElem?_append_left hi, hcapture]
    rfl

private theorem clone (h : Holds p start f) (handle : Nat) : Holds (p.clone handle) start (f.step (.clone handle)) := by
  obtain ⟨i, hmembers, hcapture⟩ := h.shared
  cases htarget : p.targets[handle]? with
  | none =>
    have hnot : handle ∉ f.members := fun hmem => by cases htarget.symm.trans ((hmembers handle).2 hmem)
    have hge : ¬handle < f.next := by
      rw [h.next, Nat.not_lt]
      exact List.getElem?_eq_none_iff.1 htarget
    rw [Pool.clone_of_none htarget, Family.step, if_neg hnot, if_neg hge]
    exact h
  | some j =>
    have hlt : handle < f.next := by
      rw [h.next]
      exact (List.getElem?_eq_some_iff.1 htarget).1
    have hnext : f.next + 1 = (p.clone handle).handles := by
      rw [h.next, Pool.handles, Pool.handles, Pool.targets_clone htarget, List.length_append, List.length_singleton]
    by_cases hmem : handle ∈ f.members
    · -- the clone of a member is a member
      cases htarget.symm.trans ((hmembers handle).2 hmem)
      rw [Family.step, if_pos hmem]
      refine ⟨hnext, i, fun handle' => ?_, by rwa [Pool.captures_clone]⟩
      rw [Pool.targets_clone htarget, getElem?_concat_eq_some_iff, hmembers, List.mem_append, List.mem_singleton,
        h.next]
      exact or_congr_right (and_iff_left rfl)
    · have hne : j ≠ i := by
        rintro rfl
        exact hmem ((hmembers handle).1 htarget)
      rw [Family.step, if_neg hmem, if_pos hlt]
      refine ⟨hnext, i, fun handle' => ?_, by rwa [Pool.captures_clone]⟩
      rw [Pool.targets_clone htarget, getElem?_concat_eq_some_iff, hmembers]
      exact ⟨fun hor => hor.resolve_right fun hnew => hne hnew.2, .inl⟩

private theorem write (h : Holds p start f) (handle : Nat) (text : String) :
    Holds (p.write handle text) start (f.step (.write handle text)) := by
  -- only a write through a member reaches the capture of the family
  obtain ⟨i, hmembers, hcapture⟩ := h.shared
  have hhandles : (p.write handle text).handles = p.handles := by rw [Pool.handles, Pool.targets_write, Pool.handles]
  rw [Family.step]
  split
  · rename_i hmem
    refine ⟨h.next.trans hhandles.symm, i, fun handle' => by rw [Pool.targets_write, hmembers], ?_⟩
    rw [Pool.captures_write ((hmembers handle).2 hmem), List.getElem?_modify_eq, hcapture, writeAll_append]
    rfl
  · rename_i hnot
    refine ⟨h.next.trans hhandles.symm, i, fun handle' => by rw [Pool.targets_write, hmembers], ?_⟩
    cases htarget : p.targets[handle]? with
    | none => rwa [Pool.write_of_none htarget]
    | some j =>
      have hne : j ≠ i := by
        rintro rfl
        exact hnot ((hmembers handle).1 htarget)
      rwa [Pool.captures_write htarget, List.getElem?_modify_ne _ _ hne]

private theorem step (h : Holds p start f) (s : Pool.Step) : Holds (p.step s) start (f.step s) := by
  cases s with
  | create maxLines maxLineChars => exact h.create maxLines maxLineChars
  | clone handle => exact h.clone handle
  | write handle text => exact h.write handle text

theorem run (h : Holds p start f) (steps : List Pool.Step) : Holds (p.run steps) start (f.run steps) := by
  induction steps generalizing p f with
  | nil => exact h
  | cons s steps ih => exact ih (h.step s)

private theorem capture?_eq (h : Holds p start f) {handle : Nat} (hmem : handle ∈ f.members) :
    p.capture? handle = some (start.writeAll f.texts) := by
  obtain ⟨i, hmembers, hcapture⟩ := h.shared
  rw [Pool.capture?, (hmembers handle).2 hmem]
  exact hcapture

end Holds

/-- A new handle is alone on a capture without lines. -/
private theorem holds_create (p : Pool) (maxLines maxLineChars : Nat) :
    Holds (p.create maxLines maxLineChars) (empty maxLines maxLineChars) (Family.alone p.handles) := by
  refine ⟨?_, p.captures.length, fun handle => ?_, ?_⟩
  · simp [Family.alone, Pool.create, Pool.handles]
  · change (p.targets ++ [p.captures.length])[handle]? = some p.captures.length ↔ handle ∈ [p.targets.length]
    have hold : p.targets[handle]? ≠ some p.captures.length := fun h =>
      Nat.lt_irrefl _ (p.targets_lt _ (List.mem_of_getElem? h))
    rw [getElem?_concat_eq_some_iff, List.mem_singleton]
    exact ⟨fun hor => (hor.resolve_left hold).1, fun heq => .inr ⟨heq, rfl⟩⟩
  · change (p.captures ++ [empty maxLines maxLineChars])[p.captures.length]? = _
    rw [List.getElem?_concat_length]
    rfl

/-- Through every clone of a handle the same is seen: the first texts that were written through any of the clones, in
order, each whole or cut between two characters, and how many more there were. -/
theorem clones_agree (p : Pool) (maxLines maxLineChars : Nat) (steps : List Pool.Step) :
    let family := (Family.alone p.handles).run steps
    let n := family.texts.length
    ∃ c, (∀ handle ∈ family.members, ((p.create maxLines maxLineChars).run steps).capture? handle = some c) ∧
      List.Forall₂ (KeptAs maxLineChars) (family.texts.take (min n maxLines)) c.lines ∧
      c.dropped = n - min n maxLines ∧ c.size = min n maxLines ∧ (c.isEmpty = true ↔ min n maxLines = 0) ∧
      ∀ line ∈ c.lines, line.length ≤ maxLineChars + truncationMarker.length := by
  intro family n
  have hholds := (holds_create p maxLines maxLineChars).run steps
  have hlines := lines_writeAll_empty maxLines maxLineChars family.texts
  have htake : family.texts.take (min n maxLines) = family.texts.take maxLines := by
    rw [Nat.min_comm, ← List.take_take, List.take_length]
  have hkept : List.Forall₂ (KeptAs maxLineChars) (family.texts.take (min n maxLines))
      ((empty maxLines maxLineChars).writeAll family.texts).lines := by
    rw [hlines, htake, List.forall₂_map_right_iff]
    exact List.forall₂_same.2 fun text _ => keptAs_cut maxLineChars text
  have hsize : ((empty maxLines maxLineChars).writeAll family.texts).size = min n maxLines := by
    have hlength := hkept.length_eq
    rw [List.length_take_of_le (Nat.min_le_left _ _)] at hlength
    exact hlength.symm
  have hcount : min n maxLines + ((empty maxLines maxLineChars).writeAll family.texts).dropped = n := by
    rw [← hsize, size_add_dropped_writeAll]
    exact Nat.zero_add n
  refine ⟨_, fun handle hmem => hholds.capture?_eq hmem, hkept, ?_, hsize, ?_, fun line hline => ?_⟩
  · exact Nat.eq_sub_of_add_eq' hcount
  · rw [isEmpty, hsize, beq_iff_eq]
  · rw [hlines] at hline
    obtain ⟨text, -, rfl⟩ := List.mem_map.1 hline
    exact (keptAs_cut maxLineChars text).length_le

/-- What is written through a clone is seen through the first handle. -/
example : ((Pool.empty.create 1 3).run [.clone 0, .write 1 "ééééé", .write 0 "b"]).capture? 0 =
    some ⟨1, 3, #["ééé..."], 1⟩ := by decide

end Sandscript.Capture
