import Sandscript.Capture

/-!
# What a capture keeps

A capture never holds more lines than it may (`Capture.Fits`), and what it holds after some writes is what it held
before and, as long as there is room, the new lines in order, each cut (`lines_writeAll`).  No line is lost without
being counted (`size_add_dropped_writeAll`).
-/

namespace Sandscript.Capture

/-- There are at most as many lines as may be kept. -/
def Fits (c : Capture) : Prop := c.size ≤ c.maxLines

private theorem fits_empty (maxLines maxLineChars : Nat) : (empty maxLines maxLineChars).Fits := Nat.zero_le _

section

variable {c : Capture}

private theorem write_of_full (h : c.maxLines ≤ c.size) (text : String) :
    c.write text = { c with dropped := c.dropped + 1 } := by
  rw [write, if_pos h]

private theorem write_of_room (h : c.size < c.maxLines) (text : String) :
    c.write text = { c with kept := c.kept.push (cut c.maxLineChars text) } := by
  rw [write, if_neg (Nat.not_le.2 h)]

/-- A write changes neither of the limits. -/
@[simp] theorem maxLines_write (c : Capture) (text : String) : (c.write text).maxLines = c.maxLines := by
  unfold write
  split
  · rfl
  · rfl

@[simp] theorem maxLineChars_write (c : Capture) (text : String) : (c.write text).maxLineChars = c.maxLineChars := by
  unfold write
  split
  · rfl
  · rfl

/-- Every write counts: its line is kept or dropped. -/
private theorem size_add_dropped_write (c : Capture) (text : String) :
    (c.write text).size + (c.write text).dropped = c.size + c.dropped + 1 := by
  rcases Nat.lt_or_ge c.size c.maxLines with h | h
  · rw [write_of_room h]
    simp only [size, Array.size_push]
    omega
  · rw [write_of_full h]
    simp only [size]
    omega

private theorem fits_write (h : c.Fits) (text : String) : (c.write text).Fits := by
  unfold Fits at h ⊢
  rw [maxLines_write]
  rcases Nat.lt_or_ge c.size c.maxLines with hroom | hfull
  · rw [write_of_room hroom]
    simp only [size, Array.size_push] at hroom ⊢
    omega
  · rw [write_of_full hfull]
    exact h

end

/-! ### Several writes -/

theorem writeAll_append (c : Capture) (texts more : List String) :
    c.writeAll (texts ++ more) = (c.writeAll texts).writeAll more := List.foldl_append

theorem size_add_dropped_writeAll (c : Capture) (texts : List String) :
    (c.writeAll texts).size + (c.writeAll texts).dropped = c.size + c.dropped + texts.length := by
  induction texts generalizing c with
  | nil => rfl
  | cons text rest ih =>
    have hrest := ih (c.write text)
    rw [size_add_dropped_write] at hrest
    rw [List.length_cons]
    change ((c.write text).writeAll rest).size + ((c.write text).writeAll rest).dropped = _
    omega

/-- As many of the new lines are kept as there is room for. -/
theorem lines_writeAll {c : Capture} (h : c.Fits) (texts : List String) :
    (c.writeAll texts).lines = c.lines ++ (texts.take (c.maxLines - c.size)).map (cut c.maxLineChars) := by
  induction texts generalizing c with
  | nil => simp [writeAll]
  | cons text rest ih =>
    have hrest := ih (fits_write h text)
    change ((c.write text).writeAll rest).lines = _
    rw [hrest, maxLines_write, maxLineChars_write]
    rcases Nat.lt_or_ge c.size c.maxLines with hroom | hfull
    · -- there is room for this line
      obtain ⟨n, hn⟩ : ∃ n, c.maxLines - c.size = n + 1 := ⟨c.maxLines - c.size - 1, by omega⟩
      have hleft : c.maxLines - (c.write text).size = n := by
        rw [write_of_room hroom]
        simp only [size, Array.size_push] at hn ⊢
        omega
      rw [hleft, hn, write_of_room hroom]
      simp [lines]
    · have hnone : c.maxLines - c.size = 0 := by omega
      have hnone' : c.maxLines - (c.write text).size = 0 := by rw [write_of_full hfull]; exact hnone
      rw [hnone, hnone', write_of_full hfull]
      rfl

/-- A fresh capture keeps the first lines, each cut. -/
theorem lines_writeAll_empty (maxLines maxLineChars : Nat) (texts : List String) :
    ((empty maxLines maxLineChars).writeAll texts).lines = (texts.take maxLines).map (cut maxLineChars) :=
  lines_writeAll (fits_empty _ _) texts

end Sandscript.Capture
