import Mathlib.Data.List.Basic
import Sandscript.Command.Surroundings
import Sandscript.Proofs.Text.Bytes

/-!
# The files that a command sees

What a command may rely on is that reading, stamping a batch and looking at the clock leave the files alone, and that a
file that was written reads back as it was written (`Surroundings.Files`).  The files of a folder are of this kind
(`Folder.asFiles`): a successful write keeps every directory a directory, so the path that was written leads to the
same place afterwards.
-/

namespace Sandscript

/-- What the state of the surroundings tells about the files, and the laws that reading and writing obey. -/
structure Surroundings.Files {σ : Type} (s : Surroundings (StateM σ)) (F : Type) where
  view : σ → F
  text : F → String → Except FileProblem String
  readText_fst : ∀ w path, ((s.readText path).run w).1 = text (view w) path
  view_readText : ∀ w path, view ((s.readText path).run w).2 = view w
  view_newBatch : ∀ w, view (s.newBatch.run w).2 = view w
  view_milliseconds : ∀ w, view (s.milliseconds.run w).2 = view w
  text_writeText : ∀ w path contents, ((s.writeText path contents).run w).1 = .ok () →
    text (view ((s.writeText path contents).run w).2) path = .ok contents

/-! ### Writing into a folder -/

namespace Folder

variable {f : Folder} {target here : List String} {bytes : List UInt8}

/-- The folder with a file at a place, in the place of what was there. -/
def put (f : Folder) (target : List String) (bytes : List UInt8) : Folder :=
  { f with files := (target, bytes) :: f.files.filter (·.1 != target) }

private theorem entry?_put_self : Folder.entry? (f.put target bytes) target = some (.file bytes) := by
  unfold entry? put
  rw [List.find?_cons_of_pos (by simp)]

private theorem find?_put_of_ne (h : here ≠ target) :
    (f.put target bytes).files.find? (·.1 == here) = f.files.find? (·.1 == here) := by
  unfold put
  rw [List.find?_cons_of_neg (by simpa using Ne.symm h), List.find?_filter]
  refine congrFun (congrArg List.find? (funext fun file => ?_)) _
  by_cases hfile : file.1 = here
  · simp [hfile, h]
  · simp [hfile]

/-- A directory stays one. -/
private theorem entry?_put_of_directory (hhere : f.entry? here = some .directory)
    (htarget : f.entry? target ≠ some .directory) :
    Folder.entry? (f.put target bytes) here = some .directory := by
  have hne : here ≠ target := fun h => htarget (h ▸ hhere)
  unfold entry? at hhere ⊢
  rw [find?_put_of_ne hne]
  cases hfind : f.files.find? (·.1 == here) with
  | some file => simp [hfind] at hhere
  | none =>
    rw [hfind] at hhere
    by_cases hbelow : (here.isEmpty || f.files.any fun file => here.isPrefixOf file.1) = true
    · refine if_pos ?_
      rw [Bool.or_eq_true, List.any_eq_true] at hbelow ⊢
      rcases hbelow with hempty | ⟨file, hfile, hprefix⟩
      · exact .inl hempty
      · right
        by_cases hplace : file.1 = target
        · exact ⟨(target, bytes), List.mem_cons_self, hplace ▸ hprefix⟩
        · exact ⟨file, List.mem_cons_of_mem _ (List.mem_filter.mpr ⟨hfile, by simpa using hplace⟩), hprefix⟩
    · cases (if_neg hbelow).symm.trans hhere

/-- A path still leads where it led. -/
private theorem follow_put {parts place : List String} (h : f.follow parts here = .ok place)
    (htarget : f.entry? target ≠ some .directory) : (f.put target bytes).follow parts here = .ok place := by
  induction parts generalizing here with
  | nil => exact h
  | cons part rest ih =>
    unfold follow at h ⊢
    cases hentry : f.entry? here with
    | none => simp [hentry] at h
    | some entry =>
      cases entry with
      | file bytes => simp [hentry] at h
      | directory =>
        rw [entry?_put_of_directory hentry htarget]
        simp only [hentry] at h
        dsimp only
        by_cases hstay : (part == "" || part == ".") = true
        · rw [if_pos hstay] at h ⊢
          exact ih h
        · rw [if_neg hstay] at h ⊢
          by_cases hup : (part == "..") = true
          · rw [if_pos hup] at h ⊢
            by_cases htop : here.isEmpty = true
            · rw [if_pos htop] at h
              cases h
            · rw [if_neg htop] at h ⊢
              exact ih h
          · rw [if_neg hup] at h ⊢
            exact ih h

private theorem locate_put {path : String} {place : List String} (h : f.locate path = .ok place)
    (htarget : f.entry? target ≠ some .directory) : (f.put target bytes).locate path = .ok place := by
  unfold locate at h ⊢
  by_cases hempty : path.isEmpty = true
  · rw [if_pos hempty] at h
    cases h
  · rw [if_neg hempty] at h ⊢
    dsimp only at h ⊢
    by_cases hroot : path.startsWith "/" = true
    · rw [if_pos hroot] at h ⊢
      by_cases hwithin : f.place.isPrefixOf (path.splitOn "/").tail = true
      · rw [if_pos hwithin] at h
        exact (if_pos hwithin).trans (follow_put h htarget)
      · rw [if_neg hwithin] at h
        cases h
    · rw [if_neg hroot] at h ⊢
      exact follow_put h htarget

private theorem write_eq_ok {path contents : String} {g : Folder} (h : f.write path contents = .ok g) :
    ∃ place, f.locate path = .ok place ∧ f.entry? place ≠ some .directory ∧
      g = f.put place contents.toUTF8.toList := by
  unfold write at h
  cases hlocate : f.locate path with
  | error e =>
    rw [hlocate] at h
    cases h
  | ok place =>
    rw [hlocate] at h
    dsimp only [bind, Except.bind] at h
    split at h
    next => cases h
    next hentry =>
      cases h
      exact ⟨place, rfl, hentry, rfl⟩

theorem text_of_entry? {path contents : String} {place : List String} (hlocate : f.locate path = .ok place)
    (hentry : f.entry? place = some (.file contents.toUTF8.toList)) : f.text path = .ok contents := by
  have hbytes : f.bytes path = .ok contents.toUTF8.toList := by
    unfold Folder.bytes
    rw [hlocate]
    dsimp only [bind, Except.bind]
    rw [hentry]
  unfold text
  rw [hbytes]
  dsimp only [bind, Except.bind]
  rw [Text.fromUTF8?_toList_toUTF8]

/-- What was written to a path is what is read from it. -/
private theorem text_of_write {path contents : String} {g : Folder} (h : f.write path contents = .ok g) :
    g.text path = .ok contents := by
  obtain ⟨place, hlocate, hentry, rfl⟩ := write_eq_ok h
  exact text_of_entry? (locate_put hlocate hentry) entry?_put_self

variable (stamp : BatchId × Timestamp) (userPolicy policyVariable : Option String)

theorem run_writeText_of_ok {path contents : String} {g : Folder} (h : f.write path contents = .ok g) :
    ((surroundings stamp userPolicy policyVariable).writeText path contents).run f = (.ok (), g) := by
  simp [surroundings, h]
  rfl

/-- The files of a folder. -/
def asFiles : (surroundings stamp userPolicy policyVariable).Files Folder where
  view f := f
  text := Folder.text
  readText_fst _ _ := rfl
  view_readText _ _ := rfl
  view_newBatch _ := rfl
  view_milliseconds _ := rfl
  text_writeText f path contents h := by
    cases hwrite : f.write path contents with
    | error e => simp [surroundings, hwrite] at h
    | ok g =>
      rw [run_writeText_of_ok stamp userPolicy policyVariable hwrite]
      exact text_of_write hwrite

/-! ### Files beside each other -/

/-- A name leads to what the folder has under it. -/
theorem locate_of_name {name : String} (hparts : name.splitOn "/" = [name])
    (hname : (name.isEmpty || name.startsWith "/" || name == "" || name == "." || name == "..") = false)
    (hroot : f.entry? [] = some .directory) : f.locate name = .ok [name] := by
  simp only [Bool.or_eq_false_iff] at hname
  obtain ⟨⟨⟨⟨hempty, hslash⟩, hnone⟩, hhere⟩, hup⟩ := hname
  unfold locate
  simp only [hempty, hslash, hparts, follow, hroot, hnone, hhere, hup]
  rfl

theorem write_of_locate {path contents : String} {place : List String} (hlocate : f.locate path = .ok place)
    (hentry : f.entry? place = none) : f.write path contents = .ok (f.put place contents.toUTF8.toList) := by
  unfold write
  rw [hlocate]
  dsimp only [bind, Except.bind]
  rw [hentry]
  rfl

end Folder

end Sandscript
