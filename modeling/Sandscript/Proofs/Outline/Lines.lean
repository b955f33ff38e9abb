import Sandscript.Proofs.Outline.Entries
import Sandscript.Proofs.Text.Trimming

/-!
# The lines of an outline

An outline consists of the lines of its entries, the last of them without the white space at its end
(`toList_format_pretty`).  Texts are written as they are: the lines of an outline are those of its entries exactly if no
line feed stands in them (`splitOn_format_pretty`), which is so if it stands in no key and in no text of the value
(`Lacks`).
-/

namespace Sandscript

open Value (Step)

namespace Json

/-! ### Characters of a value -/

/-- A character stands neither in the text nor in the keys of a value. -/
def SpellsWithout (c : Char) : Json → Prop
  | str s => c ∉ s.toList
  | obj fields => ∀ f ∈ fields, c ∉ f.1.toList
  | _ => True

/-- A character stands in no text and in no key of a value, at any depth. -/
def Lacks (c : Char) (v : Json) : Prop := v.Every (SpellsWithout c)

private theorem exists_mem_of_mem_sortedFields {fields : List (String × Json)} {f : String × Json}
    (h : f ∈ sortedFields fields) : ∃ g ∈ fields, g.1 = f.1 := by
  induction fields with
  | nil => cases h
  | cons p rest ih =>
    rcases Fields.mem_insert h with rfl | h
    · exact ⟨p, List.mem_cons_self, rfl⟩
    · obtain ⟨g, hg, heq⟩ := ih h
      exact ⟨g, List.mem_cons_of_mem p hg, heq⟩

theorem SpellsWithout.sorted {c : Char} {v : Json} (h : v.SpellsWithout c) : v.sorted.SpellsWithout c := by
  cases v with
  | obj fields =>
    intro f hf
    obtain ⟨g, hg, heq⟩ := exists_mem_of_mem_sortedFields hf
    exact heq ▸ h g hg
  | arr items => trivial
  | _ => exact h

theorem Lacks.sorted {c : Char} {v : Json} (h : v.Lacks c) : v.sorted.Lacks c :=
  Every.sorted (fun _ => SpellsWithout.sorted) v h

end Json

namespace Outline

/-- A character does not stand in a step by a key. -/
def StepLacks (c : Char) : Step → Prop
  | .item _ => True
  | .entry key => c ∉ key.toList

private theorem stepLacks_of_at? {c : Char} {v w : Json} (h : v.Lacks c) {step : Step} (hw : v.at? [step] = some w) :
    StepLacks c step := by
  cases step with
  | item index => trivial
  | entry key =>
    cases v with
    | obj fields =>
      obtain ⟨u, hu, -⟩ := Option.bind_eq_some_iff.1 hw
      exact h.self _ (Fields.mem_of_get? hu)
    | _ => cases hw

/-- A character that a value lacks stands in none of its entries. -/
theorem lacks_of_mem_entries {c : Char} {v : Json} (h : v.Lacks c) (hordered : v.Every Json.IsOrdered)
    {outer : List Step} {step : Step} {w : Json} (he : ⟨outer, step, w⟩ ∈ entries v) :
    StepLacks c step ∧ w.Lacks c := by
  induction outer generalizing v with
  | nil =>
    have hw := (mem_entries_iff hordered).1 he
    exact ⟨stepLacks_of_at? h hw, h.at? hw⟩
  | cons t outer ih =>
    obtain ⟨s, u, hu, hreached⟩ := (mem_entries_iff_reached hordered.self).1 he
    obtain ⟨rfl, hinner⟩ := mem_reached_cons_iff.1 hreached
    exact ih (h.at? hu) (hordered.at? hu) hinner

/-! ### White space at the end -/

/-- Lines of which the last has no white space at its end. -/
def trimLast : List (List Char) → List (List Char)
  | [] => []
  | [line] => [Text.trimRight line]
  | line :: next :: rest => line :: trimLast (next :: rest)

private theorem length_trimLast (lines : List (List Char)) : (trimLast lines).length = lines.length := by
  induction lines using trimLast.induct with
  | case1 => rfl
  | case2 line => rfl
  | case3 line next rest ih => rw [trimLast, List.length_cons, ih, ← List.length_cons]

theorem intercalate_trimLast_cons (line next : List Char) (rest : List (List Char)) :
    ['\n'].intercalate (trimLast (line :: next :: rest)) =
      line ++ ['\n'] ++ ['\n'].intercalate (trimLast (next :: rest)) := by
  obtain ⟨first, more, hsplit⟩ : ∃ first more, trimLast (next :: rest) = first :: more :=
    List.exists_cons_of_length_pos (by simp [length_trimLast])
  rw [trimLast, hsplit, List.intercalate_cons_cons]

/-- What the trimmed lines hold, the lines hold. -/
private theorem exists_mem_of_mem_trimLast {lines : List (List Char)} {l : List Char} (h : l ∈ trimLast lines)
    {c : Char} (hc : c ∈ l) : ∃ line ∈ lines, c ∈ line := by
  induction lines using trimLast.induct with
  | case1 => cases h
  | case2 line =>
    cases List.mem_singleton.1 h
    exact ⟨line, List.mem_singleton_self line, Text.mem_of_mem_trimRight hc⟩
  | case3 line next rest ih =>
    rcases List.mem_cons.1 h with rfl | h
    · exact ⟨l, List.mem_cons_self, hc⟩
    · obtain ⟨found, hfound, hmem⟩ := ih h
      exact ⟨found, List.mem_cons_of_mem line hfound, hmem⟩

/-- White space at the end of lines that are not blank is that of the last line and its line feed. -/
private theorem trimRight_flatMap {lines : List (List Char)} (h : ∀ l ∈ lines, ∃ c ∈ l, Text.isBlankChar c = false) :
    Text.trimRight (lines.flatMap (· ++ ['\n'])) = ['\n'].intercalate (trimLast lines) := by
  have hfeed : Text.AllBlank ['\n'] := by decide
  induction lines using trimLast.induct with
  | case1 => rfl
  | case2 line =>
    rw [List.flatMap_singleton, Text.trimRight_append hfeed, trimLast, List.intercalate_singleton]
  | case3 line next rest ih =>
    have hrest := ih fun l hl => h l (List.mem_cons_of_mem line hl)
    obtain ⟨c, hmem, hc⟩ := h next (List.mem_cons_of_mem line List.mem_cons_self)
    have hnext : c ∈ (next :: rest).flatMap (· ++ ['\n']) :=
      List.mem_flatMap.2 ⟨next, List.mem_cons_self, List.mem_append_left _ hmem⟩
    rw [List.flatMap_cons, Text.trimRight_append_of_mem hc hnext, hrest, intercalate_trimLast_cons]

/-! ### Labels -/

/-- The mark at the end of a label. -/
def mark : Step → Char
  | .item _ => '-'
  | .entry _ => ':'

private theorem exists_label_eq (color : Bool) (step : Step) : ∃ front, label color step = front ++ [mark step] := by
  cases step with
  | item index => exact ⟨[], rfl⟩
  | entry key => exact ⟨_, rfl⟩

private theorem isBlankChar_mark (step : Step) : Text.isBlankChar (mark step) = false := by
  cases step <;> rfl

/-- The mark of a line is not lost with the white space at its end. -/
theorem trimRight_line (color : Bool) (e : Entry) :
    Text.trimRight (e.line color) =
      indent e.outer.length ++ (label color e.step ++ Text.trimRight (content color e.value)) := by
  obtain ⟨front, hfront⟩ := exists_label_eq color e.step
  have hline : e.line color = (indent e.outer.length ++ front) ++ mark e.step :: content color e.value := by
    rw [Entry.line, hfront]
    simp
  rw [hline, Text.trimRight_append_cons (isBlankChar_mark e.step), hfront]
  simp

private theorem exists_mem_line (color : Bool) (e : Entry) : ∃ c ∈ e.line color, Text.isBlankChar c = false := by
  obtain ⟨front, hfront⟩ := exists_label_eq color e.step
  refine ⟨mark e.step, ?_, isBlankChar_mark e.step⟩
  rw [Entry.line, hfront]
  simp

/-! ### Lines -/

private theorem isNested_sorted (v : Json) : isNested v.sorted = isNested v := by
  cases v with
  | arr items =>
    cases items with
    | nil => rfl
    | cons w rest => rfl
  | obj fields =>
    cases fields with
    | nil => rfl
    | cons f rest =>
      have hkey : f.1 ∈ Fields.keys (Json.sortedFields (f :: rest)) := Fields.mem_keys_insert (.inl rfl)
      rw [Json.sorted]
      cases hsorted : Json.sortedFields (f :: rest) with
      | nil =>
        rw [hsorted] at hkey
        cases hkey
      | cons g more => rfl
  | _ => rfl

private theorem toList_render {v : Json} (h : isNested v = true) (color : Bool) :
    (render color v).toList = Text.trimRight (((entries v).map (Entry.line color)).flatMap (· ++ ['\n'])) := by
  have hlines : block color 0 v = (entries v).map (Entry.line color) := block_eq_map_line color v h 0
  cases v with
  | arr items => rw [render, String.toList_ofList, hlines]
  | obj fields => rw [render, String.toList_ofList, hlines]
  | _ => cases h

/-- An outline consists of the lines of its entries. -/
theorem toList_format_pretty {v : Json} (h : isNested v = true) (color : Bool) : (v.format .pretty color).toList =
    ['\n'].intercalate (trimLast ((entries v.sorted).map (Entry.line color))) := by
  have hmarked : ∀ l ∈ (entries v.sorted).map (Entry.line color), ∃ c ∈ l, Text.isBlankChar c = false :=
    List.forall_mem_map.2 fun e _ => exists_mem_line color e
  rw [Json.format, toList_render (by rwa [isNested_sorted]), trimRight_flatMap hmarked]

private theorem newline_notMem_scalar {v : Json} (h : v.SpellsWithout '\n') : '\n' ∉ scalar false v := by
  cases v with
  | null => decide
  | bool b => cases b <;> decide
  | num n =>
    intro hmem
    have hnumber := Json.isNumberChar_of_mem_chars hmem
    contradiction
  | str s => exact h
  | arr items | obj fields => simp [scalar, Style.paint]

private theorem newline_notMem_line {e : Entry} (hstep : StepLacks '\n' e.step) (hvalue : e.value.Lacks '\n') :
    '\n' ∉ e.line false := by
  have hindent : '\n' ∉ indent e.outer.length := fun hmem => absurd (List.eq_of_mem_replicate hmem) (by decide)
  have hlabel : '\n' ∉ label false e.step := by
    cases hs : e.step with
    | item index => simp [label]
    | entry key =>
      have hkey : '\n' ∉ key.toList := by rwa [hs] at hstep
      simpa [label, Style.paint] using hkey
  have hcontent : '\n' ∉ content false e.value := by
    rw [content]
    split
    · exact List.not_mem_nil
    · simpa using newline_notMem_scalar hvalue.self
  rw [Entry.line, List.mem_append, List.mem_append]
  exact not_or.2 ⟨hindent, not_or.2 ⟨hlabel, hcontent⟩⟩

/-- The lines of an outline are those of its entries as long as none of these contains a line feed. -/
theorem splitOn_format_pretty {v : Json} (h : isNested v = true) :
    ∃ es, Lists v es ∧
      ((v.format .pretty false).toList.splitOn '\n' = trimLast (es.map (Entry.line false)) ↔
        ∀ l ∈ trimLast (es.map (Entry.line false)), '\n' ∉ l) ∧
      (v.Lacks '\n' → (v.format .pretty false).toList.splitOn '\n' = trimLast (es.map (Entry.line false))) := by
  have hne : trimLast ((entries v.sorted).map (Entry.line false)) ≠ [] := by
    rw [← List.length_pos_iff, length_trimLast, List.length_map, List.length_pos_iff]
    exact entries_ne_nil (by rwa [isNested_sorted])
  have hsplit : (v.format .pretty false).toList.splitOn '\n' = trimLast ((entries v.sorted).map (Entry.line false)) ↔
      ∀ l ∈ trimLast ((entries v.sorted).map (Entry.line false)), '\n' ∉ l := by
    rw [toList_format_pretty h]
    refine ⟨fun heq l hl => ?_, fun hfree => List.splitOn_intercalate '\n' hfree hne⟩
    exact Text.notMem_of_mem_splitOn (heq ▸ hl)
  refine ⟨entries v.sorted, lists_entries v, hsplit, fun hlacks => hsplit.2 fun l hl hmem => ?_⟩
  obtain ⟨line, hline, hfeed⟩ := exists_mem_of_mem_trimLast hl hmem
  obtain ⟨e, he, rfl⟩ := List.mem_map.1 hline
  obtain ⟨hstep, hvalue⟩ := lacks_of_mem_entries hlacks.sorted (Json.every_isOrdered_sorted v) he
  exact newline_notMem_line hstep hvalue hfeed

theorem splitOn_format_pretty_of_nested :
    isNested (.obj [("console", .arr [.str "hi"])]) = true ∧ Json.Lacks '\n' (.obj [("console", .arr [.str "hi"])]) ∧
      ∃ es, Lists (.obj [("console", .arr [.str "hi"])]) es ∧
        (Json.format (.obj [("console", .arr [.str "hi"])]) .pretty false).toList.splitOn '\n' =
          trimLast (es.map (Entry.line false)) := by
  have hlacks : Json.Lacks '\n' (.obj [("console", .arr [.str "hi"])]) := by
    simp [Json.Lacks, Json.Every, Json.EveryItem, Json.EveryField, Json.SpellsWithout]
  obtain ⟨es, hes, -, hlines⟩ := splitOn_format_pretty (v := .obj [("console", .arr [.str "hi"])]) rfl
  exact ⟨rfl, hlacks, es, hes, hlines hlacks⟩

/-- A line feed in a text starts a line like that of an entry, and white space at the end of the last line is lost. -/
theorem outline_forged :
    Json.format (.obj [("a", .str "x\nb: y")]) .pretty false =
        Json.format (.obj [("a", .str "x"), ("b", .str "y")]) .pretty false ∧
      ¬(∃ es, Lists (.obj [("a", .str "x\nb: y")]) es ∧
        (Json.format (.obj [("a", .str "x\nb: y")]) .pretty false).toList.splitOn '\n' =
          es.map (Entry.line false)) ∧
      ¬(∃ es, Lists (.obj [("a", .str "x ")]) es ∧
        (Json.format (.obj [("a", .str "x ")]) .pretty false).toList.splitOn '\n' = es.map (Entry.line false)) := by
  refine ⟨by decide, ?_, ?_⟩
  · rintro ⟨es, hes, hsplit⟩
    have hentry : ⟨[], .entry "a", .str "x\nb: y"⟩ ∈ es := (hes.mem_iff _).2 rfl
    have hline := List.mem_map_of_mem (f := Entry.line false) hentry
    rw [← hsplit] at hline
    exact absurd hline (by decide)
  · rintro ⟨es, hes, hsplit⟩
    have hentry : ⟨[], .entry "a", .str "x "⟩ ∈ es := (hes.mem_iff _).2 rfl
    have hline := List.mem_map_of_mem (f := Entry.line false) hentry
    rw [← hsplit] at hline
    exact absurd hline (by decide)

end Outline

end Sandscript
