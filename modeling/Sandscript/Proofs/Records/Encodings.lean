import Sandscript.Proofs.Json.ReadBack
import Sandscript.Records
import Mathlib.Data.List.TakeWhile

/-!
# The encodings of records

Records are written as an indented array, as a compact array, or with one compact object a line (`Ndjson`).  No compact
text holds a line feed, so that a line is never cut (`newline_not_mem_compactChars`), and the first character that is no
white space tells an array from lines.  All three are read as the same records (`read_encodings`).
-/

namespace Sandscript

namespace Json

/-! ### Compact texts stay on their line -/

private theorem newline_not_mem_escapeChar (x : Char) : '\n' ∉ escapeChar x := by
  have hdigit : ∀ i : Fin 16, '\n' ≠ Text.hexDigit i := by decide
  rcases escapeChar_cases x with ⟨y, hy, hx⟩ | ⟨-, hx⟩ | ⟨-, -, hhigh, hx⟩
  · rw [hx]
    simp only [shortEscapes, List.mem_cons, Prod.mk.injEq, List.not_mem_nil, or_false] at hy
    rcases hy with ⟨rfl, -⟩ | ⟨rfl, -⟩ | ⟨rfl, -⟩ | ⟨rfl, -⟩ | ⟨rfl, -⟩ | ⟨rfl, -⟩ | ⟨rfl, -⟩ <;> decide
  · rw [hx]
    simp only [Text.hexByte, List.mem_cons, List.not_mem_nil, or_false, not_or]
    exact ⟨by decide, by decide, by decide, by decide, hdigit ⟨x.toNat / 16 % 16, by omega⟩,
      hdigit ⟨x.toNat % 16, by omega⟩⟩
  · rw [hx]
    intro hmem
    rw [← List.mem_singleton.1 hmem] at hhigh
    exact absurd hhigh (by decide)

private theorem newline_not_mem_quote (s : String) : '\n' ∉ quote s := by
  intro h
  rw [quote, List.cons_append, List.mem_cons, List.mem_append, List.mem_flatMap, List.mem_singleton] at h
  rcases h with h | ⟨x, -, hx⟩ | h
  · cases h
  · exact newline_not_mem_escapeChar x hx
  · cases h

mutual

theorem newline_not_mem_compactChars : (v : Json) → '\n' ∉ v.compactChars
  | null => by decide
  | bool true => by decide
  | bool false => by decide
  | num _ => fun h => absurd (isNumberChar_of_mem_chars h) (by decide)
  | str s => newline_not_mem_quote s
  | arr items => by
    simp only [compactChars, List.mem_append, List.mem_cons, List.not_mem_nil, or_false, not_or]
    exact ⟨⟨by decide, newline_not_mem_compactItems items⟩, by decide⟩
  | obj fields => by
    simp only [compactChars, List.mem_append, List.mem_cons, List.not_mem_nil, or_false, not_or]
    exact ⟨⟨by decide, newline_not_mem_compactFields fields⟩, by decide⟩

private theorem newline_not_mem_compactItems : (items : List Json) → '\n' ∉ compactItems items
  | [] => List.not_mem_nil
  | [v] => newline_not_mem_compactChars v
  | v :: w :: rest => by
    rw [compactItems, List.mem_append, List.mem_cons, not_or, not_or]
    · exact ⟨newline_not_mem_compactChars v, by decide, newline_not_mem_compactItems (w :: rest)⟩
    · exact List.cons_ne_nil _ _

private theorem newline_not_mem_compactFields : (fields : List (String × Json)) → '\n' ∉ compactFields fields
  | [] => List.not_mem_nil
  | [(k, v)] => by
    rw [compactFields, List.mem_append, List.mem_cons, not_or, not_or]
    exact ⟨newline_not_mem_quote k, by decide, newline_not_mem_compactChars v⟩
  | (k, v) :: p :: rest => by
    rw [compactFields]
    · simp only [List.mem_append, List.mem_cons, not_or]
      exact ⟨⟨newline_not_mem_quote k, by decide, newline_not_mem_compactChars v⟩, by decide,
        newline_not_mem_compactFields (p :: rest)⟩
    · exact List.cons_ne_nil _ _

end

end Json

namespace Records

/-! ### Lines -/

/-- What a line may end in. -/
def lineEnds : List (List Char) := [['\n'], ['\r', '\n']]

theorem go_append {cs : List Char} (hcs : '\n' ∉ cs) (line rest : List Char) :
    lines.go line (cs ++ rest) = lines.go (cs.reverse ++ line) rest := by
  induction cs generalizing line with
  | nil => rfl
  | cons x cs ih =>
    obtain ⟨hx, hcs⟩ := not_or.1 (List.mem_cons.not.1 hcs)
    rw [List.cons_append, lines.go, ih hcs, List.reverse_cons, List.append_assoc, List.singleton_append]
    exact fun heq => hx heq.symm

/-- A line is found again in front of its end, less a carriage return that it ends in itself. -/
theorem lines_append {cs ending : List Char} (hcs : '\n' ∉ cs) (hend : ending ∈ lineEnds) (rest : List Char) :
    ∃ l, lines (cs ++ (ending ++ rest)) = l :: lines rest ∧ (l = cs ∨ cs = l ++ ['\r']) := by
  simp only [lineEnds, List.mem_cons, List.not_mem_nil, or_false] at hend
  unfold lines
  rw [go_append hcs, List.append_nil]
  rcases hend with rfl | rfl
  · cases hrev : cs.reverse with
    | nil =>
      rw [List.reverse_eq_nil_iff.1 hrev]
      exact ⟨[], rfl, .inl rfl⟩
    | cons x l =>
      have hcons : cs = l.reverse ++ [x] := by rw [← List.reverse_cons, ← hrev, List.reverse_reverse]
      by_cases hx : x = '\r'
      · subst hx
        exact ⟨l.reverse, rfl, .inr hcons⟩
      · refine ⟨cs, ?_, .inl rfl⟩
        rw [List.singleton_append, lines.go, List.reverse_cons, ← hcons]
        exact fun l' heq => hx (List.cons.inj heq).1
  · refine ⟨cs, ?_, .inl rfl⟩
    rw [List.cons_append, List.singleton_append, lines.go, lines.go, List.reverse_reverse]
    exact fun heq => by cases heq

/-- A last line without a line end is found as it is. -/
theorem lines_last {cs : List Char} (hcs : '\n' ∉ cs) (hne : cs ≠ []) : lines cs = [cs] := by
  have hgo := go_append hcs [] []
  rw [List.append_nil, List.append_nil] at hgo
  unfold lines
  rw [hgo, lines.go, List.isEmpty_reverse, List.reverse_reverse, if_neg (by rwa [List.isEmpty_iff])]

/-! ### One object a line -/

/-- A line of white space. -/
def IsBlankLine (cs : List Char) : Prop := '\n' ∉ cs ∧ cs.all Text.isBlankChar = true

/-- A text with one compact object a line, in which lines of white space may stand anywhere and the last line may do
without its end. -/
inductive Ndjson : List Record → List Char → Prop
  | empty : Ndjson [] []
  | lastBlank {line : List Char} (h : IsBlankLine line) : Ndjson [] line
  | last (r : Record) : Ndjson [r] (Json.obj r).compactChars
  | blank {line ending : List Char} {rs : List Record} {cs : List Char} (h : IsBlankLine line)
      (hend : ending ∈ lineEnds) (rest : Ndjson rs cs) : Ndjson rs (line ++ (ending ++ cs))
  | record (r : Record) {ending : List Char} {rs : List Record} {cs : List Char} (hend : ending ∈ lineEnds)
      (rest : Ndjson rs cs) : Ndjson (r :: rs) ((Json.obj r).compactChars ++ (ending ++ cs))

private theorem compactChars_obj (r : Record) :
    (Json.obj r).compactChars = '\x7b' :: (Json.compactFields r ++ ['\x7d']) := rfl

theorem fromLines_blank {line : List Char} (h : line.all Text.isBlankChar = true) (number : Nat)
    (rest : List (List Char)) : fromLines number (line :: rest) = fromLines (number + 1) rest := by
  conv => lhs; unfold fromLines
  exact if_pos h

private theorem fromLines_record {r : Record} {rs : List Record} (hr : Json.read (Json.obj r).compact = .ok (.obj r))
    {number : Nat} {rest : List (List Char)} (hrest : fromLines (number + 1) rest = .ok rs) :
    fromLines number ((Json.obj r).compactChars :: rest) = .ok (r :: rs) := by
  have hread : Json.read (String.ofList (Json.obj r).compactChars) = .ok (.obj r) := hr
  have hfirst : ¬(Json.obj r).compactChars.all Text.isBlankChar = true := by
    rw [compactChars_obj, List.all_cons]
    exact Bool.false_ne_true
  unfold fromLines
  rw [if_neg hfirst, hread]
  dsimp only
  rw [hrest]
  rfl

private theorem fromLines_lines {rs : List Record} {cs : List Char} (h : Ndjson rs cs)
    (hrs : ∀ r ∈ rs, Json.read (Json.obj r).compact = .ok (.obj r)) (number : Nat) :
    fromLines number (lines cs) = .ok rs := by
  induction h generalizing number with
  | empty => rfl
  | @lastBlank line h =>
    by_cases hne : line = []
    · subst hne
      rfl
    · rw [lines_last h.1 hne, fromLines_blank h.2]
      rfl
  | last r =>
    have hne : (Json.obj r).compactChars ≠ [] := by
      rw [compactChars_obj]
      exact List.cons_ne_nil _ _
    rw [lines_last (Json.newline_not_mem_compactChars _) hne]
    exact fromLines_record (hrs r List.mem_cons_self) rfl
  | @blank line ending rs cs h hend _ ih =>
    obtain ⟨l, hlines, hl⟩ := lines_append h.1 hend cs
    have hblank : l.all Text.isBlankChar = true := by
      rcases hl with rfl | hl
      · exact h.2
      · have hall := h.2
        rw [hl, List.all_append, Bool.and_eq_true] at hall
        exact hall.1
    rw [hlines, fromLines_blank hblank]
    exact ih hrs _
  | @record r ending rs cs hend _ ih =>
    obtain ⟨l, hlines, hl⟩ := lines_append (Json.newline_not_mem_compactChars (.obj r)) hend cs
    have hline : l = (Json.obj r).compactChars := by
      rcases hl with hl | hl
      · exact hl
      · rw [compactChars_obj, ← List.cons_append] at hl
        have hlast := (List.append_inj' hl rfl).2
        cases hlast
    rw [hlines, hline]
    exact fromLines_record (hrs r List.mem_cons_self) (ih (fun r hr => hrs r (List.mem_cons_of_mem _ hr)) _)

/-- White space is all that stands in front of the first object. -/
private theorem trimLeft_ne_bracket {rs : List Record} {cs : List Char} (h : Ndjson rs cs) (tail : List Char) :
    Text.trimLeft cs ≠ '[' :: tail := by
  have hobj : ∀ (r : Record) (more : List Char), Text.trimLeft ((Json.obj r).compactChars ++ more) ≠ '[' :: tail := by
    intro r more heq
    rw [compactChars_obj, List.cons_append, Text.trimLeft, List.dropWhile_cons_of_neg (by decide)] at heq
    cases heq
  induction h with
  | empty => exact List.cons_ne_nil _ _ ∘ Eq.symm
  | lastBlank h =>
    rw [Text.trimLeft, List.dropWhile_eq_nil_iff.2 fun x hx => List.all_eq_true.1 h.2 x hx]
    exact List.cons_ne_nil _ _ ∘ Eq.symm
  | last r =>
    have hlast := hobj r []
    rwa [List.append_nil] at hlast
  | @blank line ending rs cs h hend _ ih =>
    have hspace : ∀ x ∈ ending, Text.isBlankChar x = true := by
      simp only [lineEnds, List.mem_cons, List.not_mem_nil, or_false] at hend
      rcases hend with rfl | rfl <;> exact List.all_eq_true.1 rfl
    rw [Text.trimLeft, List.dropWhile_append_of_pos fun x hx => List.all_eq_true.1 h.2 x hx,
      List.dropWhile_append_of_pos hspace]
    exact ih
  | record r hend _ _ => exact hobj r _

/-! ### All encodings -/

theorem elements_map (rs : List Record) (index : Nat) : elements index (rs.map Json.obj) = .ok rs := by
  induction rs generalizing index with
  | nil => rfl
  | cons r rs ih =>
    rw [List.map_cons, elements, ih]
    rfl

private theorem read_array {s : String} {rs : List Record} {cs : List Char} (hstart : s.toList = '[' :: cs)
    (h : Json.read s = .ok (.arr (rs.map Json.obj))) : read s = .ok rs := by
  unfold read
  rw [hstart, Text.trimLeft, List.dropWhile_cons_of_neg (by decide), h]
  exact elements_map rs 0

private theorem read_ndjson {rs : List Record} {cs : List Char} (h : Ndjson rs cs)
    (hrs : ∀ r ∈ rs, Json.read (Json.obj r).compact = .ok (.obj r)) : read (String.ofList cs) = .ok rs := by
  unfold read
  rw [String.toList_ofList]
  split
  · rename_i heq
    exact absurd heq (trimLeft_ne_bracket h _)
  · exact fromLines_lines h hrs 1

private theorem every_of_mem {p : Json → Prop} {rs : List Record} (h : Json.EveryItem p (rs.map Json.obj)) {r : Record}
    (hr : r ∈ rs) : (Json.obj r).Every p := Json.everyItem_iff.1 h _ (List.mem_map_of_mem hr)

private theorem nesting_le_of_mem {rs : List Record} {r : Record} (hr : r ∈ rs) :
    (Json.obj r).nesting ≤ Json.nestingItems (rs.map Json.obj) := by
  induction rs with
  | nil => cases hr
  | cons s rs ih =>
    rw [List.map_cons, Json.nestingItems]
    rcases List.mem_cons.1 hr with rfl | hr
    · exact Nat.le_max_left _ _
    · exact Nat.le_trans (ih hr) (Nat.le_max_right _ _)

/-- Records whose fields are in order and whose floats are read back from their own texts are read back from each of
their encodings, unless they are nested too deeply for the reader. -/
theorem read_encodings {rs : List Record} (hordered : (Json.arr (rs.map .obj)).Every Json.IsOrdered)
    (hfloats : (Json.arr (rs.map .obj)).Every Json.FloatReadsBack)
    (hnesting : (Json.arr (rs.map .obj)).nesting < Json.maxDepth) :
    read (write rs) = .ok rs ∧ read (Json.arr (rs.map .obj)).compact = .ok rs ∧
      ∀ cs, Ndjson rs cs → read (String.ofList cs) = .ok rs := by
  have hpretty : ∃ cs, (write rs).toList = '[' :: cs := by
    rw [write, Json.pretty, String.toList_ofList, ← Json.Layout.chars_pretty]
    cases rs with
    | nil => exact ⟨_, rfl⟩
    | cons r rs => exact ⟨_, rfl⟩
  have hcompact : ∃ cs, (Json.arr (rs.map .obj)).compact.toList = '[' :: cs := by
    rw [Json.compact, String.toList_ofList]
    exact ⟨_, rfl⟩
  refine ⟨hpretty.elim fun cs hcs => ?_, hcompact.elim fun cs hcs => ?_, fun cs hcs => read_ndjson hcs fun r hr => ?_⟩
  · exact read_array hcs (Json.read_pretty hordered hfloats hnesting)
  · exact read_array hcs (Json.read_compact hordered hfloats hnesting)
  · have hlt : (Json.obj r).nesting < Json.maxDepth :=
      Nat.lt_of_le_of_lt (nesting_le_of_mem hr) (Nat.lt_of_succ_lt hnesting)
    exact Json.read_compact (every_of_mem hordered.2 hr) (every_of_mem hfloats.2 hr) hlt

/-- A text of several lines with brackets in it, a fraction, and a record without fields. -/
def oddRecords : List Record :=
  [[("note", .str "[a]\n\x7b\"é"), ("ratio", .num (.float ⟨0x3FB999999999999A⟩ (by decide)))], []]

/-- The same records from an array and from lines that end in different ways. -/
theorem read_encodings_of_odd : read (write oddRecords) = .ok oddRecords ∧
    read (Json.arr (oddRecords.map .obj)).compact = .ok oddRecords ∧
    read " \t\n\x7b\"note\":\"[a]\\n\x7b\\\"é\",\"ratio\":0.1\x7d\r\n\r\n\x7b\x7d" = .ok oddRecords := by
  have hfloat : Json.read "0.1" = .ok (.num (.float ⟨0x3FB999999999999A⟩ (by decide))) := by rfl
  have hsorted : Fields.Sorted oddRecords.head! := by
    unfold Fields.Sorted
    decide
  have hordered : (Json.arr (oddRecords.map .obj)).Every Json.IsOrdered :=
    ⟨trivial, ⟨hsorted, trivial, trivial, trivial⟩, ⟨List.Pairwise.nil, trivial⟩, trivial⟩
  have hfloats : (Json.arr (oddRecords.map .obj)).Every Json.FloatReadsBack :=
    ⟨trivial, ⟨trivial, trivial, hfloat, trivial⟩, ⟨trivial, trivial⟩, trivial⟩
  obtain ⟨hpretty, hcompact, hlines⟩ := read_encodings hordered hfloats (by decide)
  refine ⟨hpretty, hcompact, ?_⟩
  have hgap : IsBlankLine [' ', '\t'] := ⟨by decide, by decide⟩
  have hempty : IsBlankLine [] := ⟨by decide, by decide⟩
  have hlf : ['\n'] ∈ lineEnds := by decide
  have hcrlf : ['\r', '\n'] ∈ lineEnds := by decide
  have htext : Ndjson oddRecords " \t\n\x7b\"note\":\"[a]\\n\x7b\\\"é\",\"ratio\":0.1\x7d\r\n\r\n\x7b\x7d".toList :=
    .blank hgap hlf (.record _ hcrlf (.blank hempty hcrlf (.last [])))
  have hread := hlines _ htext
  rwa [String.ofList_toList] at hread

end Records

end Sandscript
