import Sandscript.Proofs.Numeric.NumberText
import Sandscript.Proofs.Outline.Lines

/-!
# The colours of an outline

Style sequences are taken out of a text (`withoutStyles`): what is left of a painted text is the text, whatever stands
behind it (`Colored`).  An outline in colours without its style sequences is the outline without colours, as long as
the value itself lacks the escape character (`withoutStyles_format_pretty`).
-/

namespace Sandscript.Outline

open Value (Step)

/-! ### Texts without styles -/

/-- The character that starts a style sequence. -/
def escape : Char := Char.ofNat 27

def isParameter (c : Char) : Bool := c.isDigit || c == ';'

/-- How many characters of a style sequence stand behind its first, if a text starts with one: a bracket, parameters
and the letter `m`. -/
def styleLength? : List Char → Option Nat
  | a :: '[' :: rest =>
    if a = escape ∧ (rest.dropWhile isParameter).head? = some 'm' then some ((rest.takeWhile isParameter).length + 2)
    else none
  | _ => none

/-- A text without its first characters, so many of them, and without the style sequences behind these. -/
def withoutStylesFrom : Nat → List Char → List Char
  | _, [] => []
  | n + 1, _ :: rest => withoutStylesFrom n rest
  | 0, c :: rest =>
    match styleLength? (c :: rest) with
    | some n => withoutStylesFrom n rest
    | none => c :: withoutStylesFrom 0 rest

/-- A text without its style sequences. -/
def withoutStyles (cs : List Char) : List Char := withoutStylesFrom 0 cs

private theorem withoutStylesFrom_append (front rest : List Char) :
    withoutStylesFrom front.length (front ++ rest) = withoutStyles rest := by
  induction front with
  | nil => rfl
  | cons c front ih => exact ih

private theorem withoutStyles_nil : withoutStyles [] = [] := rfl

private theorem withoutStyles_cons {c : Char} (hc : c ≠ escape) (rest : List Char) :
    withoutStyles (c :: rest) = c :: withoutStyles rest := by
  have hnone : styleLength? (c :: rest) = none := by
    unfold styleLength?
    split
    · rename_i heq
      cases heq
      exact if_neg fun h => hc h.1
    · rfl
  rw [withoutStyles, withoutStylesFrom, hnone]
  rfl

/-- What is left of a text without its style sequences, whatever stands behind it. -/
def Colored (painted plain : List Char) : Prop :=
  ∀ rest, withoutStyles (painted ++ rest) = plain ++ withoutStyles rest

theorem Colored.eq {painted plain : List Char} (h : Colored painted plain) : withoutStyles painted = plain := by
  have hnil := h []
  rwa [List.append_nil, withoutStyles_nil, List.append_nil] at hnil

private theorem Colored.append {painted plain painted' plain' : List Char} (h : Colored painted plain)
    (h' : Colored painted' plain') : Colored (painted ++ painted') (plain ++ plain') := fun rest => by
  rw [List.append_assoc, h, h', List.append_assoc]

private theorem colored_of_notMem {cs : List Char} (h : escape ∉ cs) : Colored cs cs := fun rest => by
  induction cs with
  | nil => rfl
  | cons c cs ih =>
    have hc : c ≠ escape := fun heq => h (heq ▸ List.mem_cons_self)
    rw [List.cons_append, withoutStyles_cons hc, ih fun hmem => h (List.mem_cons_of_mem c hmem), List.cons_append]

/-! ### Styles -/

/-- A style whose start is a style sequence. -/
def Style.IsSequence (s : Style) : Prop := ∀ c ∈ s.parameters.toList, isParameter c = true

instance (s : Style) : Decidable s.IsSequence :=
  decidable_of_iff (s.parameters.toList.all isParameter = true) List.all_eq_true

private theorem colored_start {s : Style} (hs : s.IsSequence) : Colored s.start [] := fun rest => by
  have hm : ¬isParameter 'm' = true := by decide
  have hbehind : ('m' :: rest).dropWhile isParameter = 'm' :: rest := List.dropWhile_cons_of_neg hm
  have hlength : styleLength? (escape :: '[' :: (s.parameters.toList ++ 'm' :: rest)) =
      some ('[' :: (s.parameters.toList ++ ['m'])).length := by
    rw [styleLength?, List.dropWhile_append_of_pos hs, hbehind, if_pos ⟨rfl, rfl⟩, List.takeWhile_append_of_pos hs,
      List.takeWhile_cons_of_neg hm]
    simp
  have hstart : s.start ++ rest = escape :: '[' :: (s.parameters.toList ++ 'm' :: rest) := by
    simp [Style.start, escape]
  have hsplit : '[' :: (s.parameters.toList ++ 'm' :: rest) = '[' :: (s.parameters.toList ++ ['m']) ++ rest := by simp
  rw [hstart, withoutStyles, withoutStylesFrom, hlength, hsplit]
  exact withoutStylesFrom_append _ rest

private theorem colored_reset : Colored reset [] := colored_start (s := ⟨"0"⟩) (by decide)

private theorem restart_of_notMem (s : Style) {text : List Char} (h : escape ∉ text) : restart s text = text := by
  induction text using restart.induct with
  | case1 a rest ha ih =>
    have hescape : a = escape := by rw [escape, ← ha, Char.ofNat_toNat]
    exact absurd (hescape ▸ List.mem_cons_self) h
  | case2 a rest ha ih => rw [restart, if_neg ha, ih fun hmem => h (List.mem_cons_of_mem a hmem)]
  | case3 c rest hrest ih => rw [restart.eq_2 s c rest hrest, ih fun hmem => h (List.mem_cons_of_mem c hmem)]
  | case4 => rfl

/-- What is left of a painted text is the text. -/
private theorem colored_paint {s : Style} (hs : s.IsSequence) {text : List Char} (h : escape ∉ text) :
    Colored (s.paint true text) text := by
  rw [Style.paint, if_pos rfl, restart_of_notMem s h]
  simpa using (colored_start hs).append (colored_of_notMem h) |>.append colored_reset

/-! ### Painted values -/

/-- A text that is neither empty nor has white space or the escape character in it. -/
structure IsSolid (text : List Char) : Prop where
  ne_nil : text ≠ []
  unspaced : Text.Unspaced text
  escape_notMem : escape ∉ text

instance (text : List Char) : Decidable (IsSolid text) :=
  decidable_of_iff (text ≠ [] ∧ Text.Unspaced text ∧ escape ∉ text)
    ⟨fun ⟨h, h', h''⟩ => ⟨h, h', h''⟩, fun h => ⟨h.ne_nil, h.unspaced, h.escape_notMem⟩⟩

private theorem isBlankChar_of_isNumberChar {c : Char} (h : FloatLayout.isNumberChar c = true) :
    Text.isBlankChar c = false := by
  simp only [FloatLayout.isNumberChar, Bool.or_eq_true, beq_iff_eq] at h
  rcases h with (((h | rfl) | rfl) | rfl) | rfl
  · exact Text.isBlankChar_of_isDigit h
  all_goals rfl

private theorem isSolid_chars (n : JsonNumber) : IsSolid n.chars where
  ne_nil := by
    cases n with
    | int n hrange => exact List.append_ne_nil_of_right_ne_nil _ (Numeric.digits_ne_nil _)
    | float x hx =>
      intro hnil
      have hdenoted := FloatLayout.denoted?_chars hx .interchange
      rw [JsonNumber.chars] at hnil
      rw [hnil] at hdenoted
      cases hdenoted
  unspaced c hc := isBlankChar_of_isNumberChar (Json.isNumberChar_of_mem_chars hc)
  escape_notMem hmem := absurd (Json.isNumberChar_of_mem_chars hmem) (by decide)

/-- A value on the line of its entry is a text of its own or is painted. -/
private theorem exists_scalar_eq (v : Json) : (∃ s, v = .str s) ∨
    ∃ (style : Style) (text : List Char), style.IsSequence ∧ IsSolid text ∧
      ∀ color, scalar color v = style.paint color text := by
  cases v with
  | null => exact .inr ⟨dimStyle, "null".toList, by decide, by decide, fun _ => rfl⟩
  | bool b =>
    cases b with
    | true => exact .inr ⟨trueStyle, "true".toList, by decide, by decide, fun _ => rfl⟩
    | false => exact .inr ⟨falseStyle, "false".toList, by decide, by decide, fun _ => rfl⟩
  | num n => exact .inr ⟨numberStyle, n.chars, by decide, isSolid_chars n, fun _ => rfl⟩
  | str s => exact .inl ⟨s, rfl⟩
  | arr items => exact .inr ⟨dimStyle, ['[', ']'], by decide, by decide, fun _ => rfl⟩
  | obj fields => exact .inr ⟨dimStyle, ['\x7b', '\x7d'], by decide, by decide, fun _ => rfl⟩

private theorem colored_scalar {v : Json} (h : v.SpellsWithout escape) : Colored (scalar true v) (scalar false v) := by
  rcases exists_scalar_eq v with ⟨s, rfl⟩ | ⟨style, text, hstyle, hsolid, hscalar⟩
  · exact colored_of_notMem h
  · rw [hscalar, hscalar]
    exact colored_paint hstyle hsolid.escape_notMem

/-- Neither a painted value nor one without colours loses anything but the white space at the end of a text. -/
private theorem colored_trimRight_scalar {front : List Char} (hfront : escape ∉ front) {v : Json}
    (h : v.SpellsWithout escape) :
    Colored (Text.trimRight (front ++ scalar true v)) (Text.trimRight (front ++ scalar false v)) := by
  rcases exists_scalar_eq v with ⟨s, rfl⟩ | ⟨style, text, hstyle, hsolid, hscalar⟩
  · exact colored_of_notMem fun hmem =>
      (List.mem_append.1 (Text.mem_of_mem_trimRight hmem)).elim hfront h
  · have hpainted : Text.trimRight (front ++ style.paint true text) = front ++ style.paint true text := by
      have hend : style.paint true text = (style.start ++ restart style text ++ [escape, '[', '0']) ++ ['m'] := by
        simp [Style.paint, reset, escape]
      rw [hend, ← List.append_assoc, Text.trimRight_append_cons (by decide)]
      rfl
    have hplain : Text.trimRight (front ++ text) = front ++ text := by
      obtain ⟨c, hc⟩ := List.exists_mem_of_ne_nil text hsolid.ne_nil
      rw [Text.trimRight_append_of_mem (hsolid.unspaced c hc) hc, Text.trimRight_of_unspaced hsolid.unspaced]
    have hfalse : style.paint false text = text := rfl
    rw [hscalar, hscalar, hfalse, hpainted, hplain]
    exact (colored_of_notMem hfront).append (colored_paint hstyle hsolid.escape_notMem)

/-! ### Painted lines -/

private theorem colored_label {step : Step} (h : StepLacks escape step) :
    Colored (label true step) (label false step) := by
  cases step with
  | item index => exact colored_of_notMem (by decide : escape ∉ ['-'])
  | entry key => exact (colored_paint (by decide) h).append (colored_of_notMem (by decide))

private theorem escape_notMem_indent (depth : Nat) : escape ∉ indent depth :=
  fun hmem => absurd (List.eq_of_mem_replicate hmem) (by decide)

private theorem colored_line {e : Entry} (hstep : StepLacks escape e.step) (hvalue : e.value.Lacks escape) :
    Colored (e.line true) (e.line false) := by
  have hcontent : Colored (content true e.value) (content false e.value) := by
    rw [content, content]
    split
    · exact colored_of_notMem List.not_mem_nil
    · exact (colored_of_notMem (by decide : escape ∉ [' '])).append (colored_scalar hvalue.self)
  exact (colored_of_notMem (escape_notMem_indent _)).append ((colored_label hstep).append hcontent)

private theorem colored_trimRight_line {e : Entry} (hstep : StepLacks escape e.step) (hvalue : e.value.Lacks escape) :
    Colored (Text.trimRight (e.line true)) (Text.trimRight (e.line false)) := by
  have hcontent : Colored (Text.trimRight (content true e.value)) (Text.trimRight (content false e.value)) := by
    rw [content, content]
    split
    · exact colored_of_notMem List.not_mem_nil
    · exact colored_trimRight_scalar (by decide : escape ∉ [' ']) hvalue.self
  rw [trimRight_line, trimRight_line]
  exact (colored_of_notMem (escape_notMem_indent _)).append ((colored_label hstep).append hcontent)

private theorem colored_lines : (es : List Entry) → (∀ e ∈ es, StepLacks escape e.step ∧ e.value.Lacks escape) →
    Colored (['\n'].intercalate (trimLast (es.map (Entry.line true))))
      (['\n'].intercalate (trimLast (es.map (Entry.line false))))
  | [], _ => colored_of_notMem List.not_mem_nil
  | [e], h => by
    obtain ⟨hstep, hvalue⟩ := h e List.mem_cons_self
    simpa [trimLast] using colored_trimRight_line hstep hvalue
  | e :: next :: rest, h => by
    obtain ⟨hstep, hvalue⟩ := h e List.mem_cons_self
    have hrest := colored_lines (next :: rest) fun f hf => h f (List.mem_cons_of_mem e hf)
    simp only [List.map_cons, intercalate_trimLast_cons] at hrest ⊢
    exact ((colored_line hstep hvalue).append (colored_of_notMem (by decide))).append hrest

/-- An outline in colours without its style sequences is the outline without colours. -/
theorem withoutStyles_format_pretty {v : Json} (h : v.Lacks escape) :
    withoutStyles (v.format .pretty true).toList = (v.format .pretty false).toList := by
  by_cases hnested : isNested v = true
  · rw [toList_format_pretty hnested, toList_format_pretty hnested]
    exact (colored_lines _ fun e he => lacks_of_mem_entries h.sorted (Json.every_isOrdered_sorted v) he).eq
  · have hscalar : Colored (Text.trimRight (scalar true v)) (Text.trimRight (scalar false v)) :=
      colored_trimRight_scalar (List.not_mem_nil : escape ∉ []) h.self
    cases v with
    | arr items =>
      cases items with
      | nil => rfl
      | cons w rest => exact absurd rfl hnested
    | obj fields =>
      cases fields with
      | nil => rfl
      | cons f rest => exact absurd rfl hnested
    | _ => simpa [Json.format, Json.sorted, render] using hscalar.eq

theorem withoutStyles_format_pretty_of_blank :
    Json.Lacks escape (.obj [("a", .arr []), ("b", .str " ")]) ∧
      withoutStyles (Json.format (.obj [("a", .arr []), ("b", .str " ")]) .pretty true).toList =
        (Json.format (.obj [("a", .arr []), ("b", .str " ")]) .pretty false).toList := by
  have hlacks : Json.Lacks escape (.obj [("a", .arr []), ("b", .str " ")]) := by
    simp [Json.Lacks, Json.Every, Json.EveryItem, Json.EveryField, Json.SpellsWithout, escape]
  exact ⟨hlacks, withoutStyles_format_pretty hlacks⟩

end Sandscript.Outline
