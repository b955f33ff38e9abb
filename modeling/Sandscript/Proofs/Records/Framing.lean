import Mathlib.Data.List.Forall2
import Mathlib.Data.List.TakeWhile
import Sandscript.Proofs.Records.Encodings

/-!
# What is read and what is refused

A text is cut into lines in one way only (`splits_iff`).  Where it does not start with a bracket, its records are the
objects on the lines that are not blank, and what is refused is the first such line that holds no object, with its
number among all lines (`fromLines_eq_ok_iff`, `fromLines_eq_error_iff`).  Where it does, nothing but an array can be
read from it (`Json.exists_arr_of_read`), and what is refused is the first element that is no object
(`elements_eq_error_iff`).  `read_exact` puts the two together.
-/

namespace Sandscript

namespace Json

/-! ### Texts that start with a bracket -/

private theorem isBlankChar_of_isSpace {x : Char} (h : isSpace x = true) : Text.isBlankChar x = true := by
  simp only [isSpace, Bool.or_eq_true, beq_iff_eq] at h
  rcases h with ((rfl | rfl) | rfl) | rfl <;> rfl

/-- White space starts no value, whichever characters count as white space. -/
private theorem isBlankChar_eq_false_of_startsValue {x : Char} (h : startsValue x = true) :
    Text.isBlankChar x = false := by
  simp only [startsValue, startsNumber, Bool.or_eq_true, beq_iff_eq] at h
  rcases h with ((((((rfl | hx) | rfl) | rfl) | rfl) | rfl) | rfl) | rfl
  · rfl
  · exact Text.isBlankChar_of_isDigit hx
  all_goals rfl

private theorem bind_eq_ok_iff {α β ε : Type} {x : Except ε α} {f : α → Except ε β} {b : β} :
    x >>= f = .ok b ↔ ∃ a, x = .ok a ∧ f a = .ok b := by
  cases x with
  | error e => simp [bind, Except.bind]
  | ok a => simp [bind, Except.bind]

private theorem exists_arr_of_readItems {fuel depth : Nat} {first : Bool} {read : List Json} {c : Cursor}
    {p : Json × Cursor} (h : readItems fuel depth first read c = .ok p) : ∃ items, p.1 = arr items := by
  induction fuel generalizing first read c with
  | zero => cases h
  | succ fuel ih =>
    unfold readItems at h
    dsimp only at h
    split at h
    · exact absurd h (failAtNext_ne_ok _ _ _)
    · cases h
      exact ⟨_, rfl⟩
    · -- whatever stands in front of an item, the other items follow it
      have hnext : ∀ d, (readValue fuel depth d >>= fun q => readItems fuel depth false (q.1 :: read) q.2) = .ok p →
          ∃ items, p.1 = arr items := by
        intro d hd
        obtain ⟨q, -, hrest⟩ := bind_eq_ok_iff.1 hd
        exact ih hrest
      split at h
      · exact hnext _ h
      · split at h
        · obtain ⟨d, -, hd⟩ := bind_eq_ok_iff.1 h
          exact hnext d hd
        · obtain ⟨d, hfail, -⟩ := bind_eq_ok_iff.1 h
          exact absurd hfail (failAtNext_ne_ok _ _ _)

/-- What is read starts as a value does; if it starts with a bracket, it is an array. -/
private theorem starts_of_readValue {fuel depth : Nat} {c : Cursor} {p : Json × Cursor}
    (h : readValue fuel depth c = .ok p) :
    ∃ x cs, c.skipSpace.rest = x :: cs ∧ startsValue x = true ∧ (x = '[' → ∃ items, p.1 = arr items) := by
  have hother : ∀ {x cs}, c.skipSpace.rest = x :: cs → startsValue x = true → x ≠ '[' →
      ∃ x cs, c.skipSpace.rest = x :: cs ∧ startsValue x = true ∧ (x = '[' → ∃ items, p.1 = arr items) :=
    fun heq hx hne => ⟨_, _, heq, hx, fun hbracket => absurd hbracket hne⟩
  cases fuel with
  | zero => cases h
  | succ fuel =>
    unfold readValue at h
    dsimp only at h
    split at h
    · exact absurd h (failAtNext_ne_ok _ _ _)
    · exact hother ‹_› rfl (by decide)
    · exact hother ‹_› rfl (by decide)
    · exact hother ‹_› rfl (by decide)
    · exact hother ‹_› rfl (by decide)
    · exact hother ‹_› rfl (by decide)
    · rename_i heq
      refine ⟨_, _, heq, rfl, fun _ => ?_⟩
      split at h
      · exact absurd h (failAtNext_ne_ok _ _ _)
      · exact exists_arr_of_readItems h
    · exact hother ‹_› rfl (by decide)
    · rename_i heq
      split at h
      · rename_i hdigit
        refine hother heq (by simp [startsValue, startsNumber, hdigit]) ?_
        rintro rfl
        cases hdigit
      · exact absurd h (failAtNext_ne_ok _ _ _)

theorem exists_arr_of_read {text : String} {v : Json} (h : read text = .ok v)
    (hstart : text.toList.find? (!Text.isBlankChar ·) = some '[') : ∃ items, v = arr items := by
  unfold read at h
  obtain ⟨⟨w, c⟩, hvalue, h⟩ := bind_eq_ok_iff.1 h
  dsimp only at h
  split at h
  · cases h
    obtain ⟨x, cs, hrest, hx, harr⟩ := starts_of_readValue hvalue
    refine harr ?_
    -- the white space that the reader skips is white space for the search as well
    have hsplit : text.toList = text.toList.takeWhile isSpace ++ x :: cs := by
      rw [← hrest, Cursor.rest_skipSpace]
      exact List.takeWhile_append_dropWhile.symm
    have hskipped : (text.toList.takeWhile isSpace).find? (!Text.isBlankChar ·) = none := by
      refine List.find?_eq_none.2 fun y hy => ?_
      rw [isBlankChar_of_isSpace (List.mem_takeWhile_imp (p := isSpace) hy)]
      exact Bool.false_ne_true
    rw [hsplit, List.find?_append, hskipped, Option.none_or, List.find?_cons_of_pos
      (by rw [isBlankChar_eq_false_of_startsValue hx]; rfl)] at hstart
    exact Option.some_inj.1 hstart
  · exact absurd h (failAtNext_ne_ok _ _ _)

end Json

namespace Records

/-! ### Lines -/

/-- A text is cut into lines.  A line ends in a line feed, with or without a carriage return before it, or with the
text. -/
inductive Splits : List Char → List (List Char) → Prop
  | empty : Splits [] []
  | last {line : List Char} (h : '\n' ∉ line) (hne : line ≠ []) : Splits line [line]
  | feed {line cs : List Char} {ls : List (List Char)} (h : '\n' ∉ line) (hreturn : line.getLast? ≠ some '\r')
    (rest : Splits cs ls) : Splits (line ++ '\n' :: cs) (line :: ls)
  | returnFeed {line cs : List Char} {ls : List (List Char)} (h : '\n' ∉ line) (rest : Splits cs ls) :
    Splits (line ++ '\r' :: '\n' :: cs) (line :: ls)

private theorem lines_feed {line : List Char} (h : '\n' ∉ line) (hreturn : line.getLast? ≠ some '\r')
    (rest : List Char) :
    lines (line ++ '\n' :: rest) = line :: lines rest := by
  have hend : ['\n'] ∈ lineEnds := List.mem_cons_self
  obtain ⟨l, hlines, rfl | rfl⟩ := lines_append h hend rest
  · exact hlines
  · simp at hreturn

private theorem lines_returnFeed {line : List Char} (h : '\n' ∉ line) (rest : List Char) :
    lines (line ++ '\r' :: '\n' :: rest) = line :: lines rest := by
  unfold lines
  rw [go_append h, lines.go, lines.go]
  · simp
  · exact fun heq => by cases heq

private theorem lines_of_splits {cs : List Char} {ls : List (List Char)} (h : Splits cs ls) : lines cs = ls := by
  induction h with
  | empty => rfl
  | last h hne => exact lines_last h hne
  | feed h hreturn _ ih => rw [lines_feed h hreturn, ih]
  | returnFeed h _ ih => rw [lines_returnFeed h, ih]

private theorem splits_lines (cs : List Char) : Splits cs (lines cs) := by
  induction hn : cs.length using Nat.strongRecOn generalizing cs with
  | ind n ih =>
    by_cases hfeed : '\n' ∈ cs
    · obtain ⟨line, rest, rfl, hline⟩ := List.eq_append_cons_of_mem hfeed
      have hrest : Splits rest (lines rest) := ih rest.length (by simp at hn; omega) rest rfl
      by_cases hreturn : line.getLast? = some '\r'
      · obtain ⟨front, rfl⟩ := List.getLast?_eq_some_iff.1 hreturn
        have hfront : '\n' ∉ front := fun hmem => hline (List.mem_append_left _ hmem)
        rw [List.append_assoc, List.singleton_append, lines_returnFeed hfront]
        exact .returnFeed hfront hrest
      · rw [lines_feed hline hreturn]
        exact .feed hline hreturn hrest
    · by_cases hne : cs = []
      · subst hne
        exact .empty
      · rw [lines_last hfeed hne]
        exact .last hfeed hne

theorem splits_iff {cs : List Char} {ls : List (List Char)} : Splits cs ls ↔ lines cs = ls :=
  ⟨lines_of_splits, fun h => h ▸ splits_lines cs⟩

/-! ### One object a line -/

def HoldsObject (line : List Char) (r : Record) : Prop := Json.read (String.ofList line) = .ok (.obj r)

private theorem HoldsObject.unique {line : List Char} {r r' : Record} (h : HoldsObject line r)
    (h' : HoldsObject line r') :
    r = r' := Json.obj.inj (Except.ok.inj (h.symm.trans h'))

/-- The message starts with the name of the place. -/
def ReadError.Names (e : ReadError) (place : String) : Prop := ∃ rest, e.message = place ++ ": " ++ rest

/-- A line that is no reason to stop. -/
def Passes (line : List Char) : Prop := line.all Text.isBlankChar = true ∨ ∃ r, HoldsObject line r

/-- What is wrong with a line that is not blank and holds no object. -/
inductive LineFault (line : List Char) (number : Nat) : ReadError → Prop
  | notJson {cause : Json.ReadError} (hblank : line.all Text.isBlankChar = false)
    (h : Json.read (String.ofList line) = .error cause) : LineFault line number (.badLine number cause)
  | notObject {v : Json} (hblank : line.all Text.isBlankChar = false) (h : Json.read (String.ofList line) = .ok v)
    (hv : ∀ r, v ≠ .obj r) : LineFault line number (.lineNotObject number v)

namespace LineFault

variable {line : List Char} {number : Nat} {e e' : ReadError}

private theorem not_passes (h : LineFault line number e) : ¬Passes line := by
  cases h with
  | notJson hblank hread =>
    rintro (hblank' | ⟨r, hr⟩)
    · cases hblank.symm.trans hblank'
    · cases hr.symm.trans hread
  | notObject hblank hread hv =>
    rintro (hblank' | ⟨r, hr⟩)
    · cases hblank.symm.trans hblank'
    · exact hv r (Except.ok.inj (hread.symm.trans hr))

private theorem unique (h : LineFault line number e) (h' : LineFault line number e') : e = e' := by
  cases h with
  | notJson _ hread =>
    cases h' with
    | notJson _ hread' => rw [Except.error.inj (hread.symm.trans hread')]
    | notObject _ hread' _ => cases hread.symm.trans hread'
  | notObject _ hread _ =>
    cases h' with
    | notJson _ hread' => cases hread.symm.trans hread'
    | notObject _ hread' _ => rw [Except.ok.inj (hread.symm.trans hread')]

theorem names (h : LineFault line number e) : e.Names ("line " ++ toString number) := by
  cases h with
  | @notJson cause _ _ =>
    refine ⟨"invalid JSON: " ++ cause.message, String.toList_inj.1 ?_⟩
    simp [ReadError.message, ReadError.causes]
  | @notObject v _ _ _ =>
    refine ⟨"expected an object, found " ++ v.compact, String.toList_inj.1 ?_⟩
    simp [ReadError.message, ReadError.causes]

end LineFault

/-- What is wrong with the first line that does not pass, and the message names that line; the lines are counted from
`number`. -/
def FirstFault (number : Nat) (ls : List (List Char)) (e : ReadError) : Prop :=
  ∃ front line back, ls = front ++ line :: back ∧ (∀ l ∈ front, Passes l) ∧
    LineFault line (number + front.length) e ∧ e.Names ("line " ++ toString (number + front.length))

section

variable {number : Nat} {line : List Char} {ls : List (List Char)} {e : ReadError}

private theorem firstFault_cons :
    FirstFault number (line :: ls) e ↔ Passes line ∧ FirstFault (number + 1) ls e ∨ LineFault line number e := by
  have hnumber : ∀ front : List (List Char), number + (front.length + 1) = number + 1 + front.length := by
    intro front
    omega
  constructor
  · rintro ⟨front, bad, back, heq, hfront, hfault, hnames⟩
    cases front with
    | nil =>
      obtain ⟨rfl, rfl⟩ := List.cons.inj heq
      exact .inr hfault
    | cons first front =>
      obtain ⟨rfl, rfl⟩ := List.cons.inj heq
      obtain ⟨hline, hfront⟩ := List.forall_mem_cons.1 hfront
      rw [List.length_cons, hnumber] at hfault hnames
      exact .inl ⟨hline, front, bad, back, rfl, hfront, hfault, hnames⟩
  · rintro (⟨hline, front, bad, back, rfl, hfront, hfault, hnames⟩ | hfault)
    · refine ⟨line :: front, bad, back, rfl, List.forall_mem_cons.2 ⟨hline, hfront⟩, ?_⟩
      rw [List.length_cons, hnumber]
      exact ⟨hfault, hnames⟩
    · exact ⟨[], line, ls, rfl, fun l hl => (by cases hl), hfault, hfault.names⟩

/-- A line that is not blank holds an object, or something is wrong with it. -/
private theorem fromLines_cases (h : ¬line.all Text.isBlankChar = true) (number : Nat) (ls : List (List Char)) :
    (∃ r, HoldsObject line r ∧ fromLines number (line :: ls) = (fromLines (number + 1) ls).map (r :: ·)) ∨
      ∃ e, LineFault line number e ∧ fromLines number (line :: ls) = .error e := by
  have hblank : line.all Text.isBlankChar = false := by simpa using h
  unfold HoldsObject
  conv => enter [1, 1, r, 2, 1]; unfold fromLines
  conv => enter [2, 1, e, 2, 1]; unfold fromLines
  rw [if_neg h]
  cases hread : Json.read (String.ofList line) with
  | error cause => exact .inr ⟨_, .notJson hblank hread, rfl⟩
  | ok v =>
    cases v with
    | obj r => exact .inl ⟨r, rfl, rfl⟩
    | _ => exact .inr ⟨_, .notObject hblank hread (fun r hr => by cases hr), rfl⟩

theorem fromLines_eq_ok_iff {rs : List Record} :
    fromLines number ls = .ok rs ↔ List.Forall₂ HoldsObject (ls.filter fun l => !l.all Text.isBlankChar) rs := by
  induction ls generalizing number rs with
  | nil => rw [fromLines, List.filter_nil, List.forall₂_nil_left_iff, Except.ok.injEq, eq_comm]
  | cons line ls ih =>
    by_cases hblank : line.all Text.isBlankChar = true
    · rw [fromLines_blank hblank, ih, List.filter_cons_of_neg (by simp [hblank])]
    · rw [List.filter_cons_of_pos (by simpa using hblank), List.forall₂_cons_left_iff]
      rcases fromLines_cases hblank number ls with ⟨r, hr, hlines⟩ | ⟨e, he, hlines⟩
      · rw [hlines]
        constructor
        · intro h
          cases hrest : fromLines (number + 1) ls with
          | error e =>
            rw [hrest] at h
            cases h
          | ok rest =>
            rw [hrest] at h
            cases h
            exact ⟨r, rest, hr, ih.1 hrest, rfl⟩
        · rintro ⟨r', rest, hr', hrest, rfl⟩
          rw [ih.2 hrest, hr.unique hr']
          rfl
      · rw [hlines]
        refine ⟨fun h => (by cases h), ?_⟩
        rintro ⟨r, _, hr, -, -⟩
        exact absurd (.inr ⟨r, hr⟩) he.not_passes

theorem fromLines_eq_error_iff : fromLines number ls = .error e ↔ FirstFault number ls e := by
  induction ls generalizing number with
  | nil => simp [fromLines, FirstFault]
  | cons line ls ih =>
    rw [firstFault_cons, ← ih]
    by_cases hblank : line.all Text.isBlankChar = true
    · rw [fromLines_blank hblank]
      refine ⟨fun h => .inl ⟨.inl hblank, h⟩, ?_⟩
      rintro (⟨-, h⟩ | hfault)
      · exact h
      · exact absurd (.inl hblank) hfault.not_passes
    · rcases fromLines_cases hblank number ls with ⟨r, hr, hlines⟩ | ⟨e', he', hlines⟩
      · have hmap : (fromLines (number + 1) ls).map (r :: ·) = .error e ↔ fromLines (number + 1) ls = .error e := by
          cases fromLines (number + 1) ls <;> simp [Except.map]
        rw [hlines, hmap]
        refine ⟨fun h => .inl ⟨.inr ⟨r, hr⟩, h⟩, ?_⟩
        rintro (⟨-, h⟩ | hfault)
        · exact h
        · exact absurd (.inr ⟨r, hr⟩) hfault.not_passes
      · rw [hlines, Except.error.injEq]
        refine ⟨fun h => .inr (h ▸ he'), ?_⟩
        rintro (⟨hline, -⟩ | hfault)
        · exact absurd hline he'.not_passes
        · exact he'.unique hfault

end

/-! ### One array -/

/-- A list of values has objects only, or there is a first value that is none. -/
private theorem objects_cases (items : List Json) :
    (∃ rs : List Record, items = rs.map .obj) ∨
      ∃ (front : List Record) (v : Json) (back : List Json), items = front.map .obj ++ v :: back ∧ ∀ r, v ≠ .obj r := by
  induction items with
  | nil => exact .inl ⟨[], rfl⟩
  | cons v items ih =>
    by_cases hv : ∃ r, v = .obj r
    · obtain ⟨r, rfl⟩ := hv
      rcases ih with ⟨rs, rfl⟩ | ⟨front, w, back, rfl, hw⟩
      · exact .inl ⟨r :: rs, rfl⟩
      · exact .inr ⟨r :: front, w, back, rfl, hw⟩
    · exact .inr ⟨[], v, items, rfl, fun r hr => hv ⟨r, hr⟩⟩

private theorem elements_append {v : Json} (hv : ∀ r, v ≠ .obj r) (index : Nat) (front : List Record)
    (back : List Json) :
    elements index (front.map .obj ++ v :: back) = .error (.elementNotObject (index + front.length) v) := by
  induction front generalizing index with
  | nil =>
    cases v with
    | obj r => exact absurd rfl (hv r)
    | _ => rfl
  | cons r front ih =>
    rw [List.map_cons, List.cons_append, elements, ih, List.length_cons, Nat.add_assoc, Nat.add_comm 1]
    rfl

section

variable {index : Nat} {items : List Json}

private theorem elements_eq_ok_iff {rs : List Record} : elements index items = .ok rs ↔ items = rs.map .obj := by
  refine ⟨fun h => ?_, fun h => h ▸ elements_map rs index⟩
  rcases objects_cases items with ⟨rs', rfl⟩ | ⟨front, v, back, rfl, hv⟩
  · rw [Except.ok.inj ((elements_map rs' index).symm.trans h)]
  · cases (elements_append hv index front back).symm.trans h

theorem elements_eq_error_iff {e : ReadError} :
    elements index items = .error e ↔ ∃ (front : List Record) (v : Json) (back : List Json),
      items = front.map .obj ++ v :: back ∧ (∀ r, v ≠ .obj r) ∧ e = .elementNotObject (index + front.length) v := by
  constructor
  · intro h
    rcases objects_cases items with ⟨rs, rfl⟩ | ⟨front, v, back, rfl, hv⟩
    · cases (elements_map rs index).symm.trans h
    · exact ⟨front, v, back, rfl, hv, Except.error.inj (h.symm.trans (elements_append hv index front back))⟩
  · rintro ⟨front, v, back, rfl, hv, rfl⟩
    exact elements_append hv index front back

end

/-! ### Texts -/

/-- The first character that is no white space is an opening bracket. -/
def StartsArray (text : String) : Prop := text.toList.find? (!Text.isBlankChar ·) = some '['

/-- What is wrong with a text that should be one array of objects.  Where it is an array, that is its first element that
is no object, and the message names that element; the elements are counted from 0. -/
inductive ArrayFault (text : String) : ReadError → Prop
  | notJson {cause : Json.ReadError} (h : Json.read text = .error cause) : ArrayFault text (.notAnArray cause)
  | notObject {front : List Record} {v : Json} {back : List Json}
    (h : Json.read text = .ok (.arr (front.map .obj ++ v :: back))) (hv : ∀ r, v ≠ .obj r)
    (hnames : (ReadError.elementNotObject front.length v).Names ("element " ++ toString front.length)) :
    ArrayFault text (.elementNotObject front.length v)

private theorem names_elementNotObject (index : Nat) (v : Json) :
    (ReadError.elementNotObject index v).Names ("element " ++ toString index) := by
  refine ⟨"expected an object, found " ++ v.compact, String.toList_inj.1 ?_⟩
  simp [ReadError.message, ReadError.causes]

private theorem startsArray_iff {text : String} : StartsArray text ↔ ∃ cs, Text.trimLeft text.toList = '[' :: cs := by
  have hhead : text.toList.find? (!Text.isBlankChar ·) = (Text.trimLeft text.toList).head? :=
    List.find?_not_eq_head?_dropWhile _ _
  rw [StartsArray, hhead, List.head?_eq_some_iff]

section

variable {text : String}

private theorem read_of_not_startsArray (h : ¬StartsArray text) : read text = fromLines 1 (lines text.toList) := by
  unfold read
  split
  · rename_i cs heq
    exact absurd (startsArray_iff.2 ⟨cs, heq⟩) h
  · rfl

private theorem read_of_arr (h : StartsArray text) {items : List Json} (hread : Json.read text = .ok (.arr items)) :
    read text = elements 0 items := by
  obtain ⟨cs, hcs⟩ := startsArray_iff.1 h
  unfold read
  rw [hcs, hread]
  rfl

private theorem read_of_not_json (h : StartsArray text) {cause : Json.ReadError}
    (hread : Json.read text = .error cause) :
    read text = .error (.notAnArray cause) := by
  obtain ⟨cs, hcs⟩ := startsArray_iff.1 h
  unfold read
  rw [hcs, hread]
  rfl

private theorem read_eq_ok_iff_of_startsArray (h : StartsArray text) {rs : List Record} :
    read text = .ok rs ↔ Json.read text = .ok (.arr (rs.map .obj)) := by
  cases hread : Json.read text with
  | error cause =>
    rw [read_of_not_json h hread]
    exact ⟨fun heq => (by cases heq), fun heq => (by cases heq)⟩
  | ok v =>
    obtain ⟨items, rfl⟩ := Json.exists_arr_of_read hread h
    rw [read_of_arr h hread, elements_eq_ok_iff, Except.ok.injEq, Json.arr.injEq]

private theorem read_eq_error_iff_of_startsArray (h : StartsArray text) {e : ReadError} :
    read text = .error e ↔ ArrayFault text e := by
  constructor
  · intro he
    cases hread : Json.read text with
    | error cause =>
      rw [read_of_not_json h hread] at he
      cases he
      exact .notJson hread
    | ok v =>
      obtain ⟨items, rfl⟩ := Json.exists_arr_of_read hread h
      rw [read_of_arr h hread, elements_eq_error_iff] at he
      obtain ⟨front, v, back, rfl, hv, rfl⟩ := he
      rw [Nat.zero_add]
      exact .notObject hread hv (names_elementNotObject _ v)
  · intro hfault
    cases hfault with
    | notJson hread => exact read_of_not_json h hread
    | notObject hread hv _ => rw [read_of_arr h hread, elements_append hv, Nat.zero_add]

end

/-- A text that does not start with a bracket is read line by line, and any other as one array.  What comes out is the
objects in order; what is refused is the first line, or the first element, that holds no object. -/
theorem read_exact (text : String) :
    (¬StartsArray text → ∃ ls, Splits text.toList ls ∧
      (∀ rs, read text = .ok rs ↔ List.Forall₂ HoldsObject (ls.filter fun l => !l.all Text.isBlankChar) rs) ∧
        ∀ e, read text = .error e ↔ FirstFault 1 ls e) ∧
    (StartsArray text →
      (∀ rs, read text = .ok rs ↔ Json.read text = .ok (.arr (rs.map .obj))) ∧
        ∀ e, read text = .error e ↔ ArrayFault text e) := by
  refine ⟨fun h => ⟨lines text.toList, splits_lines _, fun rs => ?_, fun e => ?_⟩, fun h => ⟨fun rs => ?_, fun e => ?_⟩⟩
  · rw [read_of_not_startsArray h, fromLines_eq_ok_iff]
  · rw [read_of_not_startsArray h, fromLines_eq_error_iff]
  · exact read_eq_ok_iff_of_startsArray h
  · exact read_eq_error_iff_of_startsArray h

/-- The number of a line counts the lines that are skipped, and the second of two faults is not reported. -/
theorem read_exact_of_two_faults :
    read "\x7b\x7d\r\n \n3\n[" = .error (.lineNotObject 3 (.num (.int 3 (by decide)))) ∧
      read " [\x7b\x7d, 3, []]" = .error (.elementNotObject 1 (.num (.int 3 (by decide)))) := by
  have hobject : Passes "\x7b\x7d".toList := .inr ⟨[], by rfl⟩
  have hblank : Passes " ".toList := .inl (by decide)
  have hnumber : Json.read "3" = .ok (.num (.int 3 (by decide))) := by rfl
  have hfault : LineFault "3".toList 3 (.lineNotObject 3 (.num (.int 3 (by decide)))) :=
    .notObject (by decide) (by rwa [String.ofList_toList]) (fun r hr => by cases hr)
  constructor
  · obtain ⟨ls, hls, -, herror⟩ := (read_exact "\x7b\x7d\r\n \n3\n[").1 (by unfold StartsArray; decide)
    rw [← splits_iff.1 hls] at herror
    refine (herror _).2 ⟨["\x7b\x7d".toList, " ".toList], "3".toList, ["[".toList], by decide, ?_, hfault, hfault.names⟩
    simp only [List.mem_cons, List.not_mem_nil, or_false]
    rintro l (rfl | rfl)
    · exact hobject
    · exact hblank
  · have hread : Json.read " [\x7b\x7d, 3, []]" =
        .ok (.arr ([[]].map .obj ++ .num (.int 3 (by decide)) :: [.arr []])) := by rfl
    obtain ⟨-, herror⟩ := (read_exact " [\x7b\x7d, 3, []]").2 (by unfold StartsArray; decide)
    exact (herror _).2 (.notObject hread (fun r hr => by cases hr) (names_elementNotObject 1 _))

end Records

end Sandscript
