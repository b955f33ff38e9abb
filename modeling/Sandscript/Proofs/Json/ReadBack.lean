import Sandscript.Proofs.Json.Layouts

/-!
# JSON values and their texts

A value whose objects list their fields in order, whose floats are read back where they stand alone and whose containers
are nested less than `maxDepth` deep is read back from its text in any layout (`Layout.read_chars`), and so it is from
the two that are written (`read_compact`, `read_pretty`).
-/

namespace Sandscript.Json

/-! ### What follows a value -/

namespace EndsNumber

private theorem of_isSpace {x : Char} {rest : List Char} (hx : isSpace x = true) : EndsNumber (x :: rest) := by
  simp only [isSpace, Bool.or_eq_true, beq_iff_eq] at hx
  refine EndsNumber.cons ?_
  rcases hx with ((rfl | rfl) | rfl) | rfl <;> decide

private theorem gap {cs rest : List Char} (hcs : ∀ x ∈ cs, isSpace x = true) (hrest : EndsNumber rest) :
    EndsNumber (cs ++ rest) := by
  cases cs with
  | nil => exact hrest
  | cons x cs => exact of_isSpace (hcs x List.mem_cons_self)

private theorem moreItems {l : Layout} {depth : Nat} {rest : List Char} (items : List Json) (hrest : EndsNumber rest) :
    EndsNumber (l.moreItems depth items ++ rest) := by
  cases items with
  | nil => exact hrest
  | cons v items => exact EndsNumber.cons (by decide)

private theorem moreFields {l : Layout} {depth : Nat} {rest : List Char} (fields : List (String × Json))
    (hrest : EndsNumber rest) : EndsNumber (l.moreFields depth fields ++ rest) := by
  cases fields with
  | nil => exact hrest
  | cons p fields => exact EndsNumber.cons (by decide)

end EndsNumber

/-- The first character of a value. -/
def startsValue (x : Char) : Bool :=
  startsNumber x || x == 'n' || x == 't' || x == 'f' || x == '"' || x == '[' || x == '\x7b'

private theorem isSpace_eq_false_of_startsValue {x : Char} (h : startsValue x = true) : isSpace x = false := by
  by_contra hspace
  rw [Bool.not_eq_false] at hspace
  simp only [isSpace, Bool.or_eq_true, beq_iff_eq] at hspace
  rcases hspace with ((rfl | rfl) | rfl) | rfl <;> cases h

private theorem Layout.exists_cons_chars (l : Layout) (depth : Nat) {v : Json} (h : v.IsReadable) :
    ∃ x cs, l.chars depth v = x :: cs ∧ startsValue x = true := by
  cases v with
  | null => exact ⟨'n', _, rfl, rfl⟩
  | bool b =>
    cases b with
    | true => exact ⟨'t', _, rfl, rfl⟩
    | false => exact ⟨'f', _, rfl, rfl⟩
  | num n =>
    obtain ⟨x, cs, hchars, hx⟩ := h.starts
    refine ⟨x, cs, hchars, ?_⟩
    simp only [startsValue, hx, Bool.true_or]
  | str s => exact ⟨'"', _, rfl, rfl⟩
  | arr items =>
    cases items with
    | nil => exact ⟨'[', _, rfl, rfl⟩
    | cons v items => exact ⟨'[', _, rfl, rfl⟩
  | obj fields =>
    cases fields with
    | nil => exact ⟨'\x7b', _, rfl, rfl⟩
    | cons p fields => exact ⟨'\x7b', _, rfl, rfl⟩

/-! ### One step of a container -/

section

variable {c : Cursor} {gap cs rest : List Char} {x : Char}

private theorem readItems_close {fuel depth : Nat} {first : Bool} {read : List Json}
    (hgap : ∀ x ∈ gap, isSpace x = true)
    (h : c.rest = gap ++ ']' :: rest) : Reads (readItems (fuel + 1) depth first read c) (arr read.reverse) rest := by
  have hskip := Cursor.rest_skipSpace_of hgap rfl h
  refine ⟨c.skipSpace.next, ?_, Cursor.rest_next hskip⟩
  unfold readItems
  dsimp only
  rw [hskip]
  rfl

/-- The first item of an array is read in front of what opens it. -/
private theorem readItems_first (fuel depth : Nat) (read : List Json) (hgap : ∀ x ∈ gap, isSpace x = true)
    (hx : startsValue x = true) (h : c.rest = gap ++ x :: cs) :
    ∃ d : Cursor, d.rest = x :: cs ∧ readItems (fuel + 1) depth true read c =
      readValue fuel depth d >>= fun p => readItems fuel depth false (p.1 :: read) p.2 := by
  have hskip := Cursor.rest_skipSpace_of hgap (isSpace_eq_false_of_startsValue hx) h
  refine ⟨c.skipSpace, hskip, ?_⟩
  conv => lhs; unfold readItems
  dsimp only
  rw [hskip]
  split
  · rename_i heq
    cases heq
  · rename_i heq
    cases heq
    cases hx
  · rfl

private theorem afterComma_of {close : Char} (hgap : ∀ x ∈ gap, isSpace x = true) (hspace : isSpace x = false)
    (hx : x ≠ close)
    (h : c.rest = ',' :: (gap ++ x :: cs)) : ∃ d : Cursor, d.rest = x :: cs ∧ afterComma c close = .ok d := by
  have hskip := Cursor.rest_skipSpace_of hgap hspace (Cursor.rest_next h)
  refine ⟨c.next.skipSpace, hskip, ?_⟩
  unfold afterComma
  dsimp only
  rw [hskip]
  exact if_neg fun heq => hx (eq_of_beq heq)

/-- A further item is read behind its comma. -/
private theorem readItems_next (fuel depth : Nat) (read : List Json) (hgap : ∀ x ∈ gap, isSpace x = true)
    (hx : startsValue x = true) (h : c.rest = ',' :: (gap ++ x :: cs)) :
    ∃ d : Cursor, d.rest = x :: cs ∧ readItems (fuel + 1) depth false read c =
      readValue fuel depth d >>= fun p => readItems fuel depth false (p.1 :: read) p.2 := by
  have hclose : x ≠ ']' := fun he => by subst he; cases hx
  obtain ⟨d, hd, hcomma⟩ := afterComma_of hgap (isSpace_eq_false_of_startsValue hx) hclose h
  refine ⟨d, hd, ?_⟩
  conv => lhs; unfold readItems
  dsimp only
  rw [Cursor.skipSpace_eq h rfl, h]
  change (afterComma c ']' >>= _) = _
  rw [hcomma]
  rfl

/-! ### Fields -/

/-- A field: its key, the colon behind it and its value. -/
def readField (fuel depth : Nat) (c : Cursor) : Except ReadError ((String × Json) × Cursor) := do
  let (k, c) ← readString c
  let c ← readColon c
  let (v, c) ← readValue fuel depth c
  .ok ((k, v), c)

private theorem readColon_of (h : c.rest = ':' :: rest) : Passes (readColon c) rest := by
  refine ⟨c.next, ?_, Cursor.rest_next h⟩
  unfold readColon
  dsimp only
  rw [Cursor.skipSpace_eq h rfl, h]
  rfl

private theorem readFields_close {fuel depth : Nat} {first : Bool} {read : List (String × Json)}
    (hgap : ∀ x ∈ gap, isSpace x = true) (h : c.rest = gap ++ '\x7d' :: rest) :
    Reads (readFields (fuel + 1) depth first read c) (obj read) rest := by
  have hskip := Cursor.rest_skipSpace_of hgap rfl h
  refine ⟨c.skipSpace.next, ?_, Cursor.rest_next hskip⟩
  unfold readFields
  dsimp only
  rw [hskip]
  rfl

/-- The first field of an object is read in front of its key. -/
private theorem readFields_first (fuel depth : Nat) (read : List (String × Json)) (hgap : ∀ x ∈ gap, isSpace x = true)
    (h : c.rest = gap ++ '"' :: cs) : ∃ d : Cursor, d.rest = '"' :: cs ∧ readFields (fuel + 1) depth true read c =
      readField fuel depth d >>= fun p => readFields fuel depth false (Fields.insert p.1.1 p.1.2 read) p.2 := by
  have hskip := Cursor.rest_skipSpace_of hgap rfl h
  refine ⟨c.skipSpace, hskip, ?_⟩
  conv => lhs; unfold readFields
  dsimp only
  rw [hskip]
  change (pure c.skipSpace >>= _) = _
  rw [pure_bind, hskip]
  dsimp only [readField]
  simp only [bind_assoc]
  rfl

/-- A further field is read behind its comma. -/
private theorem readFields_next (fuel depth : Nat) (read : List (String × Json)) (hgap : ∀ x ∈ gap, isSpace x = true)
    (h : c.rest = ',' :: (gap ++ '"' :: cs)) :
    ∃ d : Cursor, d.rest = '"' :: cs ∧ readFields (fuel + 1) depth false read c =
      readField fuel depth d >>= fun p => readFields fuel depth false (Fields.insert p.1.1 p.1.2 read) p.2 := by
  have hclose : '"' ≠ '\x7d' := by decide
  obtain ⟨d, hd, hcomma⟩ := afterComma_of hgap rfl hclose h
  refine ⟨d, hd, ?_⟩
  conv => lhs; unfold readFields
  dsimp only
  rw [Cursor.skipSpace_eq h rfl, h]
  change (afterComma c '\x7d' >>= _) = _
  rw [hcomma]
  change (pure d >>= _) = _
  rw [pure_bind, hd]
  dsimp only [readField]
  simp only [bind_assoc]
  rfl

end

/-! ### Values in front of other text -/

/-- The values of one word, each with its first character and the others. -/
def words : List (Char × List Char × Json) :=
  [('n', "ull".toList, null), ('t', "rue".toList, bool true), ('f', "alse".toList, bool false)]

private theorem readValue_word {c : Cursor} {x : Char} {word rest : List Char} {v : Json} (hv : (x, word, v) ∈ words)
    (h : c.rest = x :: word ++ rest) (fuel depth : Nat) : Reads (readValue (fuel + 1) depth c) v rest := by
  have hread : readValue (fuel + 1) depth c = readWord c.next word v := by
    simp only [words, List.mem_cons, Prod.mk.injEq, List.not_mem_nil, or_false] at hv
    rcases hv with ⟨rfl, rfl, rfl⟩ | ⟨rfl, rfl, rfl⟩ | ⟨rfl, rfl, rfl⟩
    all_goals
      conv => lhs; unfold readValue
      dsimp only
      rw [Cursor.skipSpace_eq h rfl, h]
      rfl
  rw [hread]
  exact readWord_append v (Cursor.rest_next h)

private theorem readValue_string {c : Cursor} {s : String} {rest : List Char} (h : c.rest = quote s ++ rest)
    (fuel depth : Nat) :
    Reads (readValue (fuel + 1) depth c) (str s) rest := by
  have hread : readValue (fuel + 1) depth c = readString c >>= fun p => .ok (str p.1, p.2) := by
    conv => lhs; unfold readValue
    dsimp only
    rw [Cursor.skipSpace_eq h rfl, h]
    rfl
  rw [hread]
  exact (readString_quote h).bind fun d hd => ⟨d, rfl, hd⟩

/-- White space in front of a value is skipped. -/
private theorem readValue_gap {c : Cursor} {gap cs rest : List Char} {x : Char} {v : Json} {fuel depth : Nat}
    (hgap : ∀ y ∈ gap, isSpace y = true) (hx : startsValue x = true) (h : c.rest = gap ++ x :: cs)
    (hread : ∀ d : Cursor, d.rest = x :: cs → Reads (readValue (fuel + 1) depth d) v rest) :
    Reads (readValue (fuel + 1) depth c) v rest := by
  have hspace := isSpace_eq_false_of_startsValue hx
  have hskip := Cursor.rest_skipSpace_of hgap hspace h
  have hsame : readValue (fuel + 1) depth c.skipSpace = readValue (fuel + 1) depth c := by
    unfold readValue
    dsimp only
    rw [Cursor.skipSpace_eq hskip hspace]
  exact hsame ▸ hread _ hskip

private theorem readValue_array {c : Cursor} {cs : List Char} {depth : Nat} (h : c.rest = '[' :: cs)
    (hdepth : 1 < depth) (fuel : Nat) : readValue (fuel + 1) depth c = readItems fuel (depth - 1) true [] c.next := by
  conv => lhs; unfold readValue
  dsimp only
  rw [Cursor.skipSpace_eq h rfl, h]
  exact if_neg (Nat.not_le_of_lt hdepth)

private theorem readValue_object {c : Cursor} {cs : List Char} {depth : Nat} (h : c.rest = '\x7b' :: cs)
    (hdepth : 1 < depth) (fuel : Nat) : readValue (fuel + 1) depth c = readFields fuel (depth - 1) true [] c.next := by
  conv => lhs; unfold readValue
  dsimp only
  rw [Cursor.skipSpace_eq h rfl, h]
  exact if_neg (Nat.not_le_of_lt hdepth)

/-- A value is read back wherever a layout puts it in front of what ends a number. -/
def Layout.Restores (l : Layout) (v : Json) : Prop :=
  ∀ ⦃level depth fuel : Nat⦄ ⦃c : Cursor⦄ ⦃rest : List Char⦄, v.nesting < depth → 2 * (l.chars level v).length < fuel →
    EndsNumber rest → c.rest = l.chars level v ++ rest → Reads (readValue fuel depth c) v rest

/-- The items behind the first are read back up to the closing bracket. -/
def Layout.RestoresItems (l : Layout) (items : List Json) : Prop :=
  ∀ ⦃level close depth fuel : Nat⦄ ⦃c : Cursor⦄ ⦃read : List Json⦄ ⦃rest : List Char⦄, nestingItems items < depth →
    2 * (l.moreItems level items ++ (l.gap close ++ [']'])).length < fuel →
      c.rest = l.moreItems level items ++ (l.gap close ++ ']' :: rest) →
        Reads (readItems fuel depth false read c) (arr (read.reverse ++ items)) rest

/-- The fields behind the first are read back up to the closing bracket. -/
def Layout.RestoresFields (l : Layout) (fields : List (String × Json)) : Prop :=
  ∀ ⦃level close depth fuel : Nat⦄ ⦃c : Cursor⦄ ⦃read : List (String × Json)⦄ ⦃rest : List Char⦄,
    Fields.Sorted (read ++ fields) → nestingFields fields < depth →
      2 * (l.moreFields level fields ++ (l.gap close ++ ['\x7d'])).length < fuel →
        c.rest = l.moreFields level fields ++ (l.gap close ++ '\x7d' :: rest) →
          Reads (readFields fuel depth false read c) (obj (read ++ fields)) rest

namespace Layout

variable {l : Layout}

private theorem restores_word {x : Char} (word : List Char) {v : Json} (hv : (x, word, v) ∈ words)
    (hchars : ∀ level, l.chars level v = x :: word) : l.Restores v := by
  intro level depth fuel c rest _ hfuel _ h
  obtain ⟨fuel, rfl⟩ := Nat.exists_eq_add_one_of_ne_zero (Nat.ne_zero_of_lt hfuel)
  exact readValue_word hv (by rw [h, hchars]) fuel depth

private theorem restores_string (s : String) : l.Restores (str s) := by
  intro level depth fuel c rest _ hfuel _ h
  obtain ⟨fuel, rfl⟩ := Nat.exists_eq_add_one_of_ne_zero (Nat.ne_zero_of_lt hfuel)
  exact readValue_string h fuel depth

private theorem restores_number {n : JsonNumber} (hn : Legible n) : l.Restores (num n) := by
  intro level depth fuel c rest _ hfuel hrest h
  obtain ⟨fuel, rfl⟩ := Nat.exists_eq_add_one_of_ne_zero (Nat.ne_zero_of_lt hfuel)
  obtain ⟨x, cs, hchars, hx⟩ := hn.starts
  obtain ⟨d, hread, hd⟩ := hn.reads hrest h
  have hfirst : c.rest = x :: (cs ++ rest) := by
    rw [h, show l.chars level (num n) = n.chars from rfl, hchars, List.cons_append]
  rw [readValue_number hfirst hx, hread]
  exact ⟨d, rfl, hd⟩

/-! ### Arrays -/

private theorem restoresItems_nil : l.RestoresItems [] := by
  intro level close depth fuel c read rest _ hfuel h
  obtain ⟨fuel, rfl⟩ := Nat.exists_eq_add_one_of_ne_zero (Nat.ne_zero_of_lt hfuel)
  rw [List.append_nil]
  exact readItems_close (l.gap_isSpace close) h

private theorem restoresItems_cons {v : Json} {items : List Json} (hv : v.IsReadable) (hfirst : l.Restores v)
    (hrest : l.RestoresItems items) : l.RestoresItems (v :: items) := by
  intro level close depth fuel c read rest hdepth hfuel h
  obtain ⟨fuel, rfl⟩ := Nat.exists_eq_add_one_of_ne_zero (Nat.ne_zero_of_lt hfuel)
  obtain ⟨x, cs, hchars, hx⟩ := l.exists_cons_chars level hv
  have hnesting : v.nesting < depth ∧ nestingItems items < depth := Nat.max_lt.1 hdepth
  simp only [moreItems, List.length_cons, List.length_append] at hfuel
  simp only [moreItems, List.cons_append, List.append_assoc] at h
  have hend : EndsNumber (l.moreItems level items ++ (l.gap close ++ ']' :: rest)) :=
    .moreItems items (.gap (l.gap_isSpace close) (.cons (by decide)))
  obtain ⟨d, hd, hstep⟩ := readItems_next fuel depth read (l.gap_isSpace level) hx
    (by rw [h, hchars, List.cons_append])
  rw [hstep, List.append_cons]
  refine (@hfirst level _ _ _ _ hnesting.1 (by omega) hend (by rw [hd, hchars, List.cons_append])).bind fun e he => ?_
  rw [← List.reverse_cons]
  exact hrest hnesting.2 (by simp only [List.length_append, List.length_cons]; omega) he

private theorem restores_nil : l.Restores (arr []) := by
  intro level depth fuel c rest hdepth hfuel _ h
  have hlength : 4 < fuel := hfuel
  have hdepth : 1 < depth := hdepth
  obtain ⟨fuel, rfl⟩ : ∃ k, fuel = k + 1 + 1 := ⟨fuel - 2, by omega⟩
  rw [readValue_array h hdepth]
  exact readItems_close (List.forall_mem_nil _) (Cursor.rest_next h)

private theorem restores_array {v : Json} {items : List Json} (hv : v.IsReadable) (hfirst : l.Restores v)
    (hrest : l.RestoresItems items) : l.Restores (arr (v :: items)) := by
  intro level depth fuel c rest hdepth hfuel _ h
  obtain ⟨fuel, rfl⟩ := Nat.exists_eq_add_one_of_ne_zero (Nat.ne_zero_of_lt hfuel)
  obtain ⟨x, cs, hchars, hx⟩ := l.exists_cons_chars (level + 1) hv
  have hmax : max v.nesting (nestingItems items) + 1 < depth := hdepth
  simp only [chars, List.length_cons, List.length_append] at hfuel
  simp only [chars, List.cons_append, List.append_assoc, List.nil_append] at h
  have hend : EndsNumber (l.moreItems (level + 1) items ++ (l.gap level ++ ']' :: rest)) :=
    .moreItems items (.gap (l.gap_isSpace level) (.cons (by decide)))
  rw [readValue_array h (by omega)]
  obtain ⟨fuel, rfl⟩ := Nat.exists_eq_add_one_of_ne_zero (n := fuel) (by omega)
  obtain ⟨d, hd, hstep⟩ := readItems_first fuel (depth - 1) [] (l.gap_isSpace (level + 1)) hx
    (by rw [Cursor.rest_next h, hchars, List.cons_append])
  rw [hstep]
  refine (@hfirst (level + 1) _ _ _ _ (by omega) (by omega) hend
    (by rw [hd, hchars, List.cons_append])).bind fun e he => ?_
  exact hrest (by omega) (by simp only [List.length_append, List.length_cons]; omega) he

/-! ### Objects -/

private theorem reads_field {v : Json} (hv : v.IsReadable) (hvalue : l.Restores v) {k : String} {level depth fuel : Nat}
    {c : Cursor} {rest : List Char} (hdepth : v.nesting < depth) (hfuel : 2 * (l.chars level v).length < fuel)
    (hend : EndsNumber rest) (h : c.rest = quote k ++ ':' :: (l.space ++ (l.chars level v ++ rest))) :
    Reads (readField fuel depth c) (k, v) rest := by
  obtain ⟨x, cs, hchars, hx⟩ := l.exists_cons_chars level hv
  obtain ⟨fuel, rfl⟩ := Nat.exists_eq_add_one_of_ne_zero (Nat.ne_zero_of_lt hfuel)
  refine (readString_quote h).bind fun d hd => (readColon_of hd).bind fun e he => Reads.bind ?_ fun f hf => ⟨f, rfl, hf⟩
  rw [hchars, List.cons_append] at he
  refine readValue_gap l.space_isSpace hx he fun f hf => ?_
  exact hvalue hdepth hfuel hend (by rw [hf, hchars, List.cons_append])

private theorem restoresFields_nil : l.RestoresFields [] := by
  intro level close depth fuel c read rest _ _ hfuel h
  obtain ⟨fuel, rfl⟩ := Nat.exists_eq_add_one_of_ne_zero (Nat.ne_zero_of_lt hfuel)
  rw [List.append_nil]
  exact readFields_close (l.gap_isSpace close) h

private theorem restoresFields_cons {k : String} {v : Json} {fields : List (String × Json)} (hv : v.IsReadable)
    (hfirst : l.Restores v) (hrest : l.RestoresFields fields) : l.RestoresFields ((k, v) :: fields) := by
  intro level close depth fuel c read rest hsorted hdepth hfuel h
  obtain ⟨fuel, rfl⟩ := Nat.exists_eq_add_one_of_ne_zero (Nat.ne_zero_of_lt hfuel)
  have hnesting : v.nesting < depth ∧ nestingFields fields < depth := Nat.max_lt.1 hdepth
  have hlast : ∀ p ∈ read, p.1 < k := fun p hp => (List.pairwise_append.1 hsorted).2.2 p hp _ List.mem_cons_self
  simp only [moreFields, List.length_cons, List.length_append] at hfuel
  simp only [moreFields, List.cons_append, List.append_assoc] at h
  have hend : EndsNumber (l.moreFields level fields ++ (l.gap close ++ '\x7d' :: rest)) :=
    .moreFields fields (.gap (l.gap_isSpace close) (.cons (by decide)))
  obtain ⟨d, hd, hstep⟩ := readFields_next fuel depth read (l.gap_isSpace level) h
  rw [hstep, List.append_cons]
  refine (reads_field hv hfirst hnesting.1 (by omega) hend hd).bind fun e he => ?_
  rw [Fields.insert_of_forall_lt hlast]
  rw [List.append_cons] at hsorted
  exact hrest hsorted hnesting.2 (by simp only [List.length_append, List.length_cons]; omega) he

private theorem restores_empty : l.Restores (obj []) := by
  intro level depth fuel c rest hdepth hfuel _ h
  have hlength : 4 < fuel := hfuel
  have hdepth : 1 < depth := hdepth
  obtain ⟨fuel, rfl⟩ : ∃ k, fuel = k + 1 + 1 := ⟨fuel - 2, by omega⟩
  rw [readValue_object h hdepth]
  exact readFields_close (List.forall_mem_nil _) (Cursor.rest_next h)

private theorem restores_object {k : String} {v : Json} {fields : List (String × Json)}
    (hsorted : Fields.Sorted ((k, v) :: fields)) (hv : v.IsReadable) (hfirst : l.Restores v)
    (hrest : l.RestoresFields fields) : l.Restores (obj ((k, v) :: fields)) := by
  intro level depth fuel c rest hdepth hfuel _ h
  obtain ⟨fuel, rfl⟩ := Nat.exists_eq_add_one_of_ne_zero (Nat.ne_zero_of_lt hfuel)
  have hmax : max v.nesting (nestingFields fields) + 1 < depth := hdepth
  simp only [chars, List.length_cons, List.length_append] at hfuel
  simp only [chars, List.cons_append, List.append_assoc, List.nil_append] at h
  have hend : EndsNumber (l.moreFields (level + 1) fields ++ (l.gap level ++ '\x7d' :: rest)) :=
    .moreFields fields (.gap (l.gap_isSpace level) (.cons (by decide)))
  rw [readValue_object h (by omega)]
  obtain ⟨fuel, rfl⟩ := Nat.exists_eq_add_one_of_ne_zero (n := fuel) (by omega)
  obtain ⟨d, hd, hstep⟩ := readFields_first fuel (depth - 1) [] (l.gap_isSpace (level + 1))
    (Cursor.rest_next h)
  rw [hstep]
  refine (reads_field hv hfirst (by omega) (by omega) hend hd).bind fun e he => ?_
  exact hrest hsorted (by omega) (by simp only [List.length_append, List.length_cons]; omega) he

/-! ### All values -/

mutual

private theorem restores (l : Layout) : (v : Json) → v.Every IsReadable → l.Restores v
  | null, _ => restores_word "ull".toList (x := 'n') (by simp [words]) fun _ => rfl
  | bool true, _ => restores_word "rue".toList (x := 't') (by simp [words]) fun _ => rfl
  | bool false, _ => restores_word "alse".toList (x := 'f') (by simp [words]) fun _ => rfl
  | num _, h => restores_number h
  | str s, _ => restores_string s
  | arr [], _ => restores_nil
  | arr (v :: items), h => restores_array h.2.1.self (restores l v h.2.1) (restoresItems l items h.2.2)
  | obj [], _ => restores_empty
  | obj ((_, v) :: fields), h =>
    restores_object h.1 h.2.1.self (restores l v h.2.1) (restoresFields l fields h.2.2)

private theorem restoresItems (l : Layout) : (items : List Json) → EveryItem IsReadable items → l.RestoresItems items
  | [], _ => restoresItems_nil
  | v :: items, h => restoresItems_cons h.1.self (restores l v h.1) (restoresItems l items h.2)

private theorem restoresFields (l : Layout) :
    (fields : List (String × Json)) → EveryField IsReadable fields → l.RestoresFields fields
  | [], _ => restoresFields_nil
  | (_, v) :: fields, h => restoresFields_cons h.1.self (restores l v h.1) (restoresFields l fields h.2)

end

theorem read_chars (l : Layout) {v : Json} (hordered : v.Every IsOrdered) (hfloats : v.Every FloatReadsBack)
    (hnesting : v.nesting < maxDepth) (level : Nat) : read (String.ofList (l.chars level v)) = .ok v := by
  have hreadable : v.Every IsReadable := Every.and (fun _ => isReadable_of) v hordered hfloats
  have htext : (String.ofList (l.chars level v)).toList = l.chars level v := String.toList_ofList
  have hstart : (Cursor.ofText (String.ofList (l.chars level v))).rest = l.chars level v ++ [] := by
    rw [Cursor.ofText, htext, List.append_nil]
  obtain ⟨d, hread, hd⟩ := restores l v hreadable hnesting (Nat.lt_add_of_pos_right (Nat.succ_pos 1)) .nil hstart
  refine read_eq_ok_iff.2 ⟨d, ?_, by rw [hd]; rfl⟩
  rwa [htext]

end Layout

section

variable {v : Json} (hordered : v.Every IsOrdered) (hfloats : v.Every FloatReadsBack) (hnesting : v.nesting < maxDepth)
include hordered hfloats hnesting

theorem read_compact : read v.compact = .ok v := by
  rw [compact, ← Layout.chars_compact 0]
  exact Layout.read_chars _ hordered hfloats hnesting 0

theorem read_pretty : read v.pretty = .ok v := by
  rw [pretty, ← Layout.chars_pretty 0]
  exact Layout.read_chars _ hordered hfloats hnesting 0

end

end Sandscript.Json
