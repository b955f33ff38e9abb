import Sandscript.Proofs.Json.Numbers

/-!
# The layouts of JSON

A value is nested so many containers deep (`nesting`), and a property may hold of all its parts (`Every`); the reader
needs every object in order and every float read back where it stands alone (`IsReadable`).  Both layouts write the same
tokens and differ in the white space between them: each is a `Layout` (`chars_compact`, `chars_pretty`).
-/

namespace Sandscript.Json

/-! ### Parts -/

mutual

/-- A property holds of a value and of all its parts. -/
def Every (p : Json → Prop) : Json → Prop
  | arr items => p (arr items) ∧ EveryItem p items
  | obj fields => p (obj fields) ∧ EveryField p fields
  | v => p v

def EveryItem (p : Json → Prop) : List Json → Prop
  | [] => True
  | v :: rest => v.Every p ∧ EveryItem p rest

def EveryField (p : Json → Prop) : List (String × Json) → Prop
  | [] => True
  | (_, v) :: rest => v.Every p ∧ EveryField p rest

end

theorem everyItem_iff {p : Json → Prop} {items : List Json} : EveryItem p items ↔ ∀ v ∈ items, v.Every p := by
  induction items with
  | nil => exact ⟨fun _ => List.forall_mem_nil _, fun _ => trivial⟩
  | cons v rest ih => rw [EveryItem, ih, List.forall_mem_cons]

theorem everyField_iff {p : Json → Prop} {fields : List (String × Json)} :
    EveryField p fields ↔ ∀ q ∈ fields, q.2.Every p := by
  induction fields with
  | nil => exact ⟨fun _ => List.forall_mem_nil _, fun _ => trivial⟩
  | cons q rest ih => rw [EveryField, ih, List.forall_mem_cons]

mutual

theorem Every.and {p q r : Json → Prop} (h : ∀ v, p v → q v → r v) : (v : Json) → v.Every p → v.Every q → v.Every r
  | null, hp, hq => h _ hp hq
  | bool _, hp, hq => h _ hp hq
  | num _, hp, hq => h _ hp hq
  | str _, hp, hq => h _ hp hq
  | arr items, hp, hq => ⟨h _ hp.1 hq.1, EveryItem.and h items hp.2 hq.2⟩
  | obj fields, hp, hq => ⟨h _ hp.1 hq.1, EveryField.and h fields hp.2 hq.2⟩

private theorem EveryItem.and {p q r : Json → Prop} (h : ∀ v, p v → q v → r v) :
    (items : List Json) → EveryItem p items → EveryItem q items → EveryItem r items
  | [], _, _ => trivial
  | v :: rest, hp, hq => ⟨Every.and h v hp.1 hq.1, EveryItem.and h rest hp.2 hq.2⟩

private theorem EveryField.and {p q r : Json → Prop} (h : ∀ v, p v → q v → r v) :
    (fields : List (String × Json)) → EveryField p fields → EveryField q fields → EveryField r fields
  | [], _, _ => trivial
  | (_, v) :: rest, hp, hq => ⟨Every.and h v hp.1 hq.1, EveryField.and h rest hp.2 hq.2⟩

end

theorem Every.self {p : Json → Prop} {v : Json} (h : v.Every p) : p v := by
  cases v with
  | arr items => exact h.1
  | obj fields => exact h.1
  | _ => exact h

mutual

/-- How deeply the containers of a value are nested. -/
def nesting : Json → Nat
  | arr items => nestingItems items + 1
  | obj fields => nestingFields fields + 1
  | _ => 0

def nestingItems : List Json → Nat
  | [] => 0
  | v :: rest => max v.nesting (nestingItems rest)

def nestingFields : List (String × Json) → Nat
  | [] => 0
  | (_, v) :: rest => max v.nesting (nestingFields rest)

end

/-- The fields of an object stand in order. -/
def IsOrdered : Json → Prop
  | obj fields => Fields.Sorted fields
  | _ => True

/-- A float is read back from its own text. -/
def FloatReadsBack : Json → Prop
  | num (.float x h) => read (JsonNumber.float x h).text = .ok (num (.float x h))
  | _ => True

/-- What the reader needs of a value to find it again in its text. -/
def IsReadable : Json → Prop
  | num n => Legible n
  | obj fields => Fields.Sorted fields
  | _ => True

theorem isReadable_of {v : Json} (hordered : v.IsOrdered) (hfloat : v.FloatReadsBack) : v.IsReadable := by
  cases v with
  | num n =>
    cases n with
    | int n hrange => exact legible_int hrange
    | float x hx => exact legible_float hfloat
  | obj fields => exact hordered
  | _ => trivial

/-! ### Layouts -/

/-- The white space of a layout. -/
structure Layout where
  /-- In front of an entry at some depth, and of the closing bracket of what stands there. -/
  gap : Nat → List Char
  /-- Behind a colon. -/
  space : List Char
  gap_isSpace : ∀ depth, ∀ x ∈ gap depth, isSpace x = true
  space_isSpace : ∀ x ∈ space, isSpace x = true

namespace Layout

mutual

def chars (l : Layout) (depth : Nat) : Json → List Char
  | arr [] => ['[', ']']
  | arr (v :: rest) =>
    '[' :: (l.gap (depth + 1) ++ (l.chars (depth + 1) v ++ (l.moreItems (depth + 1) rest ++ (l.gap depth ++ [']']))))
  | obj [] => ['\x7b', '\x7d']
  | obj ((k, v) :: rest) =>
    '\x7b' :: (l.gap (depth + 1) ++ (quote k ++ ':' :: (l.space ++ (l.chars (depth + 1) v ++
      (l.moreFields (depth + 1) rest ++ (l.gap depth ++ ['\x7d']))))))
  | v => compactChars v

/-- The items behind the first. -/
def moreItems (l : Layout) (depth : Nat) : List Json → List Char
  | [] => []
  | v :: rest => ',' :: (l.gap depth ++ (l.chars depth v ++ l.moreItems depth rest))

/-- The fields behind the first. -/
def moreFields (l : Layout) (depth : Nat) : List (String × Json) → List Char
  | [] => []
  | (k, v) :: rest =>
    ',' :: (l.gap depth ++ (quote k ++ ':' :: (l.space ++ (l.chars depth v ++ l.moreFields depth rest))))

end

def compact : Layout where
  gap _ := []
  space := []
  gap_isSpace _ _ h := nomatch h
  space_isSpace _ h := nomatch h

private theorem isSpace_of_mem_newline {depth : Nat} {x : Char} (h : x ∈ newline depth) : isSpace x = true := by
  rcases List.mem_cons.1 h with rfl | h
  · rfl
  · rw [List.eq_of_mem_replicate h]
    rfl

def pretty : Layout where
  gap := newline
  space := [' ']
  gap_isSpace _ _ := isSpace_of_mem_newline
  space_isSpace _ h := List.mem_singleton.1 h ▸ rfl

mutual

theorem chars_compact (depth : Nat) : (v : Json) → compact.chars depth v = v.compactChars
  | null | bool _ | num _ | str _ => rfl
  | arr [] => rfl
  | arr (v :: rest) => by
    rw [chars, chars_compact (depth + 1) v, compactChars, ← compactItems_cons (depth + 1) v rest]
    simp [compact]
  | obj [] => rfl
  | obj ((k, v) :: rest) => by
    rw [chars, chars_compact (depth + 1) v, compactChars, ← compactFields_cons (depth + 1) k v rest]
    simp [compact]

private theorem compactItems_cons (depth : Nat) (v : Json) :
    (rest : List Json) → v.compactChars ++ compact.moreItems depth rest = compactItems (v :: rest)
  | [] => List.append_nil _
  | w :: rest => by
    rw [compactItems, moreItems, chars_compact depth w, ← compactItems_cons depth w rest]
    · rfl
    · exact List.cons_ne_nil _ _

private theorem compactFields_cons (depth : Nat) (k : String) (v : Json) :
    (rest : List (String × Json)) →
      quote k ++ ':' :: (v.compactChars ++ compact.moreFields depth rest) = compactFields ((k, v) :: rest)
  | [] => by rw [moreFields, List.append_nil, compactFields]
  | (l, w) :: rest => by
    rw [compactFields, moreFields, chars_compact depth w, ← compactFields_cons depth l w rest]
    · simp [compact]
    · exact List.cons_ne_nil _ _

end

mutual

theorem chars_pretty (depth : Nat) : (v : Json) → pretty.chars depth v = v.prettyChars depth
  | null | bool _ | num _ | str _ => rfl
  | arr [] => rfl
  | arr (v :: rest) => by
    rw [chars, chars_pretty (depth + 1) v, prettyChars, ← prettyItems_cons (depth + 1) v rest]
    · simp [pretty]
    · exact List.cons_ne_nil _ _
  | obj [] => rfl
  | obj ((k, v) :: rest) => by
    rw [chars, chars_pretty (depth + 1) v, prettyChars, ← prettyFields_cons (depth + 1) k v rest]
    · simp [pretty]
    · exact List.cons_ne_nil _ _

private theorem prettyItems_cons (depth : Nat) (v : Json) : (rest : List Json) →
    newline depth ++ (v.prettyChars depth ++ pretty.moreItems depth rest) = prettyItems depth (v :: rest)
  | [] => by rw [moreItems, List.append_nil, prettyItems]
  | w :: rest => by
    rw [prettyItems, moreItems, chars_pretty depth w, ← prettyItems_cons depth w rest]
    · simp [pretty]
    · exact List.cons_ne_nil _ _

private theorem prettyFields_cons (depth : Nat) (k : String) (v : Json) : (rest : List (String × Json)) →
    newline depth ++ (quote k ++ ':' :: ' ' :: (v.prettyChars depth ++ pretty.moreFields depth rest)) =
      prettyFields depth ((k, v) :: rest)
  | [] => by
    rw [moreFields, List.append_nil, prettyFields]
    simp
  | (l, w) :: rest => by
    rw [prettyFields, moreFields, chars_pretty depth w, ← prettyFields_cons depth l w rest]
    · simp [pretty]
    · exact List.cons_ne_nil _ _

end

end Layout

end Sandscript.Json
