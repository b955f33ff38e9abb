import Sandscript.Proofs.Syntax.Parts

/-!
# Traits of scripts

A trait is something that a part of a script may show: an array or a map of a certain size, a call of a certain name, or
the use of modules.  It is looked for in a part and everything inside of it (`Trait.In`), the labels of a switch
included, in which literals stand as values.  For each kind of part a rule says where in it a trait can be.
-/

namespace Sandscript

structure Trait where
  /-- Of an array literal with so many items. -/
  array : Nat → Prop
  /-- Of a map literal with so many entries. -/
  map : Nat → Prop
  /-- Of a call of this name. -/
  call : String → Prop
  /-- Of what imports or exports. -/
  foreign : Prop

namespace Trait

open Sandscript.Part

variable (t : Trait)

/-! ### Values -/

mutual

/-- A value, or one inside of it, shows the trait. -/
def InValue : Value → Prop
  | .arr items => t.array items.length ∨ InValues items
  | .map entries => t.map entries.length ∨ InEntries entries
  | _ => False

def InValues : List Value → Prop
  | [] => False
  | v :: rest => InValue v ∨ InValues rest

def InEntries : List (String × Value) → Prop
  | [] => False
  | (_, v) :: rest => InValue v ∨ InEntries rest

end

def InLabel : Label → Prop
  | .value v => t.InValue v
  | .range .. => False

def InLabels : List Label → Prop
  | [] => False
  | l :: rest => t.InLabel l ∨ InLabels rest

variable {t}

mutual

/-- A value shows nothing but sizes. -/
theorem not_inValue (harray : ∀ n, ¬ t.array n) (hmap : ∀ n, ¬ t.map n) : ∀ v : Value, ¬ t.InValue v
  | .arr items => not_or.2 ⟨harray _, not_inValues harray hmap items⟩
  | .map entries => not_or.2 ⟨hmap _, not_inEntries harray hmap entries⟩
  | .unit | .bool _ | .int _ | .float _ | .dec _ | .char _ | .str _ | .blob _ | .fn .. | .range .. | .rangeIncl ..
  | .series _ => id

private theorem not_inValues (harray : ∀ n, ¬ t.array n) (hmap : ∀ n, ¬ t.map n) : ∀ vs : List Value, ¬ t.InValues vs
  | [] => id
  | v :: rest => not_or.2 ⟨not_inValue harray hmap v, not_inValues harray hmap rest⟩

private theorem not_inEntries (harray : ∀ n, ¬ t.array n) (hmap : ∀ n, ¬ t.map n) :
    ∀ es : List (String × Value), ¬ t.InEntries es
  | [] => id
  | (_, v) :: rest => not_or.2 ⟨not_inValue harray hmap v, not_inEntries harray hmap rest⟩

end

variable (t)

/-! ### Parts -/

/-- A part shows the trait by itself, whatever is inside of it. -/
def Marks : Part → Prop
  | expr (.literal _ v) => t.InValue v
  | expr (.array _ items) => t.array items.length
  | expr (.map _ entries) => t.map entries.length
  | expr (.call _ _ name _ _) => t.call name
  | link (.method _ _ _ name _) => t.call name
  | stmt (.importModule ..) | stmt (.exportName ..) => t.foreign
  | stmt (.declare _ exported _ _ _) => exported ∧ t.foreign
  | arm (.mk labels _ _) => t.InLabels labels
  | _ => False

/-- A part, or one inside of it, shows the trait. -/
def In (p : Part) : Prop := ∃ q, Within Part.inner p q ∧ t.Marks q

/-- One of some parts has the trait in it. -/
def InAny : List Part → Prop
  | [] => False
  | p :: rest => t.In p ∨ InAny rest

variable {t}

theorem inAny_iff {ps : List Part} : t.InAny ps ↔ ∃ p ∈ ps, t.In p := by
  induction ps with
  | nil => simp [InAny]
  | cons p rest ih => simp [InAny, ih]

private theorem in_iff {p : Part} : t.In p ↔ t.Marks p ∨ t.InAny p.inner := by
  rw [inAny_iff]
  constructor
  · rintro ⟨q, hpq, hq⟩
    rcases within_iff.1 hpq with rfl | ⟨r, hr, hrq⟩
    · exact Or.inl hq
    · exact Or.inr ⟨r, hr, q, hrq, hq⟩
  · rintro (hp | ⟨r, hr, q, hrq, hq⟩)
    · exact ⟨p, .refl p, hp⟩
    · exact ⟨q, .step hr hrq, hq⟩

@[simp]
private theorem inAny_nil : t.InAny [] ↔ False := Iff.rfl

@[simp]
private theorem inAny_cons {p : Part} {ps : List Part} : t.InAny (p :: ps) ↔ t.In p ∨ t.InAny ps := Iff.rfl

@[simp]
theorem inAny_append {ps qs : List Part} : t.InAny (ps ++ qs) ↔ t.InAny ps ∨ t.InAny qs := by
  simp [inAny_iff, or_and_right, exists_or]

@[simp]
theorem inAny_reverse {ps : List Part} : t.InAny ps.reverse ↔ t.InAny ps := by simp [inAny_iff]

theorem inLabels_iff {labels : List Label} : t.InLabels labels ↔ ∃ l ∈ labels, t.InLabel l := by
  induction labels with
  | nil => simp [InLabels]
  | cons l rest ih => simp [InLabels, ih]

@[simp]
private theorem inLabels_reverse {labels : List Label} : t.InLabels labels.reverse ↔ t.InLabels labels :=
  by simp [inLabels_iff]

/-! #### Parts by their kind -/

section

variable {q r : Part} {ps : List Part}

/-- A part of which a walk enters everything. -/
private theorem in_of_skipped (hs : q.skipped = []) (hw : q.walked = ps) : t.In q ↔ t.Marks q ∨ t.InAny ps := by
  rw [in_iff, Part.inner, hs, hw, List.append_nil]

/-- A part that shows nothing by itself. -/
private theorem in_unmarked (hm : t.Marks q = False) (hs : q.skipped = []) (hw : q.walked = ps) :
    t.In q ↔ t.InAny ps := by rw [in_of_skipped hs hw, hm, false_or]

private theorem in_unmarked_cons (hm : t.Marks q = False) (hs : q.skipped = []) (hw : q.walked = r :: ps) :
    t.In q ↔ t.In r ∨ t.InAny ps := in_unmarked hm hs hw

private theorem in_unmarked_one (hm : t.Marks q = False) (hs : q.skipped = []) (hw : q.walked = [r]) :
    t.In q ↔ t.In r := by rw [in_unmarked_cons hm hs hw, inAny_nil, or_false]

private theorem in_unmarked_two {r' : Part} (hm : t.Marks q = False) (hs : q.skipped = []) (hw : q.walked = [r, r']) :
    t.In q ↔ t.In r ∨ t.In r' := by rw [in_unmarked_cons hm hs hw, inAny_cons, inAny_nil, or_false]

private theorem not_in (hm : t.Marks q = False) (hs : q.skipped = []) (hw : q.walked = []) : ¬ t.In q := by
  rw [in_unmarked hm hs hw]
  exact not_false

end

section

variable {p p' : Position} {e e' : Expr} {es : List Expr}

@[simp]
theorem in_literal {v : Value} : t.In (.expr (.literal p v)) ↔ t.InValue v :=
  (in_of_skipped rfl rfl).trans (or_iff_left not_false)

@[simp]
private theorem in_text : t.In (.expr (.text p es)) ↔ t.InAny (es.map .expr) := in_unmarked rfl rfl rfl

@[simp]
theorem in_array : t.In (.expr (.array p es)) ↔ t.array es.length ∨ t.InAny (es.map .expr) := in_of_skipped rfl rfl

@[simp]
theorem in_map {entries : List (String × Expr)} :
    t.In (.expr (.map p entries)) ↔ t.map entries.length ∨ t.InAny (entries.map fun e => .expr e.2) :=
  in_of_skipped rfl rfl

@[simp]
private theorem in_var {name : String} : ¬ t.In (.expr (.var p name)) := not_in rfl rfl rfl

@[simp]
private theorem in_qualified {path : List String} {name : String} : ¬ t.In (.expr (.qualified p p' path name)) :=
  not_in rfl rfl rfl

@[simp]
private theorem in_this : ¬ t.In (.expr (.this p)) := not_in rfl rfl rfl

@[simp]
private theorem in_capture {function : String} {outer : List String} : ¬ t.In (.expr (.capture p function outer)) :=
  not_in rfl rfl rfl

@[simp]
private theorem in_unary {op : UnaryOp} : t.In (.expr (.unary p op e)) ↔ t.In (.expr e) := in_unmarked_one rfl rfl rfl

@[simp]
theorem in_binary {op : BinaryOp} : t.In (.expr (.binary p op e e')) ↔ t.In (.expr e) ∨ t.In (.expr e') :=
  in_unmarked_two rfl rfl rfl

@[simp]
theorem in_call {path : List String} {name : String} {inScope : Bool} :
    t.In (.expr (.call p path name inScope es)) ↔ t.call name ∨ t.InAny (es.map .expr) := in_of_skipped rfl rfl

@[simp]
private theorem in_chain {links : List Link} :
    t.In (.expr (.chain p e links)) ↔ t.In (.expr e) ∨ t.InAny (links.map .link) :=
  in_unmarked_cons rfl rfl rfl

@[simp]
private theorem in_statement {s : Stmt} : t.In (.expr (.statement s)) ↔ t.In (.stmt s) := in_unmarked_one rfl rfl rfl

@[simp]
private theorem in_property {optional : Bool} {name : String} : ¬ t.In (.link (.property p p' optional name)) :=
  not_in rfl rfl rfl

@[simp]
private theorem in_index {optional : Bool} : t.In (.link (.index p optional e)) ↔ t.In (.expr e) :=
  in_unmarked_one rfl rfl rfl

@[simp]
private theorem in_method {optional : Bool} {name : String} :
    t.In (.link (.method p p' optional name es)) ↔ t.call name ∨ t.InAny (es.map .expr) := in_of_skipped rfl rfl

end

section

variable {p p' : Position} {e e' : Expr} {value : Option Expr} {s : Stmt} {body body' : List Stmt}

@[simp]
private theorem in_exprStmt : t.In (.stmt (.expr e)) ↔ t.In (.expr e) := in_unmarked_one rfl rfl rfl

@[simp]
private theorem in_declare {exported constant : Bool} {name : String} :
    t.In (.stmt (.declare p exported constant name value)) ↔
      (exported ∧ t.foreign) ∨ t.InAny (value.toList.map .expr) := in_of_skipped rfl rfl

@[simp]
private theorem in_assign {op : Option BinaryOp} :
    t.In (.stmt (.assign p op e e')) ↔ t.In (.expr e) ∨ t.In (.expr e') :=
  in_unmarked_two rfl rfl rfl

@[simp]
private theorem in_block : t.In (.stmt (.block p body)) ↔ t.InAny (body.map .stmt) := in_unmarked rfl rfl rfl

@[simp]
private theorem in_ifElse : t.In (.stmt (.ifElse p e body body')) ↔
    t.In (.expr e) ∨ t.InAny (body.map .stmt) ∨ t.InAny (body'.map .stmt) :=
  (in_unmarked_cons rfl rfl rfl).trans (or_congr_right inAny_append)

@[simp]
private theorem in_switch {cases : List Case} {otherwise : Option Stmt} :
    t.In (.stmt (.switch p e cases otherwise)) ↔
      t.In (.expr e) ∨ t.InAny (cases.map .arm) ∨ t.InAny (otherwise.toList.map .stmt) :=
  (in_unmarked_cons rfl rfl rfl).trans (or_congr_right inAny_append)

@[simp]
private theorem in_whileLoop : t.In (.stmt (.whileLoop p value p' body)) ↔
    t.InAny (value.toList.map .expr) ∨ t.InAny (body.map .stmt) := (in_unmarked rfl rfl rfl).trans inAny_append

@[simp]
private theorem in_doWhile {repeats : Bool} : t.In (.stmt (.doWhile p repeats body e)) ↔
    t.In (.expr e) ∨ t.InAny (body.map .stmt) := in_unmarked_cons rfl rfl rfl

@[simp]
private theorem in_forIn {item : String} {counter : Option String} : t.In (.stmt (.forIn p item counter e p' body)) ↔
    t.In (.expr e) ∨ t.InAny (body.map .stmt) := in_unmarked_cons rfl rfl rfl

@[simp]
private theorem in_breakLoop : t.In (.stmt (.breakLoop p value)) ↔ t.InAny (value.toList.map .expr) := by
  have hinner : (Part.stmt (.breakLoop p value)).inner = value.toList.map .expr := List.append_nil _
  rw [in_iff, hinner]
  exact or_iff_right not_false

@[simp]
private theorem in_continueLoop : ¬ t.In (.stmt (.continueLoop p)) := not_in rfl rfl rfl

@[simp]
private theorem in_returnValue : t.In (.stmt (.returnValue p value)) ↔ t.InAny (value.toList.map .expr) :=
  in_unmarked rfl rfl rfl

@[simp]
private theorem in_throwValue : t.In (.stmt (.throwValue p value)) ↔ t.InAny (value.toList.map .expr) :=
  in_unmarked rfl rfl rfl

@[simp]
private theorem in_tryCatch {error : Option String} : t.In (.stmt (.tryCatch p body error body')) ↔
    t.InAny (body.map .stmt) ∨ t.InAny (body'.map .stmt) := (in_unmarked rfl rfl rfl).trans inAny_append

@[simp]
private theorem in_importModule {newName : Option String} : t.In (.stmt (.importModule p e newName)) ↔
    t.foreign ∨ t.In (.expr e) := (in_of_skipped rfl rfl).trans (or_congr_right (or_iff_left not_false))

@[simp]
private theorem in_exportName {name : String} {newName : Option String} : t.In (.stmt (.exportName p name newName)) ↔
    t.foreign := (in_of_skipped rfl rfl).trans (or_iff_left not_false)

@[simp]
private theorem in_arm {labels : List Label} : t.In (.arm (.mk labels value s)) ↔
    t.InLabels labels ∨ t.InAny (value.toList.map .expr) ∨ t.In (.stmt s) := by
  have hinner : (Part.arm (.mk labels value s)).inner = value.toList.map .expr ++ [.stmt s] := by
    cases labels with
    | nil => rfl
    | cons => exact List.append_nil _
  rw [in_iff, hinner, inAny_append, inAny_cons, inAny_nil, or_false]
  rfl

end

end Trait

end Sandscript
