import Mathlib.Data.List.Nodup
import Sandscript.Proofs.Syntax.Results
import Sandscript.Proofs.Syntax.Traits

/-!
# Literals in the labels of a switch

A label is kept as a value, not as an expression.  The parser refuses a map literal that names a property twice
(`Parser.exprStep_keysDistinct`), so no entry of a literal is lost on the way to its value, and a label shows what its
expression shows (`Trait.inLabel_iff`).
-/

namespace Sandscript

/-! ### Maps without repeated keys -/

namespace Fields

variable {α : Type}

private theorem insert_perm {key : String} (v : α) {fs : List (String × α)} (h : key ∉ keys fs) :
    (insert key v fs).Perm ((key, v) :: fs) := by
  induction fs with
  | nil => exact .refl _
  | cons f rest ih =>
    obtain ⟨k, w⟩ := f
    rw [keys, List.map_cons, List.mem_cons, not_or] at h
    unfold insert
    split
    · exact .refl _
    · rw [if_neg h.1]
      exact (List.Perm.cons _ (ih h.2)).trans (.swap _ _ _)

private theorem foldl_insert_perm {pairs fs : List (String × α)} (h : (keys (fs ++ pairs)).Nodup) :
    (pairs.foldl (fun fs p => insert p.1 p.2 fs) fs).Perm (fs ++ pairs) := by
  induction pairs generalizing fs with
  | nil => rw [List.append_nil]; exact .refl _
  | cons p rest ih =>
    obtain ⟨k, v⟩ := p
    have hmiddle : (fs ++ (k, v) :: rest).Perm ((k, v) :: fs ++ rest) := List.perm_middle
    have hkeys : (keys ((k, v) :: fs ++ rest)).Nodup := (hmiddle.map _).nodup_iff.1 h
    have hnew : k ∉ keys fs := by
      intro hk
      refine (List.nodup_cons.1 hkeys).1 ?_
      change k ∈ (fs ++ rest).map (·.1)
      rw [List.map_append]
      exact List.mem_append_left _ hk
    have hinsert := (insert_perm v hnew).append_right rest
    have hnodup : (keys (insert k v fs ++ rest)).Nodup := (hinsert.map _).nodup_iff.2 hkeys
    exact (ih hnodup).trans (hinsert.trans hmiddle.symm)

/-- If no key is repeated, every pair becomes a field. -/
private theorem ofPairs_perm (pairs : List (String × α)) (h : (keys pairs).Nodup) : (ofPairs pairs).Perm pairs :=
  foldl_insert_perm h

end Fields

mutual

/-- No map literal that an expression consists of names a property twice. -/
def Expr.KeysDistinct : Expr → Prop
  | .array _ items => AllKeysDistinct items
  | .map _ entries => (Fields.keys entries).Nodup ∧ EntriesKeysDistinct entries
  | _ => True

def AllKeysDistinct : List Expr → Prop
  | [] => True
  | e :: rest => e.KeysDistinct ∧ AllKeysDistinct rest

def EntriesKeysDistinct : List (String × Expr) → Prop
  | [] => True
  | (_, e) :: rest => e.KeysDistinct ∧ EntriesKeysDistinct rest

end

private theorem allKeysDistinct_iff {es : List Expr} : AllKeysDistinct es ↔ ∀ e ∈ es, e.KeysDistinct := by
  induction es with
  | nil => simp [AllKeysDistinct]
  | cons e rest ih => simp [AllKeysDistinct, ih]

private theorem AllKeysDistinct.reverse {es : List Expr} (h : AllKeysDistinct es) : AllKeysDistinct es.reverse := by
  rw [allKeysDistinct_iff] at h ⊢
  exact fun e he => h e (List.mem_reverse.1 he)

private theorem entriesKeysDistinct_iff {entries : List (String × Expr)} :
    EntriesKeysDistinct entries ↔ ∀ e ∈ entries, e.2.KeysDistinct := by
  induction entries with
  | nil => simp [EntriesKeysDistinct]
  | cons e rest ih => simp [EntriesKeysDistinct, ih]

/-! ### Labels -/

namespace Trait

variable {t : Trait}

private theorem inEntries_iff {entries : List (String × Value)} :
    t.InEntries entries ↔ ∃ e ∈ entries, t.InValue e.2 := by
  induction entries with
  | nil => simp [InEntries]
  | cons e rest ih => simp [InEntries, ih]

open Sandscript.Parser in
mutual

/-- A value shows what the literal shows that it comes from. -/
private theorem inValue_iff :
    ∀ {e : Expr} {v : Value}, constant? e = some v → e.KeysDistinct → (t.InValue v ↔ t.In (.expr e))
  | .literal _ _, _, h, _ => by
    cases h
    exact in_literal.symm
  | .array _ items, v, h, hkeys => by
    obtain ⟨vs, hvs, rfl⟩ := Option.map_eq_some_iff.1 h
    obtain ⟨hlength, hin⟩ := inValues_iff hvs hkeys
    rw [in_array, InValue, hlength, hin]
  | .map _ entries, v, h, hkeys => by
    obtain ⟨vs, hvs, rfl⟩ := Option.map_eq_some_iff.1 h
    obtain ⟨hnames, hin⟩ := inEntries_iff_of_constants hvs hkeys.2
    have hperm := Fields.ofPairs_perm vs (by rw [hnames]; exact hkeys.1)
    have hlength : vs.length = entries.length := by
      have hnumber := congrArg List.length hnames
      rwa [Fields.keys, Fields.keys, List.length_map, List.length_map] at hnumber
    have hentries : t.InEntries (Fields.ofPairs vs) ↔ t.InEntries vs := by
      simp only [inEntries_iff, hperm.mem_iff]
    rw [in_map, InValue, hperm.length_eq, hlength, hentries, hin]
  | .text .., _, h, _ | .var .., _, h, _ | .qualified .., _, h, _ | .this _, _, h, _ | .capture .., _, h, _
  | .unary .., _, h, _ | .binary .., _, h, _ | .call .., _, h, _ | .chain .., _, h, _ | .statement _, _, h, _ => by
    cases h

private theorem inValues_iff : ∀ {es : List Expr} {vs : List Value}, constants? es = some vs → AllKeysDistinct es →
    vs.length = es.length ∧ (t.InValues vs ↔ t.InAny (es.map .expr))
  | [], _, h, _ => by
    cases h
    exact ⟨rfl, Iff.rfl⟩
  | e :: rest, vs, h, hkeys => by
    rw [constants?] at h
    split at h
    · rename_i w ws hw hws
      cases h
      obtain ⟨hlength, hin⟩ := inValues_iff hws hkeys.2
      exact ⟨congrArg (· + 1) hlength, or_congr (inValue_iff hw hkeys.1) hin⟩
    · cases h

private theorem inEntries_iff_of_constants : ∀ {entries : List (String × Expr)} {vs : List (String × Value)},
    constantEntries? entries = some vs → EntriesKeysDistinct entries →
      Fields.keys vs = Fields.keys entries ∧ (t.InEntries vs ↔ t.InAny (entries.map fun e => .expr e.2))
  | [], _, h, _ => by
    cases h
    exact ⟨rfl, Iff.rfl⟩
  | (k, e) :: rest, vs, h, hkeys => by
    rw [constantEntries?] at h
    split at h
    · rename_i w ws hw hws
      cases h
      obtain ⟨hnames, hin⟩ := inEntries_iff_of_constants hws hkeys.2
      exact ⟨congrArg (k :: ·) hnames, or_congr (inValue_iff hw hkeys.1) hin⟩
    · cases h

end

private theorem not_in_of_bound? {n m : Int64} {e : Expr} (h : Parser.bound? n e = some m) : ¬ t.In (.expr e) := by
  unfold Parser.bound? at h
  split at h
  · simp [InValue]
  · simp [InValue]
  · cases h

/-- A label shows what its expression shows. -/
theorem inLabel_iff {e : Expr} {l : Label} (h : Parser.label? e = some l) (hkeys : e.KeysDistinct) :
    t.InLabel l ↔ t.In (.expr e) := by
  have hrange {lo hi : Expr} {n m : Int64} (hlo : Parser.bound? 0 lo = some n)
      (hhi : Parser.bound? Int64.maxValue hi = some m) : ¬ (t.In (.expr lo) ∨ t.In (.expr hi)) := by
    rw [not_or]
    exact ⟨not_in_of_bound? hlo, not_in_of_bound? hhi⟩
  unfold Parser.label? at h
  split at h
  · split at h
    · rename_i hlo hhi
      cases h
      rw [in_binary]
      exact iff_of_false not_false (hrange hlo hhi)
    · cases h
  · split at h
    · rename_i hlo hhi
      cases h
      rw [in_binary]
      exact iff_of_false not_false (hrange hlo hhi)
    · cases h
  · obtain ⟨v, hv, rfl⟩ := Option.map_eq_some_iff.1 h
    exact inValue_iff hv hkeys

end Trait

/-! ### The expressions of the parser -/

namespace Parser

/-- In the expressions that a grammar gives, no map literal names a property twice. -/
structure KeepsKeys (g : Grammar) : Prop where
  expr (s : Setting) : Yields (g.expr s) Expr.KeysDistinct
  unary (s : Setting) : Yields (g.unary s) Expr.KeysDistinct
  binary (s : Setting) (parent : Nat) {lhs : Expr} (h : lhs.KeysDistinct) :
    Yields (g.binary s parent lhs) Expr.KeysDistinct
  primary (s : Setting) (afterPeriod : Bool) : Yields (g.primary s afterPeriod) Expr.KeysDistinct

/-- What the entries of a map literal are: no property is named twice, neither by them nor inside of them. -/
structure MapEntries (entries : List (String × Expr)) : Prop where
  nodup : (Fields.keys entries).Nodup
  keys : EntriesKeysDistinct entries

private theorem MapEntries.reverse {done : List (String × Expr)} (h : MapEntries done) : MapEntries done.reverse := by
  constructor
  · rw [Fields.keys, List.map_reverse]
    exact List.nodup_reverse.2 h.nodup
  · rw [entriesKeysDistinct_iff]
    exact fun e he => entriesKeysDistinct_iff.1 h.keys e (List.mem_reverse.1 he)

section step

variable {g : Grammar} (hg : KeepsKeys g)

include hg

private theorem arrayItems_yields (s : Setting) (n : Nat) (done : List Expr) (h : AllKeysDistinct done) :
    Yields (arrayItems g s n done) AllKeysDistinct := by
  induction n generalizing done with
  | zero => exact .fail _ _
  | succ n ih =>
    unfold arrayItems
    refine .of_bind fun next => ?_
    extract_lets items
    have hitems : Yields (items ()) AllKeysDistinct := by
      unfold items
      split
      · exact .of_bind fun _ => .pure h.reverse
      · exact .fail _ _
      refine (hg.expr s).bind fun e he => .of_bind fun next => ?_
      split
      · exact .of_bind fun _ => ih _ ⟨he, h⟩
      · exact ih _ ⟨he, h⟩
      · exact .fail _ _
      · exact .fail _ _
      · exact .fail _ _
    split
    · exact .fail_bind _ _
    · exact hitems

private theorem mapEntries_yields (s : Setting) (n : Nat) (done : List (String × Expr)) (h : MapEntries done) :
    Yields (mapEntries g s n done) MapEntries := by
  induction n generalizing done with
  | zero => exact .fail _ _
  | succ n ih =>
    unfold mapEntries
    extract_lets unended entry
    have hentry {name : String} (hname : done.any (·.1 == name) ≠ true) : Yields (entry name) MapEntries := by
      have hnew : name ∉ Fields.keys done := by
        intro hmem
        obtain ⟨e, he, rfl⟩ := List.mem_map.1 hmem
        exact hname (List.any_eq_true.2 ⟨e, he, beq_self_eq_true _⟩)
      unfold entry
      refine .of_bind fun _ => ?_
      extract_lets value
      have hvalue : Yields (value ()) MapEntries := by
        refine (hg.expr s).bind fun e he => .of_bind fun next => ?_
        have hmore : Yields (mapEntries g s n ((name, e) :: done)) MapEntries :=
          ih _ ⟨List.nodup_cons.2 ⟨hnew, h.nodup⟩, he, h.keys⟩
        split
        · exact .of_bind fun _ => hmore
        · exact hmore
        · exact .fail _ _
        · exact .fail _ _
        · exact .fail _ _
      split
      · exact .of_bind fun _ => .fail_bind _ _
      · exact hvalue
    refine .of_bind fun first => ?_
    split
    · exact .pure h.reverse
    · exact .fail_bind _ _
    · split
      · exact .fail_bind _ _
      · rename_i hname
        exact hentry hname
    · split
      · exact .fail_bind _ _
      · rename_i hname
        exact hentry hname
    · exact .fail_bind _ _
    · exact .fail_bind _ _
    · split
      · exact .fail_bind _ _
      · exact .of_refuses ((refuses_other _ _).bind _)
    · exact .of_refuses ((refuses_other _ _).bind _)

omit hg in
private theorem extend_keysDistinct (pos : Position) (open' : Bool) (e : Expr) (links : List Link) :
    (extend pos open' e links).KeysDistinct := by
  unfold extend
  split
  · trivial
  · trivial

omit hg in
private theorem ofOperator_keysDistinct (pos : Position) (op : BinaryOp) (lhs rhs : Expr) :
    (Expr.ofOperator pos op lhs rhs).KeysDistinct := by
  unfold Expr.ofOperator
  extract_lets membership
  split
  · trivial
  · trivial
  · trivial

omit hg in
private theorem postfixFrom_keysDistinct (s : Setting) (n : Nat) (open' : Bool) {e : Expr} (h : e.KeysDistinct) :
    Yields (postfixFrom g s n open' e) Expr.KeysDistinct := by
  induction n generalizing s open' e with
  | zero => exact .fail _ _
  | succ n ih =>
    unfold postfixFrom
    refine .of_bind fun next => ?_
    split
    · exact .pure h
    refine .of_bind fun _ => ?_
    extract_lets s
    split
    case h_1 | h_2 | h_3 =>
      generalize pathOf e = parts
      obtain ⟨p, root, path, name⟩ := parts
      dsimp only
      have hcalled (s : Setting) (inScope : Bool) (args : List Expr) :
          Yields (postfixFrom g s n false (.call p path name inScope args)) Expr.KeysDistinct := ih s false trivial
      split
      · refine .of_bind fun after => ?_
        split
        · exact .fail_bind _ _
        · exact .fail_bind _ _
        · exact .fail_bind _ _
      refine .of_bind fun s => ?_
      split
      · exact hcalled _ _ _
      · exact .of_bind fun _ => hcalled _ _ _
      refine .of_bind fun after => .of_bind fun _ => ?_
      split
      · exact hcalled _ _ _
      refine .of_bind fun _ => ?_
      split
      · exact .of_bind fun _ => hcalled _ _ _
      · exact .fail_bind _ _
    case h_4 =>
      generalize pathOf e = parts
      obtain ⟨_, root, path, name⟩ := parts
      exact .of_bind fun _ => ih _ _ trivial
    case h_5 | h_6 =>
      exact .of_bind fun _ => .of_bind fun _ => ih _ _ (extend_keysDistinct _ _ _ _)
    case h_7 =>
      exact .of_bind fun _ => .of_bind fun _ => .of_bind fun _ => ih _ _ (extend_keysDistinct _ _ _ _)

omit hg in
private theorem closure_keysDistinct (s : Setting) : Yields (closure g s) Expr.KeysDistinct := by
  unfold closure
  refine .of_bind fun _ => .of_bind fun parsed => ?_
  obtain ⟨⟨params, body⟩, outer⟩ := parsed
  refine .of_bind fun _ => .of_bind fun _ => .of_bind fun _ => .pure ?_
  split
  · trivial
  · trivial

private theorem parenthesized_keysDistinct (s : Setting) : Yields (parenthesized g s) Expr.KeysDistinct := by
  unfold parenthesized
  exact .of_bind fun s => .of_bind fun _ => (hg.expr s).bind fun e he => .of_bind fun _ => .pure he

private theorem primaryStep_keysDistinct (s : Setting) (afterPeriod : Bool) :
    Yields (primaryStep g s afterPeriod) Expr.KeysDistinct := by
  unfold primaryStep
  refine .of_bind fun first => ?_
  extract_lets p s literal statement linked main
  have hlinked {root : Expr} (h : root.KeysDistinct) : Yields (linked root) Expr.KeysDistinct :=
    .of_bind fun _ => postfixFrom_keysDistinct _ _ _ h
  have hliteral (v : Value) : Yields (literal v >>= linked) Expr.KeysDistinct := by
    have hgiven : Yields (literal v) Expr.KeysDistinct := .of_bind fun _ => .pure trivial
    exact hgiven.bind fun _ => hlinked
  have hstatement (parse : Setting → Parse Stmt) : Yields (statement parse >>= linked) Expr.KeysDistinct := by
    have hgiven : Yields (statement parse) Expr.KeysDistinct := .of_bind fun _ => .pure trivial
    exact hgiven.bind fun _ => hlinked
  have hmain : Yields (main ()) Expr.KeysDistinct := by
    unfold main
    split
    case h_1 => exact .fail_bind _ _
    case h_2 | h_3 | h_4 | h_17 | h_18 | h_19 | h_20 => exact hliteral _
    case h_5 | h_7 | h_8 | h_9 | h_10 | h_11 | h_12 => exact hstatement _
    case h_6 => exact (parenthesized_keysDistinct hg s).bind fun _ => hlinked
    case h_13 | h_14 => exact (closure_keysDistinct s).bind fun _ => hlinked
    case h_15 =>
      refine .of_bind fun s => .of_bind fun s => .of_bind fun _ => .of_bind fun st => ?_
      exact (arrayItems_yields hg s _ [] trivial).bind fun items hitems => hlinked hitems
    case h_16 =>
      refine .of_bind fun s => .of_bind fun s => .of_bind fun _ => .of_bind fun st => ?_
      exact (mapEntries_yields hg s _ [] ⟨List.nodup_nil, trivial⟩).bind fun entries hentries =>
        hlinked ⟨hentries.nodup, hentries.keys⟩
    case h_21 =>
      exact .of_bind fun _ => .of_bind fun s => .of_bind fun st => .of_bind fun pieces => hlinked trivial
    case h_22 name heq =>
      have hvar : Yields (linked (.var p name)) Expr.KeysDistinct := hlinked trivial
      refine .of_bind fun _ => .of_bind fun next => ?_
      split
      · exact hvar
      · exact hvar
      · exact hvar
      · split
        · exact .fail_bind _ _
        · exact hvar
      · split
        · exact .of_bind fun _ => hvar
        · exact hvar
    case h_23 word heq =>
      refine .of_bind fun _ => .of_bind fun next => ?_
      extract_lets isCall
      split
      · exact hlinked trivial
      split
      · split
        · exact hlinked trivial
        · exact .fail_bind _ _
      · exact .fail_bind _ _
    case h_24 => exact .fail_bind _ _
    case h_25 => exact .fail_bind _ _
  split
  · split
    · exact hmain
    · split
      · exact hmain
      · exact .fail_bind _ _
    · exact .fail_bind _ _
  · exact hmain

private theorem unaryStep_keysDistinct (s : Setting) : Yields (unaryStep g s) Expr.KeysDistinct := by
  unfold unaryStep
  refine .of_bind fun first => ?_
  extract_lets s operand
  split
  case h_1 | h_2 | h_3 | h_4 =>
    refine .of_bind fun e => ?_
    split
    · exact .pure trivial
    · exact .pure trivial
    · exact .pure trivial
  case h_5 => exact .of_bind fun e => .pure trivial
  case h_6 => exact .fail _ _
  case h_7 => exact hg.primary s false

omit hg in
private theorem binaryFrom_keysDistinct (n : Nat) (s : Setting) (parent : Nat) {lhs : Expr} (h : lhs.KeysDistinct) :
    Yields (binaryFrom g n s parent lhs) Expr.KeysDistinct := by
  induction n generalizing s lhs with
  | zero => exact .fail _ _
  | succ n ih =>
    unfold binaryFrom
    refine .of_bind fun op => ?_
    split
    · exact .pure h
    split
    · exact .pure h
    refine .of_bind fun first => .of_bind fun rhs => ?_
    extract_lets combined
    have hcombined (rhs : Expr) : Yields (combined rhs) Expr.KeysDistinct := by
      refine .of_bind fun s => ?_
      split
      · exact .of_bind fun _ => .of_bind fun _ => ih _ (ofOperator_keysDistinct _ _ _ _)
      · exact ih _ (ofOperator_keysDistinct _ _ _ _)
    refine .of_bind fun next => ?_
    split
    · split
      · exact .of_bind fun rhs => hcombined rhs
      · exact hcombined rhs
    · exact hcombined rhs

theorem exprStep_keysDistinct (s : Setting) : Yields (exprStep g s) Expr.KeysDistinct := by
  unfold exprStep
  refine .of_bind fun first => .of_bind fun s => ?_
  extract_lets operated
  have hoperated {lhs : Expr} (h : lhs.KeysDistinct) : Yields (operated lhs) Expr.KeysDistinct := hg.binary s 1 h
  split
  · exact hoperated trivial
  · exact hoperated trivial
  · exact (hg.unary s).bind fun lhs h => hoperated h

theorem switchLabels_yields (s : Setting) (n : Nat) (done : List Expr) (h : AllKeysDistinct done) :
    Yields (switchLabels g s n done) AllKeysDistinct := by
  induction n generalizing done with
  | zero => exact .fail _ _
  | succ n ih =>
    have hlabel : Yields (switchLabel g s) Expr.KeysDistinct := by
      intro st e st' hp
      unfold switchLabel at hp
      split at hp
      · rename_i hr
        cases hp
        exact hg.expr _ _ _ _ hr
      · cases hp
    unfold switchLabels
    refine hlabel.bind fun e he => .of_bind fun more => ?_
    split
    · exact ih _ ⟨he, h⟩
    · exact .pure (AllKeysDistinct.reverse ⟨he, h⟩)

end step

theorem grammar_keepsKeys (n : Nat) : KeepsKeys (grammar n) := by
  induction n with
  | zero =>
    exact
      { expr := fun _ => .fail _ _, unary := fun _ => .fail _ _, binary := fun _ _ _ _ => .fail _ _,
        primary := fun _ _ => .fail _ _ }
  | succ n ih =>
    exact
      { expr := exprStep_keysDistinct ih, unary := unaryStep_keysDistinct ih
        binary := fun s _ _ h => .of_bind fun _ => binaryFrom_keysDistinct _ (s.move _) _ h
        primary := primaryStep_keysDistinct ih }

end Parser

end Sandscript
