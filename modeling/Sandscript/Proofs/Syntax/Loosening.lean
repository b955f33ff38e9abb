import Sandscript.Proofs.Syntax.Keys
import Sandscript.Proofs.Syntax.Narrowing

/-!
# The grammar under two limits

Every parser of the grammar is compared with itself under other limits (`Setting.under`).  There is one lemma for each
parser, and each assumes of the parsers of its parts what it proves of the whole (`Loosens`); `grammar_loosens` ties the
knot.
-/

namespace Sandscript

namespace Parser

/-- The parsers of `h` admit what those of `g` admit, under looser limits. -/
structure Loosens (c : Comparison) (g h : Grammar) : Prop where
  expr (s : Setting) : Narrows c Known.any .nothing (g.expr (s.under c.tight)) (h.expr (s.under c.loose)) Shown.expr
  unary (s : Setting) : Narrows c Known.any .nothing (g.unary (s.under c.tight)) (h.unary (s.under c.loose)) Shown.expr
  binary (s : Setting) (parent : Nat) (lhs : Expr) : Narrows c Known.any (.expr lhs)
    (g.binary (s.under c.tight) parent lhs) (h.binary (s.under c.loose) parent lhs) Shown.expr
  primary (s : Setting) (afterPeriod : Bool) : Narrows c Known.any .nothing
    (g.primary (s.under c.tight) afterPeriod) (h.primary (s.under c.loose) afterPeriod) Shown.expr
  stmt (s : Setting) : Narrows c Known.any .nothing (g.stmt (s.under c.tight)) (h.stmt (s.under c.loose))
    fun found => .stmts found.toList
  /-- An `if` was seen. -/
  ifElse (s : Setting) :
    Narrows c Known.open .nothing (g.ifElse (s.under c.tight)) (h.ifElse (s.under c.loose)) Shown.stmt
  subscripts (s : Setting) (root : Expr) (optional : Bool) : Narrows c Known.any .nothing
    (g.subscripts (s.under c.tight) root optional) (h.subscripts (s.under c.loose) root optional) Shown.links
  keys : KeepsKeys h

variable {c : Comparison}

/-! ### Names -/

private theorem variableName_narrows {P : Known} : Narrows c P .nothing variableName variableName unshown := by
  refine Narrows.take_bind fun t _ => ?_
  split
  · rename_i heq
    exact .of_open heq rfl (Narrows.pure fun _ => Iff.rfl)
  · split
    · exact .fail _ _
    · exact .fail _ _
  · exact .fail _ _
  · exact .fail _ _

private theorem noteUse_narrows {P : Known} {X : Shown} (name : String) :
    Narrows c P X (noteUse name) (noteUse name) fun _ => X := by
  unfold noteUse
  refine Narrows.of_still fun st a st' h => ?_
  obtain ⟨st₁, st₂, hget, hset⟩ := bind_eq_ok.1 h
  cases hget
  split at hset
  · cases hset
    exact ⟨rfl, fun _ => Iff.rfl⟩
  · cases hset
    exact ⟨rfl, fun _ => Iff.rfl⟩

/-- The name that a statement binds, if it binds one. -/
private theorem enterOption_narrows {P : Known} (name : Option String) :
    Narrows c P .nothing (name.forM (enter · false)) (name.forM (enter · false)) unshown := by
  cases name with
  | none => exact Narrows.pure fun _ => Iff.rfl
  | some name =>
    refine Narrows.of_still fun st a st' h => ?_
    cases h
    exact ⟨rfl, fun _ => Iff.rfl⟩

private theorem requireBool_narrows {P : Known} (e : Expr) :
    Narrows c P (.expr e) (requireBool e) (requireBool e) Shown.expr := by
  unfold requireBool
  split
  · exact Narrows.fail _ _
  · exact Narrows.pure fun _ => Iff.rfl

private theorem requireBool_bind {P : Known} {X : Shown} {α : Type} {R : α → Shown} {e : Expr} {f f' : Expr → Parse α}
    (hf : Narrows c P X (f e) (f' e) R) : Narrows c P X (requireBool e >>= f) (requireBool e >>= f') R := by
  unfold requireBool
  split
  · exact Narrows.fail_bind _ _
  · exact hf

section step

variable {g h : Grammar} (hg : Loosens c g h) {P : Known}

/-! ### Blocks and lists -/

private theorem refuseBlock_bind {α : Type} {X : Shown} {R : α → Shown} {f f' : Unit → Parse α}
    (hf : Narrows c P X (f ()) (f' ()) R) :
    Narrows c P X (condition.refuseBlock >>= f) (condition.refuseBlock >>= f') R := by
  unfold condition.refuseBlock
  rw [bind_assoc, bind_assoc]
  refine Narrows.peek_bind fun t ht => ?_
  split
  · exact Narrows.fail_bind _ _
  · exact Narrows.fail_bind _ _
  · exact hf.weaken fun u hu => by rw [hu]; exact ht

include hg

private theorem condition_narrows (s : Setting) :
    Narrows c P .nothing (condition g (s.under c.tight)) (condition h (s.under c.loose)) Shown.expr := by
  unfold condition
  refine refuseBlock_bind ?_
  refine Narrows.seq (Narrows.of_any ((hg.expr s).seq fun e => requireBool_narrows e)) fun e => ?_
  refine Narrows.peek_bind fun t _ => ?_
  split
  · exact Narrows.fail _ _
  · exact Narrows.pure fun _ => Iff.rfl

private theorem statementsFrom_narrows (s : Setting) (n : Nat) (done : List Stmt) :
    Narrows c Known.any (.stmts done) (statementsFrom g (s.under c.tight) n done)
      (statementsFrom h (s.under c.loose) n done) Shown.stmts := by
  induction n generalizing done with
  | zero => exact Narrows.fail _ _
  | succ n ih =>
    unfold statementsFrom
    refine Narrows.peek_bind fun t _ => ?_
    split
    · rename_i heq
      exact Narrows.drop_seen_bind heq rfl (Narrows.pure (by simp))
    · exact Narrows.fail _ _
    refine Narrows.bind (Narrows.of_any (hg.stmt s)) fun found => ?_
    split
    · exact (ih done).seen_same (by simp)
    rename_i stmt
    refine Narrows.seen_same (Y := .stmts (stmt :: done)) ?_ (by simp)
    refine Narrows.peek_bind fun t _ => ?_
    split
    · rename_i heq
      exact Narrows.drop_seen_bind heq rfl (Narrows.pure (by simp [or_comm]))
    · rename_i heq
      exact Narrows.drop_seen_bind heq rfl (ih _)
    split
    · exact Narrows.of_any (ih _)
    split
    · exact Narrows.fail _ _
    · exact Narrows.fail _ _

private theorem blockWithPlace_narrows (s : Setting) : Narrows c P .nothing (blockWithPlace g (s.under c.tight))
    (blockWithPlace h (s.under c.loose)) fun block => .stmts block.2 := by
  unfold blockWithPlace
  refine Narrows.take_bind fun t _ => ?_
  split
  · rename_i heq
    refine .of_open heq rfl ?_
    refine Narrows.deeper_bind fun s => Narrows.get_bind fun st => ?_
    let inside : Setting := { s.move t.position with isGlobal := false }
    exact (Narrows.withScope (statementsFrom_narrows hg inside _ [])).seq fun body => Narrows.pure fun _ => Iff.rfl
  · exact .fail _ _
  · exact .fail _ _

private theorem block_narrows (s : Setting) :
    Narrows c P .nothing (block g (s.under c.tight)) (block h (s.under c.loose)) Shown.stmts :=
  (blockWithPlace_narrows hg s).seq fun _ => Narrows.pure fun _ => Iff.rfl

/-- The items of an array; those before may be too many already. -/
private theorem arrayItems_narrows (s : Setting) (n : Nat) (done : List Expr) :
    Narrows c Known.any
      (.or (.exprs done) (.only c.tight.oversized (0 < c.tight.maxArray ∧ c.tight.maxArray < done.length)))
      (arrayItems g (s.under c.tight) n done) (arrayItems h (s.under c.loose) n done)
      fun items t => t.array items.length ∨ t.InAny (items.map .expr) := by
  induction n generalizing done with
  | zero => exact Narrows.fail _ _
  | succ n ih =>
    unfold arrayItems
    refine Narrows.peek_bind fun t _ => ?_
    extract_lets items items'
    let full := 0 < c.tight.maxArray ∧ c.tight.maxArray ≤ done.length
    have hloose : ¬ (0 < (s.under c.loose).limits.maxArray ∧ (s.under c.loose).limits.maxArray ≤ done.length) := by
      simp [Setting.under, c.maxArray]
    refine Narrows.checked (Z := .only c.tight.oversized full) hloose ((refuses_fail _ _).bind _) (by simp; rfl) ?_
    refine Narrows.seen_same ?_ fun t => Shown.or_only_or_only fun h => ⟨h.1, Nat.le_of_lt h.2⟩
    -- one more item is too many just in case the array is full
    have hmore (item : Expr) : Narrows c Known.any (.or (.expr item) (.or (.exprs done) (.only c.tight.oversized full)))
        (arrayItems g (s.under c.tight) n (item :: done)) (arrayItems h (s.under c.loose) n (item :: done))
        fun items t => t.array items.length ∨ t.InAny (items.map .expr) :=
      (ih (item :: done)).seen_same fun t => by
        simp only [List.length_cons, Nat.lt_succ_iff]
        simp [full, or_assoc]
    unfold items items'
    split
    · rename_i heq
      refine Narrows.drop_seen_bind heq rfl (Narrows.pure_of ?_ ?_)
      · rintro t (hdone | ⟨rfl, hfull⟩)
        · exact Or.inr (by simpa using hdone)
        · exact Or.inl (by simpa [full] using hfull)
      · rintro (hfull | hdone)
        · exact Or.inr ⟨rfl, by simpa [full] using hfull⟩
        · exact Or.inl (by simpa using hdone)
    · exact Narrows.fail _ _
    refine Narrows.bind (Narrows.of_any (hg.expr s)) fun item => ?_
    refine Narrows.peek_bind fun t _ => ?_
    split
    · rename_i heq
      exact Narrows.drop_seen_bind heq rfl (hmore item)
    · exact Narrows.of_any (hmore item)
    · exact Narrows.fail _ _
    · exact Narrows.fail _ _
    · exact Narrows.fail _ _

/-- The entries of a map; those before may be too many already. -/
private theorem mapEntries_narrows (s : Setting) (n : Nat) (done : List (String × Expr)) :
    Narrows c Known.any
      (.or (.entries done) (.only c.tight.oversized (0 < c.tight.maxMap ∧ c.tight.maxMap < done.length)))
      (mapEntries g (s.under c.tight) n done) (mapEntries h (s.under c.loose) n done)
      fun entries t => t.map entries.length ∨ Shown.entries entries t := by
  induction n generalizing done with
  | zero => exact Narrows.fail _ _
  | succ n ih =>
    unfold mapEntries
    extract_lets unended entry entry'
    let full := 0 < c.tight.maxMap ∧ c.tight.maxMap ≤ done.length
    let before : Shown :=
      .or (.entries done) (.only c.tight.oversized (0 < c.tight.maxMap ∧ c.tight.maxMap < done.length))
    have hloose : ¬ (0 < (s.under c.loose).limits.maxMap ∧ (s.under c.loose).limits.maxMap ≤ done.length) := by
      simp [Setting.under, c.maxMap]
    have hentry (name : String) : Narrows c Known.any before (entry name) (entry' name)
        fun entries t => t.map entries.length ∨ Shown.entries entries t := by
      refine Narrows.require_bind rfl ?_
      extract_lets value value'
      refine Narrows.checked (Z := .only c.tight.oversized full) hloose
        (.of_bind fun _ => (refuses_fail _ _).bind _) (by simp; rfl) ?_
      refine Narrows.seen_same ?_ fun t => Shown.or_only_or_only fun h => ⟨h.1, Nat.le_of_lt h.2⟩
      refine Narrows.bind (hg.expr s) fun e => ?_
      -- one more entry is too many just in case the map is full
      have hmore : Narrows c Known.any (.or (.expr e) (.or (.entries done) (.only c.tight.oversized full)))
          (mapEntries g (s.under c.tight) n ((name, e) :: done)) (mapEntries h (s.under c.loose) n ((name, e) :: done))
          fun entries t => t.map entries.length ∨ Shown.entries entries t :=
        (ih ((name, e) :: done)).seen_same fun t => by
          simp only [List.length_cons, Nat.lt_succ_iff]
          simp [full, or_assoc]
      refine Narrows.peek_bind fun t _ => ?_
      split
      · rename_i heq
        exact Narrows.drop_seen_bind heq rfl hmore
      · exact Narrows.of_any hmore
      · exact Narrows.fail _ _
      · exact Narrows.fail _ _
      · exact Narrows.fail _ _
    refine Narrows.take_bind fun t _ => ?_
    split
    · rename_i heq
      refine .of_open heq rfl (Narrows.pure_of ?_ ?_)
      · rintro t (hdone | ⟨rfl, hfull⟩)
        · exact Or.inr (by simpa using hdone)
        · exact Or.inl (by simpa using hfull)
      · rintro (hfull | hdone)
        · exact Or.inr ⟨rfl, by simpa using hfull⟩
        · exact Or.inl (by simpa using hdone)
    · exact .fail_bind _ _
    · rename_i heq
      split
      · exact .fail_bind _ _
      · exact .of_open heq rfl (hentry _)
    · rename_i heq
      split
      · exact .fail_bind _ _
      · exact .of_open heq rfl (hentry _)
    · exact .fail_bind _ _
    · exact .fail_bind _ _
    · split
      · exact .fail_bind _ _
      · exact .refused ((refuses_other _ _).bind _) ((refuses_other _ _).bind _)
    · exact .refused ((refuses_other _ _).bind _) ((refuses_other _ _).bind _)

private theorem callArguments_narrows (s : Setting) (name : String) (n : Nat) (done : List Expr) :
    Narrows c Known.any (.exprs done) (callArguments g (s.under c.tight) name n done)
      (callArguments h (s.under c.loose) name n done) Shown.exprs := by
  induction n generalizing done with
  | zero => exact Narrows.fail _ _
  | succ n ih =>
    unfold callArguments
    extract_lets rest rest'
    have hrest (P : Known) (args : List Expr) : Narrows c P (.exprs args) (rest args) (rest' args) Shown.exprs := by
      refine Narrows.peek_bind fun t _ => ?_
      split
      · rename_i heq
        exact Narrows.drop_seen_bind heq rfl (Narrows.pure (by simp))
      · rename_i heq
        exact Narrows.drop_seen_bind heq rfl (ih _)
      · exact Narrows.fail _ _
      · exact Narrows.fail _ _
      · exact Narrows.fail _ _
    refine Narrows.peek_bind fun t _ => ?_
    split
    · exact hrest _ _
    · exact Narrows.bind (Narrows.of_any (hg.expr s)) fun e => (hrest _ (e :: done)).seen_same (by simp)

private theorem arguments_narrows (s : Setting) (name : String) :
    Narrows c P .nothing (arguments g (s.under c.tight) name) (arguments h (s.under c.loose) name) Shown.exprs := by
  unfold arguments
  refine Narrows.peek_bind fun t _ => ?_
  split
  · exact Narrows.fail _ _
  · exact Narrows.fail _ _
  · rename_i heq
    exact Narrows.drop_seen_bind heq rfl (Narrows.pure (by simp))
  · exact Narrows.get_bind fun st => Narrows.of_any (callArguments_narrows hg _ _ _ [])

omit hg in
/-- The words of a text show nothing. -/
private theorem exprs_text {p : Position} {text : String} {es : List Expr} {t : Trait} :
    Shown.exprs (if text.isEmpty then es else .literal p (.str text) :: es) t ↔ Shown.exprs es t := by
  split
  · rfl
  · simp [Trait.InValue]

private theorem textPieces_narrows (s : Setting) (n : Nat) (done : List Expr) :
    Narrows c Known.any (.exprs done) (textPieces g (s.under c.tight) n done)
      (textPieces h (s.under c.loose) n done) Shown.exprs := by
  induction n generalizing done with
  | zero => exact Narrows.fail _ _
  | succ n ih =>
    unfold textPieces
    refine Narrows.bind (blockWithPlace_narrows hg s) fun block => ?_
    refine Narrows.seen_same (Y := .exprs (.statement (.block block.1 block.2) :: done)) ?_ (by simp)
    refine Narrows.take_bind fun t _ => ?_
    split
    · rename_i heq
      refine .of_open heq rfl (Narrows.pure fun t => ?_)
      rw [Shown.exprs_iff, List.map_reverse, Trait.inAny_reverse, ← Shown.exprs_iff, exprs_text]
    · rename_i heq
      exact .of_open heq rfl ((ih _).seen_same fun t => exprs_text.symm)
    · exact .fail _ _
    · exact .fail _ _

/-! ### Functions -/

omit hg in
private theorem parameters_narrows (close : Token) (hclose : close.isPlain = true)
    (function purpose separating : String) (n : Nat) (done : List String) :
    Narrows c P .nothing (parameters close function purpose separating n done)
      (parameters close function purpose separating n done) unshown := by
  induction n generalizing P done with
  | zero => exact Narrows.fail _ _
  | succ n ih =>
    unfold parameters
    refine Narrows.take_bind fun t _ => ?_
    split
    · rename_i heq
      exact .of_open heq hclose (Narrows.pure fun _ => Iff.rfl)
    extract_lets named
    have hnamed (name : String) : Narrows c Known.any .nothing (named name) (named name) unshown := by
      refine Narrows.modify_bind (fun _ => ⟨rfl, rfl⟩) ?_
      refine Narrows.take_bind fun t _ => ?_
      split
      · rename_i heq
        exact .of_open heq hclose (Narrows.pure fun _ => Iff.rfl)
      split
      · rename_i heq
        exact .of_open heq rfl (ih _)
      · exact .fail _ _
      · exact .fail _ _
    split
    · rename_i heq
      split
      · exact .fail_bind _ _
      · exact .of_open heq rfl (hnamed _)
    · exact .fail_bind _ _
    · exact .fail_bind _ _
    · exact .fail_bind _ _
    · exact .fail_bind _ _
    · exact .fail_bind _ _

omit hg in
private theorem noteUses_narrows {X : Shown} (names : List String) :
    Narrows c P X (names.forM noteUse) (names.forM noteUse) fun _ => X := by
  induction names generalizing P with
  | nil => exact Narrows.pure fun _ => Iff.rfl
  | cons name rest ih => exact (noteUse_narrows name).seq fun _ => ih

private theorem closure_narrows (s : Setting) :
    Narrows c Known.open .nothing (closure g (s.under c.tight)) (closure h (s.under c.loose)) Shown.expr := by
  unfold closure
  extract_lets position inner position' inner'
  let inside : Setting := { s with isGlobal := false, inFunction := true, inLoop := false, barEnds := false }
  refine Narrows.deeper_bind (s := inside) fun t => ?_
  refine Narrows.seq (Narrows.isolated (R := fun parsed => .stmts parsed.2) ?_) fun parsed => ?_
  · refine Narrows.take_open_bind (fun _ ht => ht) fun first _ => ?_
    extract_lets withParams withParams'
    have hparams (P : Known) (params : List String) :
        Narrows c P .nothing (withParams params) (withParams' params) fun parsed => .stmts parsed.2 := by
      refine Narrows.seq (Narrows.of_any (hg.stmt t)) fun found => ?_
      split
      · exact Narrows.pure fun _ => Iff.rfl
      · exact Narrows.pure (by simp)
      · exact Narrows.pure fun _ => Iff.rfl
    split
    · exact hparams _ _
    · refine Narrows.get_bind fun st => Narrows.skip (parameters_narrows _ rfl _ _ _ _ _) fun params => ?_
      exact hparams _ params
  · obtain ⟨⟨params, body⟩, outer⟩ := parsed
    refine Narrows.seq (noteUses_narrows outer) fun _ => ?_
    refine Narrows.get_bind fun st => ?_
    refine Narrows.seq (Narrows.define fun _ => rfl) fun _ => Narrows.pure fun t => ?_
    split
    · simp [Trait.InValue, unshown]
    · simp [unshown]

private theorem functionDef_narrows (s : Setting) :
    Narrows c P .nothing (functionDef g (s.under c.tight)) (functionDef h (s.under c.loose)) unshown := by
  unfold functionDef
  refine Narrows.take_bind fun first _ => ?_
  extract_lets named named'
  have hnamed (name : String) : Narrows c Known.any .nothing (named name) (named' name) unshown := by
    let shown (parsed : List String × List Stmt) : Shown := .stmts parsed.2
    refine Narrows.seq (R := shown) (Narrows.map _ (Narrows.isolated (R := shown) ?_)) fun parsed => ?_
    · refine Narrows.peek_bind fun t _ => ?_
      extract_lets withParams withParams'
      have hparams (P : Known) (params : List String) :
          Narrows c P .nothing (withParams params) (withParams' params) fun parsed => .stmts parsed.2 := by
        refine Narrows.peek_bind fun t _ => ?_
        split
        · exact Narrows.seq (block_narrows hg s) fun body => Narrows.pure fun _ => Iff.rfl
        · exact Narrows.fail _ _
      split
      · rename_i heq
        exact Narrows.drop_seen_bind heq rfl (hparams _ [])
      · rename_i heq
        refine Narrows.drop_seen_bind heq rfl (Narrows.get_bind fun st => ?_)
        exact Narrows.skip (parameters_narrows _ rfl _ _ _ _ _) fun params => hparams _ params
      · exact Narrows.fail_bind _ _
    · obtain ⟨params, body⟩ := parsed
      refine Narrows.get_bind fun st => ?_
      split
      · exact Narrows.fail_bind _ _
      · exact Narrows.define fun _ => rfl
  split
  · rename_i heq
    exact .of_open heq rfl (hnamed _)
  · exact .fail_bind _ _
  · exact .fail_bind _ _

/-! ### Statements -/

private theorem switchLabel_narrows (s : Setting) : Narrows c P .nothing (switchLabel g (s.under c.tight))
    (switchLabel h (s.under c.loose)) Shown.expr := by
  have hlabel (g : Grammar) (s : Setting) (st : State) (r : Expr × State) :
      switchLabel g s st = .ok r ↔ g.expr { s with barEnds := true } st = .ok r := by
    unfold switchLabel
    cases g.expr { s with barEnds := true } st with
    | error e => exact iff_of_false nofun nofun
    | ok r' => rfl
  exact Narrows.congr (hlabel g _) (hlabel h _) (Narrows.of_any (hg.expr { s with barEnds := true }))

private theorem switchLabels_narrows (s : Setting) (n : Nat) (done : List Expr) :
    Narrows c P (.exprs done) (switchLabels g (s.under c.tight) n done) (switchLabels h (s.under c.loose) n done)
      Shown.exprs := by
  induction n generalizing P done with
  | zero => exact Narrows.fail _ _
  | succ n ih =>
    unfold switchLabels
    refine Narrows.bind (switchLabel_narrows hg s) fun e => ?_
    refine Narrows.seen_same (Y := .exprs (e :: done)) ?_ (by simp)
    refine Narrows.skip (Narrows.accept rfl) fun more => ?_
    split
    · exact ih _
    · exact Narrows.pure (by simp [or_comm])

omit hg in
private theorem labelsOf_narrows (es : List Expr) (ranges : Bool) (done : List Label) (hkeys : AllKeysDistinct es) :
    Narrows c P (.or (.exprs es) fun t => t.InLabels done) (labelsOf es ranges done) (labelsOf es ranges done)
      fun found t => t.InLabels found.1 := by
  induction es generalizing ranges done with
  | nil => exact Narrows.pure (by simp)
  | cons e rest ih =>
    unfold labelsOf
    split
    · exact Narrows.fail _ _
    · rename_i hlabel
      -- the bounds of a range show nothing
      have hrange (t : Trait) : ¬ t.In (.expr e) := fun he => (Trait.inLabel_iff hlabel hkeys.1).2 he
      extract_lets label
      have hlabels (t : Trait) : t.InLabels (label :: done) ↔ t.InLabels done := or_iff_right id
      split
      · exact (ih _ _ hkeys.2).seen_same fun t => by simp [hrange]
      · exact (ih _ _ hkeys.2).seen_same fun t => by simp [hrange, hlabels]
    · rename_i v hlabel
      have hvalue (t : Trait) : t.In (.expr e) ↔ t.InLabel (.value v) := (Trait.inLabel_iff hlabel hkeys.1).symm
      split
      · exact Narrows.fail _ _
      · exact Narrows.fail _ _
      · exact (ih _ _ hkeys.2).seen_same fun t => by simp [hvalue, Trait.InLabels, or_assoc, or_left_comm]

omit hg in
/-- What the cases so far show. -/
def Cases.shown (found : Cases) : Shown :=
  .or (fun t => t.InAny (found.done.map .arm)) (.stmts found.otherwise.toList)

omit hg in
/-- A case that does nothing shows nothing. -/
private theorem stmt_getD_block {found : Option Stmt} {t : Trait} :
    Shown.stmt (found.getD (.block .none [])) t ↔ Shown.stmts found.toList t := by
  cases found <;> simp

private theorem switchCases_narrows (s : Setting) (n : Nat) (found : Cases) :
    Narrows c Known.any found.shown (switchCases g (s.under c.tight) n found)
      (switchCases h (s.under c.loose) n found) Cases.shown := by
  induction n generalizing found with
  | zero => exact Narrows.fail _ _
  | succ n ih =>
    unfold switchCases
    extract_lets unended
    refine Narrows.peek_bind fun t _ => ?_
    split
    · rename_i heq
      exact Narrows.drop_seen_bind heq rfl (Narrows.pure fun _ => Iff.rfl)
    · exact Narrows.fail _ _
    extract_lets isDefault labelled unlabelled labelled' unlabelled'
    have hotherwise (hdefault : isDefault = true) : t.token = .symbol .underscore ∧ found.otherwise = none := by
      simpa [isDefault] using hdefault
    -- what stands behind the labels
    have hlabelled (P : Known) (x : List Expr × Option Expr) (hx : isDefault = true → x = ([], none))
        (hkeys : AllKeysDistinct x.1) :
        Narrows c P (.or (.exprs x.1) (.or (.exprs x.2.toList) found.shown)) (labelled x) (labelled' x)
          Cases.shown := by
      obtain ⟨labels, guard⟩ := x
      refine Narrows.require_bind rfl ?_
      refine Narrows.bind (hg.stmt s) fun parsed => ?_
      extract_lets action next next'
      refine Narrows.seen_same
        (Y := .or (.stmt action) (.or (.exprs labels) (.or (.exprs guard.toList) found.shown))) ?_
        fun t => or_congr_left stmt_getD_block.symm
      have hnext (P : Known) (found : Cases) : Narrows c P found.shown (next found) (next' found) Cases.shown := by
        refine Narrows.peek_bind fun t _ => ?_
        split
        · rename_i heq
          exact Narrows.drop_seen_bind heq rfl (ih _)
        · exact Narrows.of_any (ih _)
        · exact Narrows.fail _ _
        · exact Narrows.fail _ _
        · split
          · exact Narrows.of_any (ih _)
          · exact Narrows.fail _ _
      split
      · rename_i hdefault
        obtain ⟨rfl, rfl⟩ := Prod.mk.inj (hx hdefault)
        exact (hnext _ _).seen_same fun t => by simp [Cases.shown, (hotherwise hdefault).2, or_comm]
      · let rest : Shown := .or (.stmt action) (.or (.exprs guard.toList) found.shown)
        refine Narrows.seen_same (Y := .or (.or (.exprs labels) fun t => t.InLabels []) rest) ?_ fun t => ?_
        rotate_left
        · simp [rest, Trait.InLabels, or_left_comm]
        refine Narrows.seq (labelsOf_narrows labels _ _ hkeys).frame fun kept => ?_
        exact (hnext _ _).seen_same fun t => by simp [rest, Cases.shown, or_assoc, or_left_comm, or_comm]
    -- the labels themselves
    split
    · rename_i hdefault
      refine Narrows.drop_seen_bind (hotherwise hdefault).1 rfl ?_
      refine Narrows.peek_bind fun t _ => ?_
      split
      · exact Narrows.fail_bind _ _
      · exact (hlabelled _ ([], none) (fun _ => rfl) trivial).seen_same fun t => by simp
    rename_i hdefault
    split
    · exact Narrows.fail_bind _ _
    refine Narrows.get_bind fun st => ?_
    have hlabels := (switchLabels_narrows hg (P := Known.seen t) s st.size []).frame (Y := found.shown)
    refine Narrows.seen_same (Y := .or (.exprs []) found.shown) ?_ fun t => by simp
    refine hlabels.seq_of_yields (switchLabels_yields hg.keys _ _ [] trivial) fun labels hkeys => ?_
    refine Narrows.skip (Narrows.accept rfl) fun hasGuard => ?_
    split
    · refine Narrows.bind (R := fun guard => .exprs guard.toList) (Narrows.map _ ((condition_narrows hg s).result ?_))
        fun guard => ?_
      · simp
      · exact (hlabelled _ (labels, guard) (fun h => absurd h hdefault) hkeys).seen_same fun t => or_left_comm
    · exact (hlabelled _ (labels, none) (fun h => absurd h hdefault) hkeys).seen_same fun t => by simp

private theorem switch_narrows (s : Setting) :
    Narrows c Known.open .nothing (switch g (s.under c.tight)) (switch h (s.under c.loose)) Shown.stmt := by
  unfold switch
  refine Narrows.deeper_bind fun s => Narrows.drop_open_bind (fun _ ht => ht) ?_
  refine Narrows.seq (hg.expr s) fun subject => Narrows.require_bind rfl ?_
  refine Narrows.get_bind fun st => ?_
  refine Narrows.seq
    (Narrows.frame (Y := .expr subject) (switchCases_narrows hg s _ {}) |>.seen_same ?_) fun found => ?_
  · simp [Cases.shown]
  · exact Narrows.pure fun t => by simp [Cases.shown, or_comm]

/-- A condition, where there is one. -/
private theorem someCondition_narrows (s : Setting) : Narrows c P .nothing (some <$> condition g (s.under c.tight))
    (some <$> condition h (s.under c.loose)) fun guard => .exprs guard.toList :=
  Narrows.map _ ((condition_narrows hg s).result (by simp))

/-- An expression, where there is one. -/
private theorem someExpr_narrows (s : Setting) : Narrows c P .nothing (some <$> g.expr (s.under c.tight))
    (some <$> h.expr (s.under c.loose)) fun value => .exprs value.toList :=
  Narrows.map _ ((Narrows.of_any (hg.expr s)).result (by simp))

private theorem whileLoop_narrows (s : Setting) :
    Narrows c Known.open .nothing (whileLoop g (s.under c.tight)) (whileLoop h (s.under c.loose)) Shown.stmt := by
  unfold whileLoop
  refine Narrows.deeper_bind fun s => Narrows.take_open_bind (fun _ ht => ht) fun first _ => ?_
  extract_lets guarded guarded'
  have hguarded (P : Known) (guard : Option Expr) :
      Narrows c P (.exprs guard.toList) (guarded guard) (guarded' guard) Shown.stmt :=
    Narrows.bind (blockWithPlace_narrows hg { s with inLoop := true }) fun block =>
      Narrows.pure fun t => by simp [or_comm]
  split
  · exact Narrows.seq (someCondition_narrows hg s) fun guard => hguarded _ guard
  · exact (hguarded _ none).seen_same fun t => by simp

private theorem doLoop_narrows (s : Setting) :
    Narrows c Known.open .nothing (doLoop g (s.under c.tight)) (doLoop h (s.under c.loose)) Shown.stmt := by
  unfold doLoop
  refine Narrows.deeper_bind fun s => Narrows.drop_open_bind (fun _ ht => ht) ?_
  refine Narrows.seq (block_narrows hg { s with inLoop := true }) fun body => ?_
  refine Narrows.take_bind fun t _ => ?_
  extract_lets closed closed'
  have hclosed (repeats : Bool) : Narrows c Known.any (.stmts body) (closed repeats) (closed' repeats) Shown.stmt :=
    Narrows.bind (condition_narrows hg s) fun test => Narrows.pure fun t => by simp
  split
  · rename_i heq
    exact .of_open heq rfl (hclosed _)
  · rename_i heq
    exact .of_open heq rfl (hclosed _)
  · exact .fail_bind _ _

private theorem forLoop_narrows (s : Setting) :
    Narrows c Known.open .nothing (forLoop g (s.under c.tight)) (forLoop h (s.under c.loose)) Shown.stmt := by
  unfold forLoop
  refine Narrows.deeper_bind fun s => Narrows.drop_open_bind (fun _ ht => ht) ?_
  refine Narrows.skip (Narrows.accept rfl) fun parens => ?_
  extract_lets named named'
  have hnamed (x : String × Option String) : Narrows c Known.any .nothing (named x) (named' x) Shown.stmt := by
    obtain ⟨item, counter⟩ := x
    refine Narrows.require_bind rfl (refuseBlock_bind (Narrows.seq (hg.expr s) fun source => ?_))
    split
    · exact Narrows.fail_bind _ _
    refine Narrows.bind (R := fun block => .stmts block.2) ?_ fun block => Narrows.pure fun t => by simp [or_comm]
    refine Narrows.withScope ?_
    refine Narrows.skip (enterOption_narrows counter) fun _ => Narrows.modify_bind (fun _ => ⟨rfl, rfl⟩) ?_
    exact blockWithPlace_narrows hg { s with inLoop := true }
  split
  · refine Narrows.skip variableName_narrows fun ⟨item, _⟩ => ?_
    refine Narrows.peek_bind fun t _ => Narrows.skip (Narrows.accept rfl) fun comma => ?_
    split
    · exact Narrows.fail_bind _ _
    refine Narrows.skip variableName_narrows fun counter => ?_
    obtain ⟨counter, _⟩ := counter
    dsimp only
    split
    · exact Narrows.fail_bind _ _
    refine Narrows.peek_bind fun t _ => Narrows.skip (Narrows.accept rfl) fun closed => ?_
    split
    · exact Narrows.fail_bind _ _
    · exact hnamed (item, some counter)
  · exact Narrows.skip variableName_narrows fun item => hnamed (item.1, none)

private theorem ifElseStep_narrows (s : Setting) :
    Narrows c Known.open .nothing (ifElseStep g (s.under c.tight)) (ifElseStep h (s.under c.loose)) Shown.stmt := by
  unfold ifElseStep
  refine Narrows.peek_bind fun t ht => ?_
  refine Narrows.deeper_bind (s := s.move t.position) fun s => ?_
  refine Narrows.drop_open_bind (by rintro _ rfl; exact ht) ?_
  refine Narrows.seq (condition_narrows hg s) fun test => Narrows.bind (block_narrows hg s) fun yes => ?_
  refine Narrows.skip (Narrows.accept rfl) fun hasElse => ?_
  split
  rotate_left
  · exact Narrows.pure fun t => by simp [or_comm]
  refine Narrows.peek_bind fun t _ => ?_
  split
  · rename_i heq
    refine Narrows.bind ((hg.ifElse s).weaken ?_) fun no => Narrows.pure fun t => by simp [or_comm, or_left_comm]
    rintro _ rfl
    rw [Known.open, heq]
    rfl
  · exact Narrows.bind (block_narrows hg s) fun no => Narrows.pure fun t => by simp [or_assoc, or_comm]

/-- A declaration, with or without the word for exports in front. -/
private theorem declaration_narrows (s : Setting) (exported constant : Bool) :
    Narrows c Known.open (fun t => exported ∧ t.foreign) (declaration g (s.under c.tight) exported constant)
      (declaration h (s.under c.loose) exported constant) Shown.stmt := by
  unfold declaration
  refine Narrows.deeper_bind fun s => Narrows.drop_open_bind (fun _ ht => ht) ?_
  refine Narrows.skip variableName_narrows fun ⟨name, _⟩ => ?_
  refine Narrows.skip (Narrows.accept rfl) fun hasValue => ?_
  extract_lets valued valued'
  have hvalued (value : Option Expr) : Narrows c Known.any (.or (.exprs value.toList) fun t => exported ∧ t.foreign)
      (valued value) (valued' value) Shown.stmt :=
    Narrows.modify_bind (fun _ => ⟨rfl, rfl⟩) (Narrows.pure fun t => by simp [or_comm])
  split
  · exact Narrows.bind (someExpr_narrows hg s) fun value => hvalued value
  · exact (hvalued none).seen_same fun t => by simp

private theorem importModule_narrows (s : Setting) : Narrows c (Known.is (.keyword .importKw)) .nothing
    (importModule g (s.under c.tight)) (importModule h (s.under c.loose)) Shown.stmt := by
  unfold importModule
  refine Narrows.deeper_bind fun s => Narrows.drop_bind fun t ht => ?_
  refine .taken (E := fun t => t.foreign) (by rw [ht]; rfl) (fun _ => trivial) id ?_
  refine Narrows.bind (hg.expr s) fun path => ?_
  refine Narrows.skip (Narrows.accept rfl) fun renamed => ?_
  split
  · exact Narrows.skip variableName_narrows fun newName => Narrows.pure fun t => by simp [or_comm]
  · exact Narrows.pure fun t => by simp [or_comm]

private theorem exportName_narrows (s : Setting) : Narrows c (Known.is (.keyword .exportKw)) .nothing
    (exportName g (s.under c.tight)) (exportName h (s.under c.loose)) Shown.stmt := by
  unfold exportName
  refine Narrows.deeper_bind fun s => Narrows.drop_bind fun t ht => ?_
  refine .taken (E := fun t => t.foreign) (by rw [ht]; rfl) (fun _ => trivial) id ?_
  refine Narrows.peek_bind fun t _ => ?_
  have hdeclaration (constant : Bool) (hopen : t.token.isPlain = true) :
      Narrows c (Known.seen t) (.or (·.foreign) .nothing)
      (declaration g ((s.move t.position).under c.tight) true constant)
      (declaration h ((s.move t.position).under c.loose) true constant) Shown.stmt := by
    refine ((declaration_narrows hg (s.move t.position) true constant).weaken ?_).seen_same (by simp)
    rintro _ rfl
    exact hopen
  split
  · rename_i heq
    exact hdeclaration false (by rw [heq]; rfl)
  · rename_i heq
    exact hdeclaration true (by rw [heq]; rfl)
  · refine Narrows.skip variableName_narrows fun named => ?_
    refine Narrows.skip (Narrows.accept rfl) fun renamed => ?_
    split
    · exact Narrows.skip variableName_narrows fun newName => Narrows.pure fun t => by simp
    · exact Narrows.pure fun t => by simp

private theorem tryCatch_narrows (s : Setting) :
    Narrows c Known.open .nothing (tryCatch g (s.under c.tight)) (tryCatch h (s.under c.loose)) Shown.stmt := by
  unfold tryCatch
  refine Narrows.deeper_bind fun s => Narrows.drop_open_bind (fun _ ht => ht) ?_
  refine Narrows.seq (block_narrows hg s) fun body => ?_
  refine Narrows.peek_bind fun t _ => ?_
  refine Narrows.skip (Narrows.accept rfl) fun caught => ?_
  split
  · exact Narrows.fail_bind _ _
  refine Narrows.skip (Narrows.accept rfl) fun parens => ?_
  extract_lets named named'
  have hnamed (P : Known) (error : Option String) :
      Narrows c P (.stmts body) (named error) (named' error) Shown.stmt := by
    refine Narrows.bind (R := Shown.stmts) (Narrows.withScope ?_) fun handler => Narrows.pure fun t => by simp [or_comm]
    exact Narrows.skip (enterOption_narrows error) fun _ => block_narrows hg (s.move t.position)
  split
  · refine Narrows.skip variableName_narrows fun error => ?_
    refine Narrows.peek_bind fun t _ => Narrows.skip (Narrows.accept rfl) fun closed => ?_
    split
    · exact Narrows.fail_bind _ _
    · exact hnamed _ (some error.1)
  · exact hnamed _ none

private theorem optionalValue_narrows (s : Setting) (closes : Bool) :
    Narrows c P .nothing (optionalValue g (s.under c.tight) closes) (optionalValue h (s.under c.loose) closes)
      fun value => .exprs value.toList := by
  have hvalue (P : Known) : Narrows c P .nothing (some <$> ((s.under c.tight).deeper >>= g.expr))
      (some <$> ((s.under c.loose).deeper >>= h.expr)) fun value => .exprs value.toList :=
    Narrows.map _ ((Narrows.deeper_bind fun s => Narrows.of_any (hg.expr s)).result (by simp))
  unfold optionalValue
  refine Narrows.peek_bind fun t _ => ?_
  split
  · exact Narrows.pure (by simp)
  · exact Narrows.pure (by simp)
  · exact Narrows.pure (by simp)
  · split
    · exact Narrows.pure (by simp)
    · exact hvalue _
  · exact hvalue _

/-! ### Assignments -/

omit hg in
private theorem checkTarget_narrows (op : Option BinaryOp) (opPlace : Position) (target : Expr) :
    Narrows c P .nothing (checkTarget op opPlace target) (checkTarget op opPlace target) unshown := by
  unfold checkTarget
  split
  · exact Narrows.pure fun _ => Iff.rfl
  · exact Narrows.pure fun _ => Iff.rfl
  · refine Narrows.skip (Narrows.get_bind fun st => Narrows.pure fun _ => Iff.rfl) fun entry => ?_
    split
    · exact Narrows.fail _ _
    · exact Narrows.pure fun _ => Iff.rfl
  · split
    · exact Narrows.fail _ _
    split
    · exact Narrows.pure fun _ => Iff.rfl
    · exact Narrows.pure fun _ => Iff.rfl
    · exact Narrows.pure fun _ => Iff.rfl
    · exact Narrows.fail _ _
  all_goals
    split
    · exact Narrows.fail _ _
    · exact Narrows.fail _ _

private theorem expressionStmt_narrows (s : Setting) : Narrows c P .nothing (expressionStmt g (s.under c.tight))
    (expressionStmt h (s.under c.loose)) Shown.stmt := by
  unfold expressionStmt
  refine Narrows.seq (Narrows.of_any (hg.expr s)) fun target => ?_
  refine Narrows.peek_bind fun t _ => ?_
  extract_lets assigning assigning'
  have hassigning (op : Option BinaryOp) (hopen : t.token.isPlain = true) :
      Narrows c (Known.seen t) (.expr target) (assigning op) (assigning' op) Shown.stmt := by
    refine Narrows.drop_seen_bind rfl hopen ?_
    refine Narrows.bind (hg.expr (s.move t.position)) fun value => ?_
    exact Narrows.skip (checkTarget_narrows op _ _) fun _ => Narrows.pure fun t => by simp [or_comm]
  split
  · rename_i heq
    exact hassigning _ (by rw [heq]; rfl)
  · rename_i heq
    exact hassigning _ (by rw [heq]; rfl)
  · split
    · exact Narrows.pure (by simp)
    · exact Narrows.pure (by simp)

private theorem define_narrows (s : Setting) : Narrows c P .nothing (stmtStep.define g (s.under c.tight))
    (stmtStep.define h (s.under c.loose)) unshown := by
  unfold stmtStep.define
  extract_lets inner inner'
  let inside : Setting :=
    { limits := s.limits, maxLevel := 0, position := s.position, isGlobal := false, inFunction := true }
  exact Narrows.deeper_bind (s := inside) fun s => functionDef_narrows hg s

private theorem stmtStep_narrows (s : Setting) : Narrows c P .nothing (stmtStep g (s.under c.tight))
    (stmtStep h (s.under c.loose)) fun found => .stmts found.toList := by
  unfold stmtStep
  refine Narrows.peek_bind fun t _ => ?_
  extract_lets moved deeper moved' deeper'
  have hglobal : moved'.isGlobal = moved.isGlobal := rfl
  have hloop : moved'.inLoop = moved.inLoop := rfl
  rw [hglobal, hloop]
  have hdeeper {P : Known} {p q : Setting → Parse Stmt} (hseen : P t)
      (hp : ∀ s : Setting, Narrows c P .nothing (p (s.under c.tight)) (q (s.under c.loose)) Shown.stmt) :
      Narrows c (Known.seen t) .nothing (deeper p) (deeper' q) fun found => .stmts found.toList := by
    refine Narrows.seq (Narrows.deeper_bind (s := s.move t.position) fun s => (hp s).weaken ?_) fun stmt =>
      Narrows.pure fun t => by simp
    rintro _ rfl
    exact hseen
  have hopen {tok : Token} (heq : t.token = tok) (htok : tok.isPlain = true) : Known.open t := by
    rw [Known.open, heq]
    exact htok
  have hnone (P : Known) :
      Narrows c P .nothing (pure none) (pure none) fun found : Option Stmt => .stmts found.toList :=
    Narrows.pure (by simp)
  split
  case h_1 => exact hnone _
  case h_2 heq => exact Narrows.drop_seen_bind heq rfl (hnone _)
  case h_3 heq =>
    refine hdeeper (hopen heq rfl) fun s => ?_
    exact Narrows.seq (blockWithPlace_narrows hg s) fun block => Narrows.pure (by simp)
  case h_4 heq =>
    split
    · exact Narrows.drop_seen_bind heq rfl (Narrows.skip (define_narrows hg (s.move t.position)) fun _ => hnone _)
    · exact Narrows.fail _ _
  case h_5 heq =>
    split
    · refine Narrows.drop_seen_bind heq rfl (Narrows.take_bind fun after _ => ?_)
      split
      · rename_i hfn
        refine .of_open hfn rfl ?_
        exact Narrows.skip (define_narrows hg ((s.move t.position).move after.position)) fun _ => hnone _
      · exact .fail _ _
    · exact Narrows.fail _ _
  case h_6 heq => exact hdeeper (hopen heq rfl) (ifElseStep_narrows hg)
  case h_7 heq => exact hdeeper (hopen heq rfl) (switch_narrows hg)
  case h_8 heq => exact hdeeper (hopen heq rfl) (whileLoop_narrows hg)
  case h_9 heq => exact hdeeper (hopen heq rfl) (whileLoop_narrows hg)
  case h_10 heq => exact hdeeper (hopen heq rfl) (doLoop_narrows hg)
  case h_11 heq => exact hdeeper (hopen heq rfl) (forLoop_narrows hg)
  case h_12 heq =>
    split
    · exact Narrows.drop_seen_bind heq rfl (Narrows.pure (by simp))
    · exact Narrows.fail _ _
  case h_13 heq =>
    split
    · exact Narrows.drop_seen_bind heq rfl
        (Narrows.seq (optionalValue_narrows hg (s.move t.position) true) fun value => Narrows.pure (by simp))
    · exact Narrows.fail _ _
  case h_14 heq =>
    exact Narrows.drop_seen_bind heq rfl
      (Narrows.seq (optionalValue_narrows hg (s.move t.position) _) fun value => Narrows.pure (by simp))
  case h_15 heq =>
    exact Narrows.drop_seen_bind heq rfl
      (Narrows.seq (optionalValue_narrows hg (s.move t.position) _) fun value => Narrows.pure (by simp))
  case h_16 heq => exact hdeeper (hopen heq rfl) (tryCatch_narrows hg)
  case h_17 heq =>
    exact hdeeper (hopen heq rfl) fun s => (declaration_narrows hg s false false).seen_same (by simp)
  case h_18 heq =>
    exact hdeeper (hopen heq rfl) fun s => (declaration_narrows hg s false true).seen_same (by simp)
  case h_19 heq => exact hdeeper heq (importModule_narrows hg)
  case h_20 heq =>
    split
    · exact hdeeper heq (exportName_narrows hg)
    · exact Narrows.fail _ _
  case h_21 =>
    exact Narrows.seq (Narrows.deeper_bind (s := s.move t.position) fun s => expressionStmt_narrows hg s) fun stmt =>
      Narrows.pure (by simp)

/-! ### Expressions -/

omit hg in
/-- A keyword is none of the words that may be called or used like a name. -/
private theorem not_callable_of_keyword {word : String} (hword : (Keyword.ofWord? word).isSome = true) :
    Names.reservedFunctions.contains word = false ∧ Names.reservedMethods.contains word = false ∧
      (word == "this") = false := by
  obtain ⟨k, hk⟩ := Option.isSome_iff_exists.1 hword
  have hspelling : k.spelling = word := by simpa using List.find?_some hk
  rw [← hspelling]
  cases k <;> decide

omit hg in
private theorem linksOf_narrows (op : Position) (optional : Bool) : ∀ e : Expr,
    Narrows c P (.expr e) (linksOf op optional e) (linksOf op optional e) Shown.links
  | .var .. => by
    unfold linksOf
    exact Narrows.pure (by simp)
  | .call .. => by
    unfold linksOf
    dsimp only
    split
    · exact Narrows.fail_bind _ _
    split
    · exact Narrows.fail_bind _ _
    · exact Narrows.pure (by simp)
  | .chain _ root links => by
    unfold linksOf
    refine Narrows.seen_same (Y := .or (.expr root) (.links links)) ?_ (by simp)
    exact Narrows.seq (linksOf_narrows op optional root).frame fun before => Narrows.pure (by simp)
  | .literal .. | .text .. | .array .. | .map .. | .qualified .. | .this _ | .capture .. | .unary .. | .binary ..
  | .statement _ => by
    unfold linksOf
    exact Narrows.fail _ _

omit hg in
/-- What a link or a call starts with is plain. -/
private theorem isPlain_of_isPostfix {e : Expr} {t : Token} (ht : isPostfix e t = true) : t.isPlain = true := by
  unfold isPostfix at ht
  split at ht
  all_goals first | rfl | cases ht

omit hg in
/-- A name, which shows nothing, can be called and can stand in front of another name. -/
private theorem not_in_of_isPostfix {e : Expr} {t : Token} (ht : isPostfix e t = true)
    (hlinks : t ≠ .symbol .period ∧ t ≠ .symbol .optionalPeriod ∧ t ≠ .symbol .leftBracket ∧
      t ≠ .symbol .optionalBracket) (u : Trait) : ¬ u.In (.expr e) := by
  unfold isPostfix at ht
  split at ht
  all_goals simp at hlinks ht ⊢

omit hg in
@[simp]
private theorem expr_extend {pos : Position} {open' : Bool} {e : Expr} {links : List Link} {t : Trait} :
    t.In (.expr (extend pos open' e links)) ↔ t.In (.expr e) ∨ t.InAny (links.map .link) := by
  unfold extend
  split
  · simp [or_assoc]
  · simp

/-- A name in front of its arguments.  That a word of the language is the name of a call shows in `Z`. -/
private theorem postfixFrom_narrows {Z : Shown} (s : Setting) (n : Nat) (open' : Bool) (e : Expr)
    (hZ : ∀ u, P u → ∀ t, Z t → (u.token = .symbol .leftParen ∨ u.token = .symbol .emptyParens) ∧
      isPostfix e u.token ∧ t.call (pathOf e).2.2.2) :
    Narrows c P (.or Z (.expr e)) (postfixFrom g (s.under c.tight) n open' e)
      (postfixFrom h (s.under c.loose) n open' e) Shown.expr := by
  induction n generalizing s open' e P Z with
  | zero => exact Narrows.fail _ _
  | succ n ih =>
    have hmore (P : Known) (s : Setting) (open' : Bool) (e : Expr) : Narrows c P (.expr e)
        (postfixFrom g (s.under c.tight) n open' e) (postfixFrom h (s.under c.loose) n open' e) Shown.expr :=
      (ih (Z := .nothing) s open' e fun _ _ _ => False.elim).seen_same (by simp)
    unfold postfixFrom
    refine Narrows.peek_bind fun t ht => ?_
    have hcall := hZ t ht
    split
    · rename_i hpostfix
      refine Narrows.pure fun u => (or_iff_right fun hz => ?_).symm
      exact absurd (hcall u hz).2.1 (by simpa using hpostfix)
    rename_i hpostfix
    rw [Bool.not_eq_true, Bool.not_eq_false'] at hpostfix
    refine Narrows.drop_seen_bind rfl (isPlain_of_isPostfix hpostfix) ?_
    extract_lets s₁ s₂
    have hextended (hz : ∀ u, ¬ Z u) (links : List Link) : Narrows c Known.any (.or (.links links) (.or Z (.expr e)))
        (postfixFrom g s₁ n true (extend t.position open' e links))
        (postfixFrom h s₂ n true (extend t.position open' e links)) Shown.expr :=
      (hmore _ (s.move t.position) _ _).seen_same fun u => by simp [hz, or_comm]
    split
    case h_1 heq | h_2 heq | h_3 heq =>
      -- a call, with or without the sign in front of its arguments
      have hname (u : Trait) : ¬ u.In (.expr e) := not_in_of_isPostfix hpostfix (by simp [heq]) u
      generalize pathOf e = parts at hcall ⊢
      obtain ⟨p, root, path, name⟩ := parts
      dsimp only at hcall ⊢
      have hcalled (P : Known) (s : Setting) (args : List Expr) :
          Narrows c P (.or (.exprs args) (.or Z (.expr e)))
            (postfixFrom g (s.under c.tight) n false (.call p path name (t.token = .symbol .not) args))
            (postfixFrom h (s.under c.loose) n false (.call p path name (t.token = .symbol .not) args)) Shown.expr := by
        refine (hmore P s false _).seen_less (fun u => ?_) fun hsize => ?_
        · rintro (hargs | hz | he)
          · exact Trait.in_call.2 (Or.inr hargs)
          · exact Trait.in_call.2 (Or.inl (hcall u hz).2.2)
          · exact absurd he (hname u)
        · exact Or.inl ((Trait.in_call.1 hsize).resolve_left id)
      split
      · refine Narrows.peek_bind fun after _ => ?_
        split
        · exact Narrows.fail_bind _ _
        · exact Narrows.fail_bind _ _
        · exact Narrows.fail_bind _ _
      refine Narrows.deeper_bind (s := (s.move t.position).move p) fun s => ?_
      have hnone (P : Known) := (hcalled P s []).seen_same (X := .or Z (.expr e)) fun u => by simp
      split
      · exact hnone _
      · exact Narrows.bind (arguments_narrows hg s name) fun args => hcalled _ s args
      refine Narrows.peek_bind fun after _ => Narrows.skip (Narrows.accept rfl) fun isEmpty => ?_
      split
      · exact hnone _
      refine Narrows.skip (Narrows.accept rfl) fun isOpen => ?_
      split
      · exact Narrows.bind (arguments_narrows hg s name) fun args => hcalled _ s args
      · exact Narrows.fail_bind _ _
    -- what follows is no call
    all_goals
      have hz (u : Trait) : ¬ Z u := fun hz => by rcases (hcall u hz).1 with h | h <;> simp_all
    case h_4 heq =>
      -- a name in a namespace
      have hname (u : Trait) : ¬ u.In (.expr e) := not_in_of_isPostfix hpostfix (by simp [heq]) u
      generalize pathOf e = parts
      obtain ⟨_, root, path, name⟩ := parts
      refine Narrows.skip variableName_narrows fun member => ?_
      exact (hmore _ (s.move t.position) false _).seen_same fun u => by simp [hz, hname]
    case h_5 | h_6 =>
      -- subscripts
      refine Narrows.deeper_bind (s := s.move t.position) fun s => ?_
      exact Narrows.bind (hg.subscripts s e _) (hextended hz)
    case h_7 =>
      -- a property or a method
      refine Narrows.deeper_bind (s := s.move t.position) fun s => ?_
      refine Narrows.bind (hg.primary s true) fun rest => ?_
      exact Narrows.seq (linksOf_narrows _ _ rest).frame (hextended hz)

private theorem subscriptsStep_narrows (s : Setting) (root : Expr) (optional : Bool) :
    Narrows c P .nothing (subscriptsStep g (s.under c.tight) root optional)
      (subscriptsStep h (s.under c.loose) root optional) Shown.links := by
  unfold subscriptsStep
  refine Narrows.seq (Narrows.of_any (hg.expr s)) fun key => ?_
  dsimp only
  split
  · exact Narrows.fail_bind _ _
  refine Narrows.peek_bind fun t _ => ?_
  split
  · rename_i heq
    refine Narrows.drop_seen_bind heq rfl (Narrows.peek_bind fun after _ => ?_)
    split
    case h_1 heq | h_2 heq =>
      refine Narrows.drop_seen_bind heq rfl (Narrows.deeper_bind (s := s.move after.position) fun s' => ?_)
      exact Narrows.bind (hg.subscripts s' _ _) fun rest => Narrows.pure (by simp [or_comm])
    case h_3 => exact Narrows.pure (by simp)
  · exact Narrows.fail _ _
  · exact Narrows.fail _ _

private theorem parenthesized_narrows (s : Setting) :
    Narrows c Known.open .nothing (parenthesized g (s.under c.tight)) (parenthesized h (s.under c.loose))
      Shown.expr := by
  unfold parenthesized
  refine Narrows.deeper_bind fun s => Narrows.drop_open_bind (fun _ ht => ht) ?_
  exact Narrows.seq (hg.expr s) fun e => Narrows.require_bind rfl (Narrows.pure fun _ => Iff.rfl)

private theorem primaryStep_narrows (s : Setting) (afterPeriod : Bool) :
    Narrows c P .nothing (primaryStep g (s.under c.tight) afterPeriod)
      (primaryStep h (s.under c.loose) afterPeriod) Shown.expr := by
  unfold primaryStep
  refine Narrows.peek_bind fun t _ => ?_
  extract_lets p s₁ literal statement linked main s₂ statement' linked' main'
  have hfunction : s₂.inFunction = s₁.inFunction := rfl
  have hopen {tok : Token} (heq : t.token = tok) (htok : tok.isPlain = true) : Known.open t := by
    rw [Known.open, heq]
    exact htok
  -- whatever comes first, links may follow
  have hlinked (P : Known) (root : Expr) : Narrows c P (.expr root) (linked root) (linked' root) Shown.expr :=
    Narrows.get_bind fun st => (postfixFrom_narrows hg (Z := .nothing) (s.move t.position) _ _ _
      fun _ _ _ => False.elim).seen_same (by simp)
  have hnothing (P : Known) {root : Expr} (hroot : ∀ u : Trait, ¬ u.In (.expr root)) :
      Narrows c P .nothing (linked root) (linked' root) Shown.expr := (hlinked P root).seen_same (by simp [hroot])
  have hliteral {v : Value} {tok : Token} (heq : t.token = tok) (htok : tok.isPlain = true)
      (hv : ∀ u : Trait, ¬ u.InValue v) :
      Narrows c (Known.seen t) .nothing (literal v >>= linked) (literal v >>= linked') Shown.expr :=
    Narrows.seq (R := Shown.expr) (Narrows.drop_seen_bind heq htok (Narrows.pure (by simp [hv])))
      fun root => hlinked _ root
  have hstatement {p q : Setting → Parse Stmt} (hopen : Known.open t)
      (hp : ∀ s : Setting, Narrows c Known.open .nothing (p (s.under c.tight)) (q (s.under c.loose)) Shown.stmt) :
      Narrows c (Known.seen t) .nothing (statement p >>= linked) (statement' q >>= linked') Shown.expr := by
    refine Narrows.seq (R := Shown.expr) ?_ fun root => hlinked _ root
    refine Narrows.seq (Narrows.deeper_bind (s := s.move t.position) fun s => (hp s).weaken ?_) fun stmt =>
      Narrows.pure (by simp)
    rintro _ rfl
    exact hopen
  -- the step, given that a reserved word behind a period can be a method
  have hmain (hword : ∀ word, t.token = .reserved word → afterPeriod = true → Names.reservedMethods.contains word) :
      Narrows c (Known.seen t) .nothing (main ()) (main' ()) Shown.expr := by
    unfold main main'
    rw [hfunction]
    split
    case h_1 => exact Narrows.fail_bind _ _
    case h_2 heq | h_3 heq | h_4 heq => exact hliteral heq rfl (by simp [Trait.InValue])
    case h_5 heq =>
      refine hstatement (hopen heq rfl) fun s => ?_
      exact Narrows.seq (blockWithPlace_narrows hg s) fun block => Narrows.pure (by simp)
    case h_6 heq =>
      refine Narrows.seq ((parenthesized_narrows hg (s.move t.position)).weaken ?_) fun root => hlinked _ root
      rintro _ rfl
      exact hopen heq rfl
    case h_7 heq => exact hstatement (hopen heq rfl) (ifElseStep_narrows hg)
    case h_8 heq | h_9 heq => exact hstatement (hopen heq rfl) (whileLoop_narrows hg)
    case h_10 heq => exact hstatement (hopen heq rfl) (doLoop_narrows hg)
    case h_11 heq => exact hstatement (hopen heq rfl) (forLoop_narrows hg)
    case h_12 heq => exact hstatement (hopen heq rfl) (switch_narrows hg)
    case h_13 heq | h_14 heq =>
      refine Narrows.seq ((closure_narrows hg (s.move t.position)).weaken ?_) fun root => hlinked _ root
      rintro _ rfl
      exact hopen heq rfl
    case h_15 heq =>
      refine Narrows.deeper_bind (s := s.move t.position) fun s => Narrows.deeper_bind fun s => ?_
      refine Narrows.drop_seen_bind heq rfl (Narrows.get_bind fun st => ?_)
      refine Narrows.seq ((arrayItems_narrows hg s _ []).seen_same (by simp)) fun items => ?_
      exact (hlinked _ _).seen_same (by simp)
    case h_16 heq =>
      refine Narrows.deeper_bind (s := s.move t.position) fun s => Narrows.deeper_bind fun s => ?_
      refine Narrows.drop_seen_bind heq rfl (Narrows.get_bind fun st => ?_)
      refine Narrows.seq ((mapEntries_narrows hg s _ []).seen_same (by simp [Shown.entries])) fun entries => ?_
      exact (hlinked _ _).seen_same (by simp [Shown.entries])
    case h_17 heq | h_18 heq | h_19 heq | h_20 heq => exact hliteral heq rfl (by simp [Trait.InValue])
    case h_21 heq =>
      refine Narrows.drop_seen_bind heq rfl (Narrows.deeper_bind (s := s.move t.position) fun s => ?_)
      refine Narrows.get_bind fun st => ?_
      refine Narrows.seq ((textPieces_narrows hg s _ _).seen_same fun u => ?_) fun pieces => ?_
      · split
        · simp
        · simp [Trait.InValue]
      · exact (hlinked _ _).seen_same (by simp)
    case h_22 name heq =>
      refine Narrows.drop_seen_bind heq rfl (Narrows.peek_bind fun next _ => ?_)
      have hvar (P : Known) : Narrows c P .nothing (linked (.var p name)) (linked' (.var p name)) Shown.expr :=
        hnothing P (by simp)
      split
      · exact hvar _
      · exact hvar _
      · exact hvar _
      · split
        · exact Narrows.fail_bind _ _
        · exact hvar _
      · split
        · exact Narrows.seq (noteUse_narrows name) fun _ => hvar _
        · exact hvar _
    case h_23 word heq =>
      cases hkeyword : (Keyword.ofWord? word).isSome with
      | true =>
        -- a keyword that was taken out of the language is refused in every place
        obtain ⟨hfunctions, hmethods, hthis⟩ := not_callable_of_keyword hkeyword
        have hplain : afterPeriod = false := by
          cases afterPeriod with
          | false => rfl
          | true =>
            have hcontains := hword word heq rfl
            rw [hmethods] at hcontains
            cases hcontains
        rw [hfunctions, hplain, hthis]
        simp only [Bool.or_self, Bool.and_false, Bool.false_eq_true, if_false]
        exact Narrows.of_refuses (.of_bind fun _ => .of_bind fun _ => (refuses_fail _ _).bind _)
          (.of_bind fun _ => .of_bind fun _ => (refuses_fail _ _).bind _)
      | false =>
        -- any other word that can be taken out of the language is called
        let spelled : Shown := fun u => u.call word ∧ Names.disabledKeywords.contains word
        refine Narrows.drop_bind fun u hu => .taken (E := spelled) ?_ (fun hdisabled => ?_) (fun h => h.1) ?_
        · rw [hu, heq]
          exact hkeyword
        · rw [hu, heq] at hdisabled
          have hnone := Option.isNone_iff_eq_none.1 (Option.isSome_eq_false_iff.1 hkeyword)
          exact ⟨⟨List.contains_iff_mem.1 hdisabled, hnone⟩, hdisabled⟩
        refine Narrows.peek_bind fun next _ => ?_
        extract_lets isCall
        split
        · rename_i hcall
          suffices hcalled : Narrows c (Known.seen next) (.or spelled (.expr (.var p word))) (linked (.var p word))
              (linked' (.var p word)) Shown.expr from hcalled.seen_same (by simp)
          refine Narrows.get_bind fun st => postfixFrom_narrows hg (s.move t.position) _ _ _ fun u hu v hv => ?_
          have hnext : next.token = .symbol .leftParen ∨ next.token = .symbol .emptyParens := by
            simpa [isCall] using (Bool.and_eq_true_iff.1 hcall).1
          rw [hu]
          exact ⟨hnext, by rcases hnext with h | h <;> rw [h] <;> rfl, hv.1⟩
        split
        · rename_i hthis
          have hspelled (u : Trait) : ¬ spelled u := by
            rintro ⟨-, hdisabled⟩
            rw [beq_iff_eq.1 hthis] at hdisabled
            exact absurd hdisabled (by decide)
          split
          · exact (hnothing _ (by simp)).seen_same (by simp [hspelled])
          · exact Narrows.fail_bind _ _
        · exact Narrows.fail_bind _ _
    case h_24 => exact Narrows.fail_bind _ _
    case h_25 => exact Narrows.fail_bind _ _
  -- behind a period, only a name or a word that can be a method goes on
  split
  · split
    · rename_i heq
      refine hmain fun word hw _ => ?_
      rw [heq] at hw
      cases hw
    · rename_i heq
      split
      · rename_i hcontains
        refine hmain fun word hw _ => ?_
        rw [heq] at hw
        cases hw
        exact hcontains
      · exact Narrows.fail_bind _ _
    · exact Narrows.fail_bind _ _
  · rename_i hafter
    exact hmain fun _ _ h => absurd h hafter

private theorem unaryStep_narrows (s : Setting) :
    Narrows c P .nothing (unaryStep g (s.under c.tight)) (unaryStep h (s.under c.loose)) Shown.expr := by
  unfold unaryStep
  refine Narrows.peek_bind fun t _ => ?_
  extract_lets s₁ operand s₂ operand'
  have hoperand {f : Expr → Parse Expr} {tok : Token} (heq : t.token = tok) (htok : tok.isPlain = true)
      (hf : ∀ e, Narrows c Known.any (.expr e) (f e) (f e) Shown.expr) :
      Narrows c (Known.seen t) .nothing (operand >>= f) (operand' >>= f) Shown.expr := by
    refine Narrows.seq (Narrows.drop_seen_bind heq htok ?_) hf
    exact Narrows.deeper_bind (s := s.move t.position) fun s => hg.unary s
  split
  case h_1 heq | h_2 heq | h_3 heq | h_4 heq =>
    refine hoperand heq rfl fun e => ?_
    split
    · refine Narrows.pure fun u => ?_
      simp only [Shown.expr_iff, Trait.in_literal, Trait.InValue]
      try split <;> exact Iff.rfl
    · exact Narrows.pure (by simp [Trait.InValue])
    · exact Narrows.pure (by simp)
  case h_5 heq => exact hoperand heq rfl fun e => Narrows.pure (by simp)
  case h_6 => exact Narrows.fail _ _
  case h_7 => exact Narrows.of_any (hg.primary (s.move t.position) false)

omit hg in
/-- An operator is plain. -/
private theorem operator?_bind {α : Type} {X : Shown} {R : α → Shown} {s : Setting} {f f' : Option BinaryOp → Parse α}
    (hnone : Narrows c P X (f none) (f' none) R)
    (hsome : ∀ op, Narrows c Known.open X (f (some op)) (f' (some op)) R) :
    Narrows c P X (operator? (s.under c.tight) >>= f) (operator? (s.under c.loose) >>= f') R := by
  unfold operator?
  rw [bind_assoc, bind_assoc]
  refine Narrows.peek_bind fun t ht => ?_
  have hnone' : Narrows c (Known.seen t) X (f none) (f' none) R := hnone.weaken fun u hu => by rw [hu]; exact ht
  have hsome' (op op' : BinaryOp) (heq : t.token = .operator op') :
      Narrows c (Known.seen t) X (f (some op)) (f' (some op)) R := by
    refine (hsome op).weaken ?_
    rintro _ rfl
    rw [Known.open, heq]
    rfl
  split
  · rename_i heq
    have hbar : (s.under c.loose).barEnds = (s.under c.tight).barEnds := rfl
    rw [hbar, pure_bind, pure_bind]
    split
    · exact hnone'
    · exact hsome' _ _ heq
  · rename_i heq
    exact hsome' _ _ heq
  · split
    · exact hnone'
    · exact Narrows.fail_bind _ _
  · exact hnone'

private theorem operand_narrows (s : Setting) (op : BinaryOp) : Narrows c P .nothing (operand g (s.under c.tight) op)
    (operand h (s.under c.loose) op) Shown.expr := by
  unfold operand
  refine Narrows.peek_bind fun t _ => ?_
  split
  · exact Narrows.pure (by simp [Trait.InValue])
  split
  · refine Narrows.seq (Narrows.of_any (hg.stmt s)) fun stmt => ?_
    split
    · exact Narrows.pure (by simp)
    · exact Narrows.pure (by simp [Trait.InValue])
  · exact Narrows.of_any (hg.unary s)

omit hg in
/-- The use of an operator shows what its operands show.  Membership is a call, but of no name that matters. -/
private theorem ofOperator_seen {R : Expr → Shown} {pos : Position} {op : BinaryOp} {lhs rhs : Expr} {p q : Parse Expr}
    (h : Narrows c P (.expr (.ofOperator pos op lhs rhs)) p q R) : Narrows c P (.or (.expr rhs) (.expr lhs)) p q R := by
  refine h.seen_less (fun t => ?_) ?_
  · unfold Expr.ofOperator
    split <;> simp +contextual [or_comm]
  · unfold Expr.ofOperator
    split <;> simp [or_comm]

private theorem binaryFrom_narrows (n : Nat) (s : Setting) (parent : Nat) (lhs : Expr) :
    Narrows c P (.expr lhs) (binaryFrom g n (s.under c.tight) parent lhs)
      (binaryFrom h n (s.under c.loose) parent lhs) Shown.expr := by
  induction n generalizing s lhs P with
  | zero => exact Narrows.fail _ _
  | succ n ih =>
    unfold binaryFrom
    refine operator?_bind (Narrows.pure fun _ => Iff.rfl) fun op => ?_
    dsimp -zeta only
    split
    · exact Narrows.pure fun _ => Iff.rfl
    refine Narrows.take_open_bind (fun _ ht => ht) fun first _ => ?_
    refine Narrows.bind (operand_narrows hg s op) fun rhs => ?_
    extract_lets combined combined'
    have hcombined (P : Known) (rhs : Expr) :
        Narrows c P (.or (.expr rhs) (.expr lhs)) (combined rhs) (combined' rhs) Shown.expr := by
      refine Narrows.deeper_bind fun s => ?_
      split
      · exact requireBool_bind (requireBool_bind (ofOperator_seen (ih (s.move first.position) _)))
      · exact ofOperator_seen (ih (s.move first.position) _)
    refine operator?_bind (hcombined _ rhs) fun next => ?_
    dsimp only
    split
    · exact Narrows.seq (Narrows.of_any (hg.binary s _ rhs)).frame fun rhs => hcombined _ rhs
    · exact hcombined _ rhs

private theorem binaryStep_narrows (s : Setting) (parent : Nat) (lhs : Expr) : Narrows c P (.expr lhs)
    (binaryStep g (s.under c.tight) parent lhs) (binaryStep h (s.under c.loose) parent lhs) Shown.expr := by
  unfold binaryStep
  exact Narrows.get_bind fun st => binaryFrom_narrows hg _ (s.move lhs.position) _ _

private theorem exprStep_narrows (s : Setting) :
    Narrows c P .nothing (exprStep g (s.under c.tight)) (exprStep h (s.under c.loose)) Shown.expr := by
  unfold exprStep
  refine Narrows.peek_bind fun t _ => Narrows.deeper_bind (s := s.move t.position) fun s => ?_
  extract_lets operated operated'
  have hoperated (P : Known) (lhs : Expr) : Narrows c P (.expr lhs) (operated lhs) (operated' lhs) Shown.expr :=
    Narrows.of_any (hg.binary s 1 lhs)
  split
  · exact (hoperated _ _).seen_same (by simp [Trait.InValue])
  · exact (hoperated _ _).seen_same (by simp [Trait.InValue])
  · exact Narrows.seq (Narrows.of_any (hg.unary s)) fun lhs => hoperated _ lhs

end step

/-! ### The whole grammar -/

theorem grammar_loosens (c : Comparison) (n : Nat) : Loosens c (grammar n) (grammar n) := by
  induction n with
  | zero =>
    exact
      { expr := fun _ => Narrows.fail _ _, unary := fun _ => Narrows.fail _ _,
        binary := fun _ _ _ => Narrows.fail _ _, primary := fun _ _ => Narrows.fail _ _,
        stmt := fun _ => Narrows.fail _ _, ifElse := fun _ => Narrows.fail _ _,
        subscripts := fun _ _ _ => Narrows.fail _ _, keys := grammar_keepsKeys 0 }
  | succ n ih =>
    exact
      { expr := exprStep_narrows ih, unary := unaryStep_narrows ih, binary := binaryStep_narrows ih,
        primary := primaryStep_narrows ih, stmt := stmtStep_narrows ih, ifElse := ifElseStep_narrows ih,
        subscripts := subscriptsStep_narrows ih, keys := grammar_keepsKeys (n + 1) }

theorem programFrom_narrows {g h : Grammar} (hg : Loosens c g h) (s : Setting) (n : Nat) (done : List Stmt) :
    Narrows c Known.any (.stmts done) (programFrom g (s.under c.tight) n done)
      (programFrom h (s.under c.loose) n done) Shown.stmts := by
  induction n generalizing done with
  | zero => exact Narrows.fail _ _
  | succ n ih =>
    unfold programFrom
    refine Narrows.peek_bind fun t _ => ?_
    split
    · exact Narrows.pure (by simp)
    refine Narrows.bind (Narrows.of_any (hg.stmt s)) fun stmt => ?_
    split
    · exact (ih _).seen_same (by simp)
    rename_i stmt
    refine Narrows.seen_same (Y := .stmts (stmt :: done)) ?_ (by simp)
    refine Narrows.peek_bind fun t _ => ?_
    split
    · exact Narrows.pure (by simp [or_comm])
    split
    · exact Narrows.of_any (ih _)
    split
    · rename_i heq
      exact Narrows.drop_seen_bind heq rfl (ih _)
    · exact Narrows.fail _ _
    · exact Narrows.fail _ _

end Parser

end Sandscript
