import Mathlib.Control.Monad.Basic
import Sandscript.Proofs.Validation.Walk

/-!
# What a verdict says about a script

An accepted script has no forbidden part where the walk looks (`not_forbidden_of_walks`), and a refusal for a construct
names a part of the script and says what is wrong with it (`Blames`).  The walk passes by the value of a `break`, a
case without labels and the `export` in front of a declaration; `validate_finds_forbidden` states that nothing else
escapes.
-/

namespace Sandscript

namespace Names

/-- No function that takes callbacks is itself forbidden. -/
private theorem contains_callbackFunctions_of_isForbiddenCall {name : String} (h : isForbiddenCall name = true) :
    callbackFunctions.contains name = false := by
  have hall : ∀ n ∈ callbackFunctions, isForbiddenCall n = false := by decide +kernel
  cases hc : callbackFunctions.contains name with
  | false => rfl
  | true =>
    rw [hall name (List.contains_iff_mem.1 hc)] at h
    cases h

end Names

namespace Part

/-- A part that no accepted script should have. -/
def Forbidden : Part → Prop
  | expr (.capture ..) => True
  | expr (.call _ _ name _ _) => Names.isForbiddenCall name
  | link (.method _ _ _ name _) => Names.isForbiddenCall name
  | link (.property _ _ _ name) => Names.isForbiddenAttribute name
  | stmt (.importModule ..) => True
  | stmt (.exportName ..) => True
  | stmt (.declare _ exported _ _ _) => exported
  | _ => False

/-- A declaration that is exported where it stands. -/
def ExportsDeclaration : Part → Prop
  | stmt (.declare _ exported _ _ _) => exported
  | _ => False

private theorem forbidden_of_exportsDeclaration {q : Part} (h : q.ExportsDeclaration) : q.Forbidden := by
  cases q with
  | stmt s =>
    cases s with
    | declare => exact h
    | _ => cases h
  | _ => cases h

/-- A forbidden call shows a use that is refused: its name is none of those that take callbacks. -/
private theorem rejection?_ofCall_isSome {plain : Construct} {name : String} {args : List Expr} {p : Position}
    (h : Names.isForbiddenCall name = true) (hplain : plain = .call name ∨ plain = .method name) :
    (Use.rejection? ⟨.ofCall plain name args, p⟩).isSome := by
  have hof : Construct.ofCall plain name args = plain := by
    rw [Construct.ofCall, Names.contains_callbackFunctions_of_isForbiddenCall h]
    rfl
  rw [hof]
  rcases hplain with rfl | rfl <;> simp [Use.rejection?, h]

/-- What is forbidden about a part shows, the `export` of a declaration excepted. -/
private theorem rejected_of_forbidden {q : Part} (h : q.Forbidden) (hq : ¬ q.ExportsDeclaration) :
    ∃ u ∈ q.shown, u.rejection?.isSome := by
  cases q with
  | expr e =>
    cases e with
    | capture p _ _ => exact ⟨⟨.captured, p⟩, List.mem_singleton_self _, rfl⟩
    | call p _ name _ args => exact ⟨_, List.mem_singleton_self _, rejection?_ofCall_isSome h (Or.inl rfl)⟩
    | _ => cases h
  | link l =>
    cases l with
    | property _ p _ name =>
      refine ⟨⟨.property name, p⟩, List.mem_singleton_self _, ?_⟩
      have hname : Names.isForbiddenAttribute name = true := h
      simp [Use.rejection?, hname]
    | index => cases h
    | method _ p _ name args => exact ⟨_, List.mem_singleton_self _, rejection?_ofCall_isSome h (Or.inr rfl)⟩
  | stmt s =>
    cases s with
    | importModule p _ _ => exact ⟨⟨.importing, p⟩, List.mem_singleton_self _, rfl⟩
    | exportName p _ _ => exact ⟨⟨.exporting, p⟩, List.mem_singleton_self _, rfl⟩
    | declare => exact absurd h hq
    | _ => cases h
  | arm => cases h

/-- A refusal names a part and gives its line. -/
inductive Blames : Rejection → Part → Prop
  | importing (p : Position) (path : Expr) (newName : Option String) :
    Blames (.forbiddenConstruct "import statement" p.line?) (.stmt (.importModule p path newName))
  | exporting (p : Position) (name : String) (newName : Option String) :
    Blames (.forbiddenConstruct "export statement" p.line?) (.stmt (.exportName p name newName))
  | captured (p : Position) (function : String) (outer : List String) :
    Blames (.forbiddenConstruct capturedText p.line?) (.expr (.capture p function outer))
  | call (p : Position) (path : List String) (name : String) (inScope : Bool) (args : List Expr)
    (h : Names.isForbiddenCall name = true) :
    Blames (.forbiddenCall name p.line?) (.expr (.call p path name inScope args))
  | method (op p : Position) (optional : Bool) (name : String) (args : List Expr)
    (h : Names.isForbiddenCall name = true) :
    Blames (.forbiddenCall name p.line?) (.link (.method op p optional name args))
  /-- A literal given to a function that takes callbacks. -/
  | callback (p : Position) (path : List String) (name : String) (inScope : Bool) (args : List Expr)
    (hname : name ∈ Names.callbackFunctions) (q : Position) (target : String)
    (harg : .literal q (.str target) ∈ args) (h : Names.isForbiddenCall target = true) :
    Blames (.forbiddenCall target p.line?) (.expr (.call p path name inScope args))
  | callbackMethod (op p : Position) (optional : Bool) (name : String) (args : List Expr)
    (hname : name ∈ Names.callbackFunctions) (q : Position) (target : String)
    (harg : .literal q (.str target) ∈ args) (h : Names.isForbiddenCall target = true) :
    Blames (.forbiddenCall target p.line?) (.link (.method op p optional name args))
  | property (op p : Position) (optional : Bool) (name : String) (h : Names.isForbiddenAttribute name = true) :
    Blames (.forbiddenAttribute name p.line?) (.link (.property op p optional name))
  | subscript (op : Position) (optional : Bool) (q : Position) (key : String)
    (h : Names.isForbiddenAttribute key = true) :
    Blames (.forbiddenAttribute key op.line?) (.link (.index op optional (.literal q (.str key))))

private theorem eq_literal_of_literalText? {e : Expr} {target : String} (h : literalText? e = some target) :
    ∃ q, e = .literal q (.str target) := by
  unfold literalText? at h
  split at h
  · rename_i q s
    cases h
    exact ⟨q, rfl⟩
  · cases h

/-- What the call of `name` counts as: itself, or a literal given to a function that takes callbacks. -/
private theorem ofCall_cases (plain : Construct) (name : String) (args : List Expr) :
    Construct.ofCall plain name args = plain ∨
      name ∈ Names.callbackFunctions ∧
        ∃ q target, Expr.literal q (.str target) ∈ args ∧ Construct.ofCall plain name args = .callback target := by
  unfold Construct.ofCall
  split
  · rename_i hname
    split
    · rename_i target htarget
      obtain ⟨e, he, hliteral⟩ := List.exists_of_findSome?_eq_some htarget
      obtain ⟨q, rfl⟩ := eq_literal_of_literalText? hliteral
      exact Or.inr ⟨List.contains_iff_mem.1 hname, q, target, he, rfl⟩
    · exact Or.inl rfl
  · exact Or.inl rfl

private theorem isForbiddenCall_of_rejection? {p : Position} {name : String} {c : Construct} {r : Rejection}
    (hc : c = .call name ∨ c = .method name ∨ c = .callback name) (h : Use.rejection? ⟨c, p⟩ = some r) :
    Names.isForbiddenCall name = true ∧ r = .forbiddenCall name p.line? := by
  have h' : (if Names.isForbiddenCall name then some (Rejection.forbiddenCall name p.line?) else none) = some r := by
    rcases hc with rfl | rfl | rfl <;> exact h
  split at h'
  · rename_i hname
    cases h'
    exact ⟨hname, rfl⟩
  · cases h'

private theorem isForbiddenAttribute_of_rejection? {p : Position} {name : String} {c : Construct} {r : Rejection}
    (hc : c = .property name ∨ c = .subscript name) (h : Use.rejection? ⟨c, p⟩ = some r) :
    Names.isForbiddenAttribute name = true ∧ r = .forbiddenAttribute name p.line? := by
  have h' : (if Names.isForbiddenAttribute name then some (Rejection.forbiddenAttribute name p.line?) else none) =
      some r := by
    rcases hc with rfl | rfl <;> exact h
  split at h'
  · rename_i hname
    cases h'
    exact ⟨hname, rfl⟩
  · cases h'

/-- The key at the end of a chain belongs to one of its links. -/
private theorem mem_lastKey {u : Use} : ∀ {links : List Link}, u ∈ lastKey links →
    ∃ op optional q key, links.getLast? = some (.index op optional (.literal q (.str key))) ∧ u = ⟨.subscript key, op⟩
  | l :: rest, h => by
    by_cases hl : ∃ op optional q key, l = .index op optional (.literal q (.str key)) ∧ rest = []
    · obtain ⟨op, optional, q, key, rfl, rfl⟩ := hl
      rw [lastKey, List.mem_singleton] at h
      exact ⟨op, optional, q, key, rfl, h⟩
    · rw [lastKey.eq_3 _ _ fun op optional q key hl' hrest => hl ⟨op, optional, q, key, hl', hrest⟩] at h
      obtain ⟨op, optional, q, key, hlast, hu⟩ := mem_lastKey h
      refine ⟨op, optional, q, key, ?_, hu⟩
      rw [List.getLast?_cons, hlast]
      rfl

/-- The refusal of a use blames the part that shows it, or the last link of that part. -/
private theorem blames_of_rejection? {q : Part} {u : Use} {r : Rejection} (hu : u ∈ q.shown)
    (hr : u.rejection? = some r) :
    Blames r q ∨ ∃ s ∈ q.walked, Blames r s := by
  cases q with
  | expr e =>
    cases e with
    | capture p function outer =>
      obtain rfl := List.mem_singleton.1 hu
      cases hr
      exact Or.inl (.captured p function outer)
    | call p path name inScope args =>
      obtain rfl := List.mem_singleton.1 hu
      rcases ofCall_cases (.call name) name args with hof | ⟨hname, q, target, harg, hof⟩
      · rw [hof] at hr
        obtain ⟨hforbidden, rfl⟩ := isForbiddenCall_of_rejection? (Or.inl rfl) hr
        exact Or.inl (.call p path name inScope args hforbidden)
      · rw [hof] at hr
        obtain ⟨hforbidden, rfl⟩ := isForbiddenCall_of_rejection? (Or.inr (Or.inr rfl)) hr
        exact Or.inl (.callback p path name inScope args hname q target harg hforbidden)
    | chain p root links =>
      obtain ⟨op, optional, q, key, hlast, rfl⟩ := mem_lastKey hu
      obtain ⟨hforbidden, rfl⟩ := isForbiddenAttribute_of_rejection? (Or.inr rfl) hr
      refine Or.inr ⟨_, ?_, .subscript op optional q key hforbidden⟩
      exact List.mem_cons_of_mem _ (List.mem_map_of_mem (List.mem_of_getLast? hlast))
    | _ => cases hu
  | link l =>
    cases l with
    | property op p optional name =>
      obtain rfl := List.mem_singleton.1 hu
      obtain ⟨hforbidden, rfl⟩ := isForbiddenAttribute_of_rejection? (Or.inl rfl) hr
      exact Or.inl (.property op p optional name hforbidden)
    | index => cases hu
    | method op p optional name args =>
      obtain rfl := List.mem_singleton.1 hu
      rcases ofCall_cases (.method name) name args with hof | ⟨hname, q, target, harg, hof⟩
      · rw [hof] at hr
        obtain ⟨hforbidden, rfl⟩ := isForbiddenCall_of_rejection? (Or.inr (Or.inl rfl)) hr
        exact Or.inl (.method op p optional name args hforbidden)
      · rw [hof] at hr
        obtain ⟨hforbidden, rfl⟩ := isForbiddenCall_of_rejection? (Or.inr (Or.inr rfl)) hr
        exact Or.inl (.callbackMethod op p optional name args hname q target harg hforbidden)
  | stmt s =>
    cases s with
    | importModule p path newName =>
      obtain rfl := List.mem_singleton.1 hu
      cases hr
      exact Or.inl (.importing p path newName)
    | exportName p name newName =>
      obtain rfl := List.mem_singleton.1 hu
      cases hr
      exact Or.inl (.exporting p name newName)
    | _ => cases hu
  | arm => cases hu

end Part

/-! ### Verdicts -/

namespace Validator

/-- A script is accepted if it is neither blank nor too large, parses, and shows the walk nothing that is refused. -/
theorem validate_eq_ok_iff {v : Validator} {script : Script} :
    v.validate script = .ok () ↔ script.isBlank = false ∧ script.size ≤ v.maxScriptBytes ∧
      ∃ p, Program.parse v.parserLimits script.source = .ok p ∧
        ∀ q, p.Walks q → ∀ u ∈ q.shown, u.rejection? = none := by
  unfold validate
  cases hblank : script.isBlank with
  | true => simp
  | false =>
    by_cases hsize : v.maxScriptBytes < script.size
    · simp [hsize, Nat.not_le.2 hsize]
    · cases hparse : Program.parse v.parserLimits script.source with
      | error e => simp [hsize]
      | ok p =>
        cases hfind : p.uses.findSome? Use.rejection? with
        | some r =>
          obtain ⟨u, hu, hr⟩ := List.exists_of_findSome?_eq_some hfind
          obtain ⟨q, hq, huq⟩ := Program.mem_uses_iff.1 hu
          simp only [hsize, hfind, Bool.false_eq_true, if_false, reduceCtorEq, false_iff]
          rintro ⟨-, -, p', hp', hnone⟩
          cases hp'
          rw [hnone q hq u huq] at hr
          cases hr
        | none =>
          rw [List.findSome?_eq_none_iff] at hfind
          have hnone : ∀ q, p.Walks q → ∀ u ∈ q.shown, u.rejection? = none :=
            fun q hq u hu => hfind u (Program.mem_uses_iff.2 ⟨q, hq, hu⟩)
          simp only [hsize, Bool.false_eq_true, if_false, true_and]
          rw [List.findSome?_eq_none_iff.2 hfind]
          exact ⟨fun _ => ⟨Nat.le_of_not_lt hsize, p, rfl, hnone⟩, fun _ => rfl⟩

/-- Where the walk looks, an accepted script has nothing forbidden but exported declarations. -/
theorem not_forbidden_of_walks {p : Program} (h : ∀ q, p.Walks q → ∀ u ∈ q.shown, u.rejection? = none) {q : Part}
    (hq : p.Walks q) (hexport : ¬ q.ExportsDeclaration) : ¬ q.Forbidden := by
  intro hforbidden
  obtain ⟨u, hu, hr⟩ := Part.rejected_of_forbidden hforbidden hexport
  rw [h q hq u hu] at hr
  cases hr

/-- A refusal that is not about the size or the syntax blames a part of the script. -/
private theorem blames_of_validate {v : Validator} {script : Script} {r : Rejection}
    (h : v.validate script = .error r) :
    r = .empty ∨ r = .tooLarge script.size v.maxScriptBytes ∨ (∃ message, r = .syntaxError message) ∨
      ∃ p, Program.parse v.parserLimits script.source = .ok p ∧ ∃ q, p.Contains q ∧ Part.Blames r q := by
  unfold validate at h
  split at h
  · cases h
    exact Or.inl rfl
  split at h
  · cases h
    exact Or.inr (Or.inl rfl)
  split at h
  · rename_i e he
    cases h
    exact Or.inr (Or.inr (Or.inl ⟨_, rfl⟩))
  · rename_i p hp
    split at h
    · rename_i r' hfind
      cases h
      obtain ⟨u, hu, hr⟩ := List.exists_of_findSome?_eq_some hfind
      obtain ⟨q, ⟨s, hs, hsq⟩, huq⟩ := Program.mem_uses_iff.1 hu
      -- what the walk enters stands in the script
      have hinner : Part.Within Part.inner (.stmt s) q := hsq.mono Part.walked_subset_inner
      refine Or.inr (Or.inr (Or.inr ⟨p, hp, ?_⟩))
      rcases Part.blames_of_rejection? huq hr with hblames | ⟨t, ht, hblames⟩
      · exact ⟨q, ⟨s, hs, hinner⟩, hblames⟩
      · have hstep : Part.Within Part.inner q t := .step (Part.walked_subset_inner q ht) (.refl t)
        exact ⟨t, ⟨s, hs, hinner.trans hstep⟩, hblames⟩
    · cases h

/-- What is forbidden in an accepted script stands in the value of a `break` or in a case without labels, or it is the
`export` of a declaration; and a refusal for a construct is about one that the script has. -/
theorem validate_finds_forbidden (v : Validator) (script : Script) :
    (v.validate script = .ok () → ∃ p, Program.parse v.parserLimits script.source = .ok p ∧
      ((∃ q, p.Contains q ∧ q.Forbidden) ↔
        (∃ q, p.Hides q ∧ q.Forbidden) ∨ ∃ q, p.Walks q ∧ q.ExportsDeclaration)) ∧
      ∀ r, v.validate script = .error r →
        r = .empty ∨ r = .tooLarge script.size v.maxScriptBytes ∨ (∃ message, r = .syntaxError message) ∨
          ∃ p, Program.parse v.parserLimits script.source = .ok p ∧ ∃ q, p.Contains q ∧ Part.Blames r q := by
  refine ⟨?_, fun r => blames_of_validate⟩
  intro h
  obtain ⟨-, -, p, hp, hnone⟩ := validate_eq_ok_iff.1 h
  refine ⟨p, hp, ?_, ?_⟩
  · rintro ⟨q, hq, hforbidden⟩
    rcases Program.contains_iff.1 hq with hwalks | hhides
    · by_cases hexport : q.ExportsDeclaration
      · exact Or.inr ⟨q, hwalks, hexport⟩
      · exact absurd hforbidden (not_forbidden_of_walks hnone hwalks hexport)
    · exact Or.inl ⟨q, hhides, hforbidden⟩
  · rintro (⟨q, hhides, hforbidden⟩ | ⟨q, hwalks, hexport⟩)
    · exact ⟨q, Program.contains_iff.2 (Or.inr hhides), hforbidden⟩
    · exact ⟨q, Program.contains_iff.2 (Or.inl hwalks), Part.forbidden_of_exportsDeclaration hexport⟩

/-- Two scripts with the same call: in the value of a `break` it is accepted, elsewhere it is named. -/
theorem validate_finds_forbidden_of_call :
    (∃ p, Program.parse (ofPolicy .standard).parserLimits "loop { break type_of(record); }" = .ok p ∧
      ((∃ q, p.Contains q ∧ q.Forbidden) ↔
        (∃ q, p.Hides q ∧ q.Forbidden) ∨ ∃ q, p.Walks q ∧ q.ExportsDeclaration)) ∧
      ∃ p, Program.parse (ofPolicy .standard).parserLimits "loop { type_of(record); break; }" = .ok p ∧
        ∃ q, p.Contains q ∧ Part.Blames (.forbiddenCall "type_of" (some 1)) q := by
  refine ⟨(validate_finds_forbidden _ ⟨_⟩).1 (by decide +kernel), ?_⟩
  have h : (ofPolicy .standard).validate ⟨"loop { type_of(record); break; }"⟩ =
      .error (.forbiddenCall "type_of" (some 1)) := by decide +kernel
  rcases (validate_finds_forbidden _ _).2 _ h with hr | hr | ⟨message, hr⟩ | hblames
  · cases hr
  · cases hr
  · cases hr
  · exact hblames

/-- The name that a script calls where it leaves its only loop. -/
private def nameLeftWith? : Program → Option String
  | ⟨[.whileLoop _ _ _ [.breakLoop _ (some (.call _ _ name _ _))]], _⟩ => some name
  | _ => none

private theorem contains_of_nameLeftWith? {p : Program} {name : String} (h : nameLeftWith? p = some name) :
    ∃ pos path inScope args, p.Contains (.expr (.call pos path name inScope args)) := by
  unfold nameLeftWith? at h
  split at h
  · rename_i loopPos condition bodyPos breakPos pos path called inScope args functions
    cases h
    let value : Expr := .call pos path name inScope args
    have hbody : Part.stmt (.breakLoop breakPos (some value)) ∈
        Part.inner (.stmt (.whileLoop loopPos condition bodyPos [.breakLoop breakPos (some value)])) := by
      simp [Part.inner, Part.walked]
    have hvalue : Part.expr value ∈ Part.inner (.stmt (.breakLoop breakPos (some value))) := by
      simp [Part.inner, Part.skipped, Part.breakValue]
    exact ⟨pos, path, inScope, args, _, List.mem_cons_self, .step hbody (.step hvalue (.refl _))⟩
  · cases h

/-- The value of a `break` is checked by nobody. -/
theorem validate_misses_break_value :
    (ofPolicy .standard).validate ⟨"loop { break type_of(record); }"⟩ = .ok () ∧
      ∃ p, Program.parse (ofPolicy .standard).parserLimits "loop { break type_of(record); }" = .ok p ∧
        ∃ q, p.Contains q ∧ q.Forbidden := by
  refine ⟨by decide +kernel, ?_⟩
  have h : (Program.parse (ofPolicy .standard).parserLimits "loop { break type_of(record); }").toOption.any
      fun p => nameLeftWith? p == some "type_of" := by decide +kernel
  obtain ⟨p, hp, hname⟩ := exists_ok_of_any h
  obtain ⟨pos, path, inScope, args, hcall⟩ := contains_of_nameLeftWith? (beq_iff_eq.1 hname)
  have hforbidden : Names.isForbiddenCall "type_of" = true := by decide +kernel
  exact ⟨p, hp, _, hcall, hforbidden⟩

end Validator

end Sandscript
