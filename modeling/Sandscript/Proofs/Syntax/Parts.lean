import Mathlib.Logic.Relation
import Sandscript.Syntax.Tree

/-!
# The parts of a script

Every expression, link, statement and switch case of a script is a part of it, however deep it stands.  Three steps
lead from a part to the parts directly inside of it: into what a walk of the tree enters, into the value of a `break`,
and into a case without labels, which is never taken.  The parts of a program are reached by steps of all three kinds
(`Program.Contains`); those behind a step of the second or the third kind are hidden from the walk (`Program.Hides`),
and all others are found by it (`Program.contains_iff`).
-/

namespace Sandscript

inductive Part where
  | expr (e : Expr)
  | link (l : Link)
  | stmt (s : Stmt)
  | arm (c : Case)

namespace Part

/-- The parts directly inside of a part that a walk enters. -/
def walked : Part → List Part
  | expr (.text _ pieces) => pieces.map expr
  | expr (.array _ items) => items.map expr
  | expr (.map _ entries) => entries.map fun e => expr e.2
  | expr (.unary _ _ arg) => [expr arg]
  | expr (.binary _ _ lhs rhs) => [expr lhs, expr rhs]
  | expr (.call _ _ _ _ args) => args.map expr
  | expr (.chain _ root links) => expr root :: links.map link
  | expr (.statement s) => [stmt s]
  | expr (.literal ..) | expr (.var ..) | expr (.qualified ..) | expr (.this _) | expr (.capture ..) => []
  | link (.property ..) => []
  | link (.index _ _ key) => [expr key]
  | link (.method _ _ _ _ args) => args.map expr
  | stmt (.expr e) => [expr e]
  | stmt (.declare _ _ _ _ value) => value.toList.map expr
  | stmt (.assign _ _ target value) => [expr target, expr value]
  | stmt (.block _ body) => body.map stmt
  | stmt (.ifElse _ condition yes no) => expr condition :: (yes.map stmt ++ no.map stmt)
  | stmt (.switch _ subject cases otherwise) => expr subject :: (cases.map arm ++ otherwise.toList.map stmt)
  | stmt (.whileLoop _ condition _ body) => condition.toList.map expr ++ body.map stmt
  | stmt (.doWhile _ _ body condition) => expr condition :: body.map stmt
  | stmt (.forIn _ _ _ source _ body) => expr source :: body.map stmt
  | stmt (.returnValue _ value) | stmt (.throwValue _ value) => value.toList.map expr
  | stmt (.tryCatch _ body _ handler) => body.map stmt ++ handler.map stmt
  | stmt (.importModule _ path _) => [expr path]
  | stmt (.breakLoop ..) | stmt (.continueLoop _) | stmt (.exportName ..) => []
  | arm (.mk [] _ _) => []
  | arm (.mk (_ :: _) guard action) => guard.toList.map expr ++ [stmt action]

/-- The value of a `break`. -/
def breakValue : Part → List Part
  | stmt (.breakLoop _ value) => value.toList.map expr
  | _ => []

/-- The parts of a case that no value is compared with. -/
def dead : Part → List Part
  | arm (.mk [] guard action) => guard.toList.map expr ++ [stmt action]
  | _ => []

/-- The parts directly inside of a part that no walk enters. -/
def skipped (p : Part) : List Part := p.breakValue ++ p.dead

/-- All parts directly inside of a part. -/
def inner (p : Part) : List Part := p.walked ++ p.skipped

/-- The parts directly inside of a part that a run can reach. -/
def live (p : Part) : List Part := p.walked ++ p.breakValue

/-- A part stands at any depth inside of another one, or is that part; `next` gives the steps that lead to it. -/
def Within (next : Part → List Part) : Part → Part → Prop := Relation.ReflTransGen fun p q => q ∈ next p

theorem Within.refl {next : Part → List Part} (p : Part) : Within next p p := Relation.ReflTransGen.refl

theorem within_iff {next : Part → List Part} {p q : Part} :
    Within next p q ↔ q = p ∨ ∃ r ∈ next p, Within next r q := by
  unfold Within
  rw [Relation.ReflTransGen.cases_head_iff]
  exact or_congr_left eq_comm

theorem Within.step {next : Part → List Part} {p q r : Part} (hq : q ∈ next p) (h : Within next q r) :
    Within next p r := Relation.ReflTransGen.head hq h

theorem Within.trans {next : Part → List Part} {p q r : Part} (h₁ : Within next p q) (h₂ : Within next q r) :
    Within next p r := Relation.ReflTransGen.trans h₁ h₂

/-- More steps reach more parts. -/
theorem Within.mono {next next' : Part → List Part} (h : ∀ p, next p ⊆ next' p) {p q : Part}
    (hpq : Within next p q) : Within next' p q := Relation.ReflTransGen.mono (fun r _ hr => h r hr) _ _ hpq

/-- A part stands behind a step of the kind `skip`, which no walk takes. -/
def Behind (skip : Part → List Part) (p q : Part) : Prop :=
  ∃ r s, Within (fun p => p.walked ++ skip p) p r ∧ s ∈ skip r ∧ Within (fun p => p.walked ++ skip p) s q

/-- A part stands behind a step that no walk takes, of either kind. -/
def Hidden (p q : Part) : Prop := Behind skipped p q

theorem walked_subset_inner (p : Part) : p.walked ⊆ p.inner := List.subset_append_left _ _

/-- Of the parts that are reached with steps of the kind `skip`, the walk finds every one that is not behind such a
step. -/
private theorem within_append_iff {skip : Part → List Part} {p q : Part} :
    Within (fun p => p.walked ++ skip p) p q ↔ Within walked p q ∨ Behind skip p q := by
  constructor
  · intro h
    induction h using Relation.ReflTransGen.head_induction_on with
    | refl => exact Or.inl (Within.refl q)
    | head hpr hrq ih =>
      rename_i p r
      rcases List.mem_append.1 hpr with hw | hs
      · rcases ih with ih | ⟨a, b, ha, hb, hq⟩
        · exact Or.inl (Within.step hw ih)
        · exact Or.inr ⟨a, b, Within.step hpr ha, hb, hq⟩
      · exact Or.inr ⟨p, r, Within.refl p, hs, hrq⟩
  · rintro (h | ⟨r, s, hr, hs, hq⟩)
    · exact h.mono fun p => List.subset_append_left _ _
    · exact hr.trans (Within.step (List.mem_append_right _ hs) hq)

/-- The walk finds every part that is not hidden. -/
private theorem within_inner_iff {p q : Part} : Within inner p q ↔ Within walked p q ∨ Hidden p q := within_append_iff

end Part

namespace Program

/-- The statements that a script consists of: those of its main part and those of its functions. -/
def roots (p : Program) : List Stmt := p.main ++ p.functions.flatMap (·.body)

def Contains (p : Program) (q : Part) : Prop := ∃ s ∈ p.roots, Part.Within Part.inner (.stmt s) q

/-- A part that a walk of the program enters. -/
def Walks (p : Program) (q : Part) : Prop := ∃ s ∈ p.roots, Part.Within Part.walked (.stmt s) q

/-- A part in the value of a `break` or in a case without labels. -/
def Hides (p : Program) (q : Part) : Prop := ∃ s ∈ p.roots, Part.Hidden (.stmt s) q

theorem contains_iff {p : Program} {q : Part} : p.Contains q ↔ p.Walks q ∨ p.Hides q := by
  unfold Contains Walks Hides
  simp only [Part.within_inner_iff, and_or_left, exists_or]

end Program

end Sandscript
