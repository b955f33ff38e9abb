import Mathlib.Control.Monad.Basic
import Sandscript.Proofs.Validation.Verdict

/-!
# Callbacks named by literals

Functions over arrays take their callbacks by name too, so the check looks for literals among their arguments.  It
stops at the first one.  A forbidden name therefore passes wherever another literal stands in front of it, and it is
found wherever it is the first literal of a call that the walk enters (`validate_finds_first_literals`).
-/

namespace Sandscript

/-- The literal strings among some arguments, in order. -/
def literalTexts (args : List Expr) : List String := args.filterMap literalText?

/-- The literal that a call counts as is the first one among its arguments. -/
private theorem ofCall_of_head? {name target : String} {args : List Expr} (plain : Construct)
    (hname : Names.callbackFunctions.contains name = true) (h : (literalTexts args).head? = some target) :
    Construct.ofCall plain name args = .callback target := by
  rw [literalTexts, List.head?_filterMap] at h
  rw [Construct.ofCall, if_pos hname, h]

namespace Part

/-- The literals given to a function that takes callbacks. -/
def literalCallbacks : Part → List String
  | expr (.call _ _ name _ args) | link (.method _ _ _ name args) =>
    if Names.callbackFunctions.contains name then literalTexts args else []
  | _ => []

/-- The first literal given to a function that takes callbacks shows. -/
private theorem exists_callback_mem_shown {q : Part} {target : String} (h : q.literalCallbacks.head? = some target) :
    ∃ p, (⟨.callback target, p⟩ : Use) ∈ q.shown := by
  unfold literalCallbacks at h
  split at h
  · rename_i p path name inScope args
    split at h
    · rename_i hname
      exact ⟨p, List.mem_singleton.2 (by rw [ofCall_of_head? _ hname h])⟩
    · cases h
  · rename_i op p optional name args
    split at h
    · rename_i hname
      exact ⟨p, List.mem_singleton.2 (by rw [ofCall_of_head? _ hname h])⟩
    · cases h
  · cases h

end Part

namespace Validator

/-- Where the walk looks, the first literal given to a function that takes callbacks is no forbidden name. -/
private theorem not_isForbiddenCall_of_walks {p : Program} (h : ∀ q, p.Walks q → ∀ u ∈ q.shown, u.rejection? = none)
    {q : Part} (hq : p.Walks q) {target : String} (htarget : q.literalCallbacks.head? = some target) :
    Names.isForbiddenCall target = false := by
  obtain ⟨pos, hshown⟩ := Part.exists_callback_mem_shown htarget
  cases hforbidden : Names.isForbiddenCall target with
  | false => rfl
  | true =>
    have hnone := h q hq _ hshown
    simp [Use.rejection?, hforbidden] at hnone

/-- A forbidden name among the literals that an accepted script gives to a function that takes callbacks stands behind
another literal, or its call stands in the value of a `break` or in a case without labels. -/
theorem validate_finds_first_literals {v : Validator} {script : Script} (h : v.validate script = .ok ()) :
    ∃ p, Program.parse v.parserLimits script.source = .ok p ∧
      ((∃ q, p.Contains q ∧ ∃ t ∈ q.literalCallbacks, Names.isForbiddenCall t = true) ↔
        (∃ q, p.Contains q ∧ ∃ t ∈ q.literalCallbacks.tail, Names.isForbiddenCall t = true) ∨
          ∃ q, p.Hides q ∧ ∃ t ∈ q.literalCallbacks.head?, Names.isForbiddenCall t = true) := by
  obtain ⟨-, -, p, hp, hnone⟩ := validate_eq_ok_iff.1 h
  refine ⟨p, hp, ?_, ?_⟩
  · rintro ⟨q, hq, t, ht, hforbidden⟩
    cases hliterals : q.literalCallbacks with
    | nil =>
      rw [hliterals] at ht
      cases ht
    | cons first rest =>
      have hfirst : q.literalCallbacks.head? = some first := by rw [hliterals, List.head?_cons]
      rw [hliterals] at ht
      rcases List.mem_cons.1 ht with rfl | hrest
      · rcases Program.contains_iff.1 hq with hwalks | hhides
        · rw [not_isForbiddenCall_of_walks hnone hwalks hfirst] at hforbidden
          cases hforbidden
        · exact .inr ⟨q, hhides, t, hfirst, hforbidden⟩
      · exact .inl ⟨q, hq, t, by rwa [hliterals], hforbidden⟩
  · rintro (⟨q, hq, t, ht, hforbidden⟩ | ⟨q, hhides, t, ht, hforbidden⟩)
    · exact ⟨q, hq, t, List.mem_of_mem_tail ht, hforbidden⟩
    · exact ⟨q, Program.contains_iff.2 (.inr hhides), t, List.mem_of_mem_head? ht, hforbidden⟩

/-- A literal in the place of the array hides the one behind it. -/
theorem validate_finds_first_literals_of_pair :
    (ofPolicy .standard).validate ⟨"map(\"a\", \"type_of\");"⟩ = .ok () ∧
      ∃ p, Program.parse (ofPolicy .standard).parserLimits "map(\"a\", \"type_of\");" = .ok p ∧
        ((∃ q, p.Contains q ∧ ∃ t ∈ q.literalCallbacks, Names.isForbiddenCall t = true) ↔
          (∃ q, p.Contains q ∧ ∃ t ∈ q.literalCallbacks.tail, Names.isForbiddenCall t = true) ∨
            ∃ q, p.Hides q ∧ ∃ t ∈ q.literalCallbacks.head?, Names.isForbiddenCall t = true) := by
  have h : (ofPolicy .standard).validate ⟨"map(\"a\", \"type_of\");"⟩ = .ok () := by decide +kernel
  exact ⟨h, validate_finds_first_literals h⟩

/-- The literals in a script that is one call. -/
private def callLiterals : Program → List String
  | ⟨[.expr (.call pos path name inScope args)], _⟩ => (Part.expr (.call pos path name inScope args)).literalCallbacks
  | _ => []

private theorem contains_of_mem_callLiterals {p : Program} {target : String} (h : target ∈ callLiterals p) :
    ∃ q, p.Contains q ∧ target ∈ q.literalCallbacks := by
  unfold callLiterals at h
  split at h
  · rename_i pos path name inScope args functions
    have hcall : Part.expr (.call pos path name inScope args) ∈
        Part.inner (.stmt (.expr (.call pos path name inScope args))) :=
      Part.walked_subset_inner _ List.mem_cons_self
    exact ⟨_, ⟨_, List.mem_cons_self, .step hcall (.refl _)⟩, h⟩
  · cases h

/-- Behind another literal a forbidden name is checked by nobody. -/
theorem validate_misses_second_literal :
    (ofPolicy .standard).validate ⟨"map(\"a\", \"type_of\");"⟩ = .ok () ∧
      ∃ p, Program.parse (ofPolicy .standard).parserLimits "map(\"a\", \"type_of\");" = .ok p ∧
        ∃ q, p.Contains q ∧ ∃ t ∈ q.literalCallbacks, Names.isForbiddenCall t = true := by
  refine ⟨by decide +kernel, ?_⟩
  have h : (Program.parse (ofPolicy .standard).parserLimits "map(\"a\", \"type_of\");").toOption.any
      fun p => (callLiterals p).contains "type_of" := by decide +kernel
  obtain ⟨p, hp, htarget⟩ := exists_ok_of_any h
  obtain ⟨q, hq, hmem⟩ := contains_of_mem_callLiterals (List.contains_iff_mem.1 htarget)
  exact ⟨p, hp, q, hq, "type_of", hmem, by decide +kernel⟩

end Validator

end Sandscript
