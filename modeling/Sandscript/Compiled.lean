import Sandscript.Text.Quoted
import Sandscript.Validation

/-!
# Compiled scripts

A script that passed validation and was admitted by the parser of its backend.  The restricted backend carries its
guards along; it takes some words out of the language and limits literals.
-/

namespace Sandscript

structure CompiledScript where
  program : Program
  backend : Backend
  /-- The limits of a run, on the restricted backend. -/
  guards : Option Guards
  digest : ScriptDigest

namespace CompiledScript

def parserLimits : Option Guards → ParserLimits
  | none => {}
  | some g =>
    { lexer := { maxString := g.maxStringBytes.toNat, disabled := Names.disabledKeywords },
      maxArray := g.maxArrayLen.toNat, maxMap := g.maxMapLen.toNat,
      maxDepth := g.maxExprDepth.toNat, maxFunctionDepth := g.maxFnExprDepth.toNat }

/-- Validates a script and compiles it for the backend of the policy. -/
def ofScript (policy : Policy) (script : Script) : Except Rejection CompiledScript := do
  (Validator.ofPolicy policy).validate script
  let backend := policy.backend
  let guards := if backend.isRestricted then some policy.guards else none
  match Program.parse (parserLimits guards) script.source with
  | .error e => .error (.notCompiled e.message)
  | .ok program => .ok { program, backend, guards, digest := script.digest }

theorem ofScript_eq_ok {policy : Policy} {script : Script} {c : CompiledScript} (h : ofScript policy script = .ok c) :
    (Validator.ofPolicy policy).validate script = .ok () ∧
      c.guards = (if policy.backend.isRestricted then some policy.guards else none) ∧
      Program.parse (parserLimits c.guards) script.source = .ok c.program := by
  unfold ofScript at h
  cases hvalid : (Validator.ofPolicy policy).validate script with
  | error r =>
    rw [hvalid] at h
    cases h
  | ok u =>
    let guards := if policy.backend.isRestricted then some policy.guards else none
    rw [hvalid] at h
    change (match Program.parse (parserLimits guards) script.source with
      | .error e => Except.error (Rejection.notCompiled e.message)
      | .ok program => Except.ok (mk program policy.backend guards script.digest)) = _ at h
    cases hparse : Program.parse (parserLimits guards) script.source with
    | error e =>
      rw [hparse] at h
      cases h
    | ok program =>
      rw [hparse] at h
      cases h
      exact ⟨rfl, rfl, hparse⟩

private def guardsText (g : Guards) : String :=
  let field (name : String) (value : UInt64) : String := name ++ ": " ++ toString value.toNat
  let operations := match g.maxOperations with
    | none => "None"
    | some n => "Some(" ++ toString n.toNat ++ ")"
  "RuntimeGuards \x7b limits: GuardLimits \x7b " ++
    ", ".intercalate
      ["max_operations: " ++ operations, field "max_string_bytes" g.maxStringBytes,
       field "max_array_len" g.maxArrayLen, field "max_map_len" g.maxMapLen,
       field "max_call_depth" g.maxCallDepth, field "max_expr_depth" g.maxExprDepth,
       field "max_fn_expr_depth" g.maxFnExprDepth] ++
    " \x7d \x7d"

private def backendText : Backend → String
  | .restricted => "Restricted"
  | .basic => "Basic"

/-- A description for logs. -/
def describe (c : CompiledScript) : String :=
  let guards := match c.guards with
    | none => "None"
    | some g => "Some(" ++ guardsText g ++ ")"
  "CompiledUnit \x7b backend: " ++ backendText c.backend ++ ", digest: " ++
    Text.quoted (c.digest.short?.getD "") ++ ", guards: " ++ guards ++ ", .. \x7d"

end CompiledScript

end Sandscript
