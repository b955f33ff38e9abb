import Sandscript.Proofs.Operations.Programs
import Sandscript.Proofs.Validation.Agreement
import Sandscript.Transform

/-!
# What the guards of a policy enforce

On the restricted backend every limit of a policy is enforced with the value that it has, as long as none is zero:
steps, sizes, calls, literals and levels of nesting are refused exactly behind the limit, and a run that comes to an end
has taken no more steps than its limit admits (`Transformer.enforces_guards`).  Zero is no limit at all where a run
looks at it, and a valid policy may have it there (`Transformer.zero_lifts_limits`).
-/

namespace Sandscript

/-- The limits that a valid policy may set to zero are set to something else. -/
structure Guards.Positive (g : Guards) : Prop where
  operations : g.maxOperations ≠ some 0
  texts : g.maxStringBytes ≠ 0
  arrays : g.maxArrayLen ≠ 0
  maps : g.maxMapLen ≠ 0

namespace Size

private theorem passes_iff {n : Nat} {limit : UInt64} : passes n limit = true ↔ limit ≠ 0 ∧ limit.toNat < n := by
  unfold passes
  rw [Bool.and_eq_true, bne_iff_ne, decide_eq_true_iff]

private theorem isSome_excess?_iff {g : Guards} (h : g.Positive) (size : Size) :
    (size.excess? g).isSome = true ↔
      g.maxStringBytes.toNat < size.bytes ∨ g.maxArrayLen.toNat < size.items ∨ g.maxMapLen.toNat < size.entries := by
  have hbytes := @passes_iff size.bytes g.maxStringBytes
  have hitems := @passes_iff size.items g.maxArrayLen
  have hentries := @passes_iff size.entries g.maxMapLen
  rw [and_iff_right h.texts] at hbytes
  rw [and_iff_right h.arrays] at hitems
  rw [and_iff_right h.maps] at hentries
  rw [← hbytes, ← hitems, ← hentries]
  unfold excess?
  cases passes size.bytes g.maxStringBytes <;> cases passes size.items g.maxArrayLen <;>
    cases passes size.entries g.maxMapLen <;> simp

end Size

namespace Run

/-- From a state a run raises a fault. -/
def Raises {α : Type} (r : Run α) (s : RunState) (fault : Fault) : Prop :=
  ∃ pos t, r s = .error (.raised ⟨fault, pos⟩) t

/-- The step behind the last one that the limit admits is refused, and no step before it. -/
private theorem raises_step_iff {l : RunLimits} {n : Nat} (hlimit : l.maxOperations? = some n) (pos : Position)
    (s : RunState) :
    Raises (step l pos) s .tooManyOperations ↔ n ≤ s.operations := by
  unfold Raises step
  extract_lets counted exceeds
  have hexceeds : exceeds = true ↔ n ≤ s.operations := by
    simp only [exceeds, hlimit, counted, decide_eq_true_eq]
    exact Nat.lt_succ_iff
  rw [← hexceeds]
  cases exceeds with
  | true => exact ⟨fun _ => rfl, fun _ => ⟨pos, _, rfl⟩⟩
  | false =>
    simp only [Bool.false_eq_true, if_false, iff_false]
    rintro ⟨pos', t, h⟩
    by_cases htime : l.time < counted.steps
    · rw [if_pos htime] at h
      cases h
    · rw [if_neg htime] at h
      cases h

private theorem raises_checkSize_iff {l : RunLimits} {g : Guards} (hguards : l.guards = some g) (v : Value)
    (pos : Position) (s : RunState) :
    (∃ what, Raises (checkSize l v pos) s (.tooLarge what)) ↔ (v.size.excess? g).isSome = true := by
  unfold Raises checkSize
  rw [hguards]
  dsimp only
  cases v.size.excess? g with
  | none =>
    simp only [Option.isSome_none, Bool.false_eq_true, iff_false]
    rintro ⟨what, pos', t, h⟩
    cases h
  | some what => exact ⟨fun _ => rfl, fun _ => ⟨what, pos, _, rfl⟩⟩

end Run

/-- A level of nesting is refused behind the last one that is admitted. -/
private theorem Parser.Setting.deeper_eq_error_iff {s : Setting} (h : 0 < s.maxLevel) (st : State) :
    (∃ e, s.deeper st = .error e) ↔ s.maxLevel ≤ s.level := by
  unfold deeper
  by_cases hdeep : s.maxLevel < s.level + 1
  · rw [if_pos ⟨h, hdeep⟩]
    exact ⟨fun _ => Nat.lt_succ_iff.1 hdeep, fun _ => ⟨_, rfl⟩⟩
  · rw [if_neg fun hboth => hdeep hboth.2]
    refine ⟨?_, fun hle => absurd (Nat.lt_succ_of_le hle) hdeep⟩
    rintro ⟨e, he⟩
    cases he

namespace Transformer

/-- The guards bound a script and its runs, each with the value that it has. -/
structure Enforces (t : Transformer) (g : Guards) (source : String) : Prop where
  /-- So many operations may be taken, and not one more. -/
  operations : ∀ m, g.maxOperations = some m → ∀ pos s,
    Run.Raises (Run.step t.limits pos) s .tooManyOperations ↔ m.toNat ≤ s.operations
  /-- A run that takes more steps does not end well. -/
  steps : ∀ m, g.maxOperations = some m → ∀ record,
    (∀ callee ∈ (t.evaluate record).called, ¬ callee.Loosens) → m.toNat < (t.evaluate record).steps →
      ∀ after, (t.run record).outcome ≠ .ok after
  /-- A value of this size may be made, and none that is larger. -/
  sizes : ∀ v pos s, (∃ what, Run.Raises (Run.checkSize t.limits v pos) s (.tooLarge what)) ↔
    g.maxStringBytes.toNat < v.size.bytes ∨ g.maxArrayLen.toNat < v.size.items ∨ g.maxMapLen.toNat < v.size.entries
  /-- Calls nest as deeply as this. -/
  depth : t.limits.depth = g.maxCallDepth.toNat ∧ 0 < t.limits.depth
  /-- At that depth no function is called that does something. -/
  overflow : ∀ functions (f : FunctionDef) this inScope args pos, f.body ≠ [] →
    (callsAt t.limits functions 0).invoke f this inScope args pos =
      (do Run.step t.limits pos; Run.refuse .stackOverflow pos)
  /-- The script was parsed with the limits of the guards. -/
  parsed : Program.parse (CompiledScript.parserLimits (some g)) source = .ok t.script.program
  /-- Statements and expressions nest as deeply as this, outside of functions and inside of them. -/
  levels : ∀ s : Parser.Setting, s.maxLevel = g.maxExprDepth.toNat ∨ s.maxLevel = g.maxFnExprDepth.toNat → ∀ st,
    (∃ e, s.deeper st = .error e) ↔ s.maxLevel ≤ s.level
  /-- No text of the script is longer. -/
  texts : ∀ token ∈ Lexer.tokens {} source, ∀ text, token.token.text? = some text →
    text.utf8ByteSize ≤ g.maxStringBytes.toNat
  /-- An array literal has fewer items, for the parser looks for another item before it looks for the end. -/
  arrays : ∀ pos items, t.script.program.Contains (.expr (.array pos items)) → items.length < g.maxArrayLen.toNat
  /-- No map literal has more entries. -/
  maps : ∀ pos entries, t.script.program.Contains (.expr (.map pos entries)) → entries.length ≤ g.maxMapLen.toNat

variable {policy : Policy} {script : Script} {t : Transformer}

/-- A run that ends well has come to its end. -/
private theorem exists_finished_of_outcome {record after : Record} (h : (t.run record).outcome = .ok after) :
    ∃ v, (t.evaluate record).ending = .finished v := by
  unfold run at h
  split at h
  · cases h
  · dsimp only at h
    unfold outcome at h
    split at h
    · cases h
    · cases h
    · rename_i v hend
      exact ⟨v, hend⟩

section

variable (hbackend : policy.backend = .restricted) (h : ofScript policy script = .ok t)

include hbackend h

private theorem guards_of_restricted : t.script.guards = some policy.guards := by
  obtain ⟨compiled, hcompiled, rfl⟩ := ofScript_eq_ok h
  obtain ⟨-, hguards, -⟩ := CompiledScript.ofScript_eq_ok hcompiled
  rw [hguards, hbackend]
  rfl

private theorem parse_of_restricted :
    Program.parse (CompiledScript.parserLimits (some policy.guards)) script.source = .ok t.script.program := by
  have hguards := guards_of_restricted hbackend h
  obtain ⟨compiled, hcompiled, rfl⟩ := ofScript_eq_ok h
  obtain ⟨-, -, hparse⟩ := CompiledScript.ofScript_eq_ok hcompiled
  rw [hguards] at hparse
  exact hparse

private theorem maxOperations?_of_restricted {m : UInt64} (hm : policy.guards.maxOperations = some m) (hpos : m ≠ 0) :
    t.limits.maxOperations? = some m.toNat := by
  unfold RunLimits.maxOperations? limits
  rw [guards_of_restricted hbackend h]
  simp only [Option.bind_some, hm, if_neg hpos]

/-- A script that is compiled has no literal that is too large. -/
private theorem not_exceeded_of_restricted : ¬ policy.guards.Exceeded script.source t.script.program := by
  have hparse := parse_of_restricted hbackend h
  have hloose := Program.parse_loose (c := ⟨CompiledScript.parserLimits (some policy.guards), .none, rfl, rfl,
    Or.inl rfl, Or.inl rfl⟩) rfl hparse
  rintro (⟨token, htoken, hlong⟩ | hlarge)
  · exact hloose.2.2 token htoken hlong
  · exact hloose.2.1 hlarge

/-- The limits of a valid policy are enforced with the values that they have, if none of them is zero. -/
theorem enforces_guards (hvalid : policy.validate = .ok ()) (hpositive : policy.guards.Positive) :
    t.Enforces policy.guards script.source where
  operations m hm pos s := by
    have hpos : m ≠ 0 := fun h0 => hpositive.operations (h0 ▸ hm)
    exact Run.raises_step_iff (maxOperations?_of_restricted hbackend h hm hpos) pos s
  steps m hm record hcalled hmore after hok := by
    have hpos : m ≠ 0 := fun h0 => hpositive.operations (h0 ▸ hm)
    obtain ⟨v, hend⟩ := exists_finished_of_outcome hok
    have hle := Program.steps_le_of_finished (maxOperations?_of_restricted hbackend h hm hpos) hend hcalled
    exact absurd hmore (Nat.not_lt.2 hle)
  sizes v pos s := by
    rw [Run.raises_checkSize_iff (guards_of_restricted hbackend h), Size.isSome_excess?_iff hpositive]
  depth := by
    have hdepth : t.limits.depth = policy.guards.maxCallDepth.toNat := by
      unfold RunLimits.depth limits
      rw [guards_of_restricted hbackend h]
    rw [hdepth]
    exact ⟨rfl, Policy.pos_of_mem_positiveSettings hvalid (List.mem_of_getElem? (i := 2) rfl)⟩
  overflow functions f this inScope args pos hbody := by
    change unlessEmpty f this _ = _
    unfold unlessEmpty
    rw [if_neg (by simpa using hbody)]
  parsed := parse_of_restricted hbackend h
  levels s hs st := by
    obtain ⟨hexpr, hfunction⟩ := Policy.depths_pos hvalid
    refine s.deeper_eq_error_iff ?_ st
    rcases hs with hs | hs
    · rw [hs]
      exact hexpr
    · rw [hs]
      exact hfunction
  texts token htoken text htext := by
    have hfits := not_exceeded_of_restricted hbackend h
    have hpos : 0 < policy.guards.maxStringBytes.toNat :=
      Nat.pos_of_ne_zero fun h0 => hpositive.texts (UInt64.toNat_inj.1 h0)
    by_contra hlong
    exact hfits (Or.inl ⟨token, htoken, text, htext, hpos, Nat.not_le.1 hlong⟩)
  arrays pos items hcontains := by
    have hfits := not_exceeded_of_restricted hbackend h
    have hpos : 0 < policy.guards.maxArrayLen.toNat :=
      Nat.pos_of_ne_zero fun h0 => hpositive.arrays (UInt64.toNat_inj.1 h0)
    by_contra hlarge
    exact hfits (Or.inr ⟨_, hcontains, hpos, Nat.not_lt.1 hlarge⟩)
  maps pos entries hcontains := by
    have hfits := not_exceeded_of_restricted hbackend h
    have hpos : 0 < policy.guards.maxMapLen.toNat :=
      Nat.pos_of_ne_zero fun h0 => hpositive.maps (UInt64.toNat_inj.1 h0)
    by_contra hlarge
    exact hfits (Or.inr ⟨_, hcontains, hpos, Nat.not_le.1 hlarge⟩)

end

/-- The standard policy with a limit of twenty operations. -/
def twentyOperations : Policy := { Policy.standard with guards := { Guards.standard with maxOperations := some 20 } }

/-- A loop of ten rounds takes more than twenty steps and does not end well. -/
theorem enforces_guards_of_loop :
    ∃ t, ofScript twentyOperations ⟨"let n = 0; while n < 10 { n += 1; } record.n = n;"⟩ = .ok t ∧
      t.Enforces twentyOperations.guards "let n = 0; while n < 10 { n += 1; } record.n = n;" ∧
      20 < (t.evaluate [("ticker", .str "A")]).steps ∧
      ∀ after, (t.run [("ticker", .str "A")]).outcome ≠ .ok after := by
  have hok : (ofScript twentyOperations ⟨"let n = 0; while n < 10 { n += 1; } record.n = n;"⟩).toOption.any fun t =>
      decide (20 < (t.evaluate [("ticker", .str "A")]).steps) &&
        decide (∀ callee ∈ (t.evaluate [("ticker", .str "A")]).called, ¬ callee.Loosens) := by decide +kernel
  obtain ⟨t, h, hrun⟩ := exists_ok_of_any hok
  simp only [Bool.and_eq_true, decide_eq_true_eq] at hrun
  obtain ⟨hsteps, hcalled⟩ := hrun
  have henforces := enforces_guards rfl h (by decide +kernel) ⟨by decide, by decide, by decide, by decide⟩
  exact ⟨t, h, henforces, hsteps, henforces.steps 20 rfl _ hcalled hsteps⟩

/-- The standard policy with every limit at zero that may be zero. -/
def allZero : Policy :=
  { Policy.standard with
    guards := { Guards.standard with maxOperations := some 0, maxStringBytes := 0, maxArrayLen := 0, maxMapLen := 0 } }

/-- A limit of zero is valid and lifts the limit; and a limit that is not zero lets a run go on whose operations are
those of callbacks. -/
theorem zero_lifts_limits :
    (allZero.validate = .ok () ∧ allZero.backend = .restricted ∧
      ∃ t after, ofScript allZero ⟨"let n = 0; while n < 10 { n += 1; } record.n = [n];"⟩ = .ok t ∧
        (∀ callee ∈ (t.evaluate [("ticker", .str "A")]).called, ¬ callee.Loosens) ∧
        0 < (t.evaluate [("ticker", .str "A")]).steps ∧ (t.run [("ticker", .str "A")]).outcome = .ok after ∧
        ¬ t.Enforces allZero.guards "let n = 0; while n < 10 { n += 1; } record.n = [n];") ∧
    twentyOperations.validate = .ok () ∧ twentyOperations.backend = .restricted ∧
      ∃ t after, ofScript twentyOperations ⟨"record.n = [1, 2, 3, 4].map(|x| x + 1);"⟩ = .ok t ∧
        20 < (t.evaluate [("ticker", .str "A")]).steps ∧ (t.run [("ticker", .str "A")]).outcome = .ok after := by
  constructor
  · have hok : (ofScript allZero ⟨"let n = 0; while n < 10 { n += 1; } record.n = [n];"⟩).toOption.any fun t =>
        decide (0 < (t.evaluate [("ticker", .str "A")]).steps) &&
          decide (∀ callee ∈ (t.evaluate [("ticker", .str "A")]).called, ¬ callee.Loosens) &&
            (t.run [("ticker", .str "A")]).outcome.toOption.any fun _ => true := by decide +kernel
    obtain ⟨t, h, hrun⟩ := exists_ok_of_any hok
    simp only [Bool.and_eq_true, decide_eq_true_eq] at hrun
    obtain ⟨⟨hsteps, hcalled⟩, hended⟩ := hrun
    obtain ⟨after, hafter, -⟩ := exists_ok_of_any hended
    exact ⟨by decide +kernel, rfl, t, after, h, hcalled, hsteps, hafter,
      fun henforces => henforces.steps 0 rfl _ hcalled hsteps after hafter⟩
  · have hok : (ofScript twentyOperations ⟨"record.n = [1, 2, 3, 4].map(|x| x + 1);"⟩).toOption.any fun t =>
        decide (20 < (t.evaluate [("ticker", .str "A")]).steps) &&
          (t.run [("ticker", .str "A")]).outcome.toOption.any fun _ => true := by decide +kernel
    obtain ⟨t, h, hrun⟩ := exists_ok_of_any hok
    rw [Bool.and_eq_true, decide_eq_true_eq] at hrun
    obtain ⟨hsteps, hended⟩ := hrun
    obtain ⟨after, hafter, -⟩ := exists_ok_of_any hended
    exact ⟨by decide +kernel, rfl, t, after, h, hsteps, hafter⟩

end Transformer

end Sandscript
