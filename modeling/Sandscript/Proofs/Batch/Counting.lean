import Sandscript.Engine

/-!
# Counting runs

An engine counts a run where it begins, where it is given up and where it has failed.  What this adds up to depends on
the outcome of the run alone (`Transformer.runCounted_eq`): a run was given up exactly if its outcome is a timeout.  So
the engine behind a batch has counted the outcomes of the batch (`Engine.apply_eq`).
-/

namespace Sandscript

/-- What is wrong with an output is no timeout. -/
private theorem Value.timedOut_toRecord (v : Value) : v.toRecord.timedOut = false := by
  unfold toRecord
  split
  · split
    · rfl
    · rfl
  · rfl

namespace Transformer

variable (t : Transformer)

private theorem timedOut_outcome_of_outOfTime {e : Evaluation} (h : e.ending = .outOfTime) (identifier : Json) :
    (t.outcome identifier e).timedOut = true := by
  unfold outcome
  rw [h]
  rfl

/-- Only a run whose time is used up has a timeout for its outcome. -/
private theorem timedOut_outcome_of_ne {e : Evaluation} (h : e.ending ≠ .outOfTime) (identifier : Json) :
    (t.outcome identifier e).timedOut = false := by
  unfold outcome
  split
  · contradiction
  · rfl
  · have hrecord := e.output.timedOut_toRecord
    split
    · rename_i failure hfailure
      rw [hfailure] at hrecord
      exact hrecord
    · split
      · rfl
      · rfl

private theorem runTimed_eq (identifier : Json) (record : Record) (s : RunStats) :
    t.runTimed identifier record s =
      (⟨t.outcome identifier (t.evaluate record), (t.evaluate record).printed⟩,
        if (t.outcome identifier (t.evaluate record)).timedOut then s.givenUp else s) := by
  unfold runTimed
  generalize t.evaluate record = e
  cases hend : e.ending with
  | outOfTime =>
    rw [t.timedOut_outcome_of_outOfTime hend identifier]
    rfl
  | finished v =>
    have hne : e.ending ≠ .outOfTime := by rw [hend]; exact Ending.noConfusion
    rw [t.timedOut_outcome_of_ne hne identifier]
    rfl
  | raised r =>
    have hne : e.ending ≠ .outOfTime := by rw [hend]; exact Ending.noConfusion
    rw [t.timedOut_outcome_of_ne hne identifier]
    rfl

/-- Counting a run changes nothing about it, and counts its outcome. -/
theorem runCounted_eq (record : Record) (s : RunStats) :
    t.runCounted record s = (t.run record, s.add (t.run record).outcome) := by
  let ended (r : RecordRun) : StateM RunStats RecordRun := do
    if r.outcome.failed then modify .failed
    return r
  have hended (r : RecordRun) (s : RunStats) : ended r s = (r, if r.outcome.failed then s.failed else s) := by
    dsimp only [ended]
    cases r.outcome.failed with
    | true => rfl
    | false => rfl
  unfold runCounted run
  cases hid : Fields.get? t.identifierField record with
  | none => rfl
  | some identifier =>
    change (fun p : RecordRun × RunStats => ended p.1 p.2) (t.runTimed identifier record s.begun) = _
    rw [t.runTimed_eq]
    dsimp only
    rw [hended]
    generalize t.outcome identifier (t.evaluate record) = o
    -- a timeout is one of the failures
    cases o with
    | ok after => rfl
    | error failure => cases failure <;> rfl

end Transformer

/-! ### The runs of a batch -/

theorem RunStats.addAll_cons (s : RunStats) (o : Outcome) (os : List Outcome) :
    s.addAll (o :: os) = (s.add o).addAll os := rfl

namespace Engine

private theorem mapM_runItem (t : Transformer) (rs : List (Record × Nat)) (s : RunStats) :
    (rs.mapM (runItem t)).run s =
      (rs.map fun r => ⟨r.2, r.1, t.run r.1⟩, s.addAll (rs.map fun r => (t.run r.1).outcome)) := by
  induction rs generalizing s with
  | nil => rfl
  | cons r rs ih =>
    have hitem : runItem t r s = (⟨r.2, r.1, t.run r.1⟩, s.add (t.run r.1).outcome) := by
      change (fun p : RecordRun × RunStats => ((⟨r.2, r.1, p.1⟩ : BatchItem), p.2)) (t.runCounted r.1 s) = _
      rw [t.runCounted_eq]
    rw [List.mapM_cons, StateT.run_bind, StateT.run, hitem]
    change (fun p : List BatchItem × RunStats => (_ :: p.1, p.2)) ((rs.mapM (runItem t)).run _) = _
    rw [ih, List.map_cons, List.map_cons, RunStats.addAll_cons]

/-- An engine runs a batch and counts its outcomes. -/
theorem apply_eq (e : Engine) (script : Script) (records : List Record) :
    e.apply script records = (Batch.ofScript e.policy script records).map fun batch =>
      (batch, { e with stats := e.stats.addAll batch.outcomes }) := by
  unfold apply Batch.ofScript
  cases Transformer.ofScript e.policy script with
  | error r => rfl
  | ok t =>
    have hrun := mapM_runItem t records.zipIdx e.stats
    have houtcomes : (records.zipIdx.map fun r => (t.run r.1).outcome) =
        (records.zipIdx.map fun r => (⟨r.2, r.1, t.run r.1⟩ : BatchItem)).map (·.run.outcome) := by
      rw [List.map_map]
      rfl
    rw [houtcomes] at hrun
    let batch (items : List BatchItem) : Batch := ⟨e.policy, t.script.backend, t.script.digest, items⟩
    exact congrArg (fun p : List BatchItem × RunStats => Except.ok (batch p.1, { e with stats := p.2 })) hrun

end Engine

end Sandscript
