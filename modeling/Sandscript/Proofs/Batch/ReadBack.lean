import Sandscript.Proofs.Batch.Trace
import Sandscript.Proofs.Trace.Document

/-!
# The traces of batches, read back

Whatever a batch does, its trace is read back from its document, with one exception: a sampled field that is null before
or after a run is read as an absent one (`Engine.readBack_of_apply`).
-/

namespace Sandscript

namespace Transformer

variable {policy : Policy} {t : Transformer} {records : List Record}

/-- A sample of a batch is the difference of one of its records. -/
private theorem exists_of_mem_samples {sample : SampleDiff}
    (h : sample ∈ (t.batch policy records).tally.samples.toList) :
    ∃ before after, before ∈ records ∧ after ∈ (t.batch policy records).outputs ∧ sample.index < records.length ∧
      sample.changes = Record.diff policy before after := by
  rw [samples_batch] at h
  obtain ⟨r, hr, hsample⟩ := List.mem_filterMap.1 (List.mem_of_mem_take h)
  obtain ⟨after, hok, rfl⟩ := BatchItem.sample?_item_eq_some hsample
  have hplace : records[r.2]? = some r.1 := List.mem_zipIdx_iff_getElem?.1 hr
  refine ⟨r.1, after, List.mem_of_getElem? hplace, ?_, (List.getElem?_eq_some_iff.1 hplace).1, rfl⟩
  exact List.mem_map.2 ⟨t.item r, List.mem_map_of_mem hr, BatchItem.output_of_ok hok⟩

private theorem index_lt_of_mem_errors {entry : RecordError}
    (h : entry ∈ (t.batch policy records).tally.errors.toList) :
    entry.index < records.length := by
  rw [errors_batch] at h
  obtain ⟨r, hr, herror⟩ := List.mem_filterMap.1 (List.mem_of_mem_take h)
  obtain ⟨failure, -, rfl⟩ := BatchItem.error?_item_eq_some herror
  exact (List.getElem?_eq_some_iff.1 (List.mem_zipIdx_iff_getElem?.1 hr)).1

private theorem fits_trace {stamp : Batch.Stamp} (hstart : stamp.startedAt.Valid) (helapsed : stamp.elapsedMs < 2 ^ 64)
    (hrecords : records.length < 2 ^ 64)
    (hdropped : ((t.batch policy records).trace stamp).consoleDropped < 2 ^ 64) :
    ((t.batch policy records).trace stamp).Fits where
  startedAt := hstart
  consoleDropped := hdropped
  elapsedMs := helapsed
  processed := by
    change (t.batch policy records).tally.processed < 2 ^ 64
    rwa [processed_batch]
  modified := by
    change (t.batch policy records).tally.modified < 2 ^ 64
    rw [modified_batch]
    exact Nat.lt_of_le_of_lt List.countP_le_length hrecords
  failed := by
    change (t.batch policy records).tally.failed < 2 ^ 64
    rw [failed_batch]
    exact Nat.lt_of_le_of_lt List.countP_le_length hrecords
  samples sample hsample := by
    obtain ⟨_, _, -, -, hindex, -⟩ := exists_of_mem_samples hsample
    exact Nat.lt_trans hindex hrecords
  errors entry hentry := Nat.lt_trans (index_lt_of_mem_errors hentry) hrecords

end Transformer

private theorem Record.exists_of_mem_diff {policy : Policy} {before after : Record} {c : FieldChange}
    (h : c ∈ diff policy before after) :
    c.before = Fields.get? c.field before ∧ c.after = Fields.get? c.field after := by
  obtain ⟨field, -, hchange⟩ := List.mem_filterMap.1 h
  dsimp only [change?] at hchange
  split at hchange
  · cases hchange
  · cases hchange
    exact ⟨rfl, rfl⟩

namespace Engine

/-- The trace of a batch is read back from its document, but a null in its samples is read as an absent value.  So it is
read back as it was just if the samples hold no null, and in particular if no record has a null before or after. -/
theorem readBack_of_apply {e e' : Engine} {script : Script} {records : List Record} {batch : Batch}
    {stamp : Batch.Stamp} (h : e.apply script records = .ok (batch, e')) (hstart : stamp.startedAt.Valid)
    (helapsed : stamp.elapsedMs < 2 ^ 64)
    (hrecords : records.length < 2 ^ 64) (hdropped : (batch.trace stamp).consoleDropped < 2 ^ 64) :
    Trace.ofJson (batch.trace stamp).toJson = .ok (batch.trace stamp).readBack ∧
      (Trace.ofJson (batch.trace stamp).toJson = .ok (batch.trace stamp) ↔
        ∀ sample ∈ (batch.trace stamp).samples, ∀ c ∈ sample.changes, c.before ≠ some .null ∧ c.after ≠ some .null) ∧
      ((∀ record ∈ records ++ batch.outputs, ∀ field, Fields.get? field record ≠ some .null) →
        Trace.ofJson (batch.trace stamp).toJson = .ok (batch.trace stamp)) := by
  obtain ⟨t, -, rfl⟩ := Batch.ofScript_eq_ok (ofScript_of_apply h)
  have hfits := t.fits_trace hstart helapsed hrecords hdropped
  have hself := Trace.ofJson_toJson_eq_self_iff hfits
  simp only [FieldChange.HoldsNull, not_or] at hself
  refine ⟨Trace.ofJson_toJson hfits, hself, fun hnulls => hself.2 fun sample hsample c hc => ?_⟩
  obtain ⟨before, after, hbefore, hafter, -, hchanges⟩ := Transformer.exists_of_mem_samples hsample
  obtain ⟨hold, hnew⟩ := Record.exists_of_mem_diff (hchanges ▸ hc)
  rw [hold, hnew]
  exact ⟨hnulls before (List.mem_append_left _ hbefore) c.field, hnulls after (List.mem_append_right _ hafter) c.field⟩

/-- The first moment of a year. -/
def newYear : Batch.Stamp := ⟨default, ⟨2024, 1, 1, 0, 0, 0, 0⟩, 0⟩

private theorem valid_newYear : newYear.startedAt.Valid := by
  constructor <;> decide

/-- A field comes into being, and becomes null in a record that is not sampled. -/
theorem readBack_of_apply_of_unsampled :
    ∃ batch e', apply ⟨{ Policy.standard with maxSamples := 1 }, {}⟩ ⟨"record.x = if record.n > 1 { () } else { 1 };"⟩
        [[("n", .ofNat 1), ("ticker", .str "A")], [("n", .ofNat 2), ("ticker", .str "B")]] = .ok (batch, e') ∧
      (batch.trace newYear).modified = 2 ∧
      Trace.ofJson (batch.trace newYear).toJson = .ok (batch.trace newYear) := by
  have hok : (apply ⟨{ Policy.standard with maxSamples := 1 }, {}⟩ ⟨"record.x = if record.n > 1 { () } else { 1 };"⟩
      [[("n", .ofNat 1), ("ticker", .str "A")], [("n", .ofNat 2), ("ticker", .str "B")]]).toOption.any fun r =>
        (r.1.trace newYear).modified == 2 && decide ((r.1.trace newYear).consoleDropped < 2 ^ 64) &&
          decide (∀ sample ∈ (r.1.trace newYear).samples, ∀ c ∈ sample.changes,
            c.before ≠ some .null ∧ c.after ≠ some .null) := by decide +kernel
  obtain ⟨⟨batch, e'⟩, h, hbatch⟩ := exists_ok_of_any hok
  simp only [Bool.and_eq_true, beq_iff_eq, decide_eq_true_eq] at hbatch
  obtain ⟨⟨hmodified, hdropped⟩, hnulls⟩ := hbatch
  obtain ⟨-, hself, -⟩ := readBack_of_apply h valid_newYear (by decide) (by decide) hdropped
  exact ⟨batch, e', h, hmodified, hself.2 hnulls⟩

/-- A field that becomes null is read back as one that was removed. -/
theorem readBack_forgets_null :
    ∃ batch e' other, apply ⟨.standard, {}⟩ ⟨"record.x = ();"⟩ [[("ticker", .str "A")]] = .ok (batch, e') ∧
      Trace.ofJson (batch.trace newYear).toJson = .ok other ∧ other ≠ batch.trace newYear := by
  have hok : (apply ⟨.standard, {}⟩ ⟨"record.x = ();"⟩ [[("ticker", .str "A")]]).toOption.any fun r =>
      decide ((r.1.trace newYear).consoleDropped < 2 ^ 64) &&
        decide (¬ ∀ sample ∈ (r.1.trace newYear).samples, ∀ c ∈ sample.changes, ¬ c.HoldsNull) := by decide +kernel
  obtain ⟨⟨batch, e'⟩, h, hbatch⟩ := exists_ok_of_any hok
  simp only [Bool.and_eq_true, decide_eq_true_eq] at hbatch
  obtain ⟨hdropped, hnull⟩ := hbatch
  obtain ⟨t, -, rfl⟩ := Batch.ofScript_eq_ok (ofScript_of_apply h)
  have hfits := t.fits_trace valid_newYear (by decide) (by decide) hdropped
  exact ⟨_, e', _, h, Trace.ofJson_toJson hfits, fun hself => hnull (Trace.readBack_eq_self_iff.1 hself)⟩

end Engine

end Sandscript
