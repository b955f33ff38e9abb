import Sandscript.Proofs.Batch.Identity
import Sandscript.Proofs.Batch.Tally
import Mathlib.Data.List.Forall2

/-!
# What the trace of a batch tells

The trace of a batch is exact: its counts are those of the runs of its records, and its samples and failures are those
of the first modified and the first failed records, in their order (`Engine.trace_of_apply`).
-/

namespace Sandscript

namespace Transformer

/-- Whether the run on a record succeeds and changes the record. -/
def modifies (policy : Policy) (t : Transformer) (record : Record) : Bool :=
  match (t.run record).outcome with
  | .ok after => !(Record.diff policy record after).isEmpty
  | .error _ => false

/-- Whether the run on a record fails. -/
def fails (t : Transformer) (record : Record) : Bool := (t.run record).outcome.failed

private theorem fails_eq_false_iff {t : Transformer} {record : Record} :
    t.fails record = false ↔ ∃ after, (t.run record).outcome = .ok after := by
  unfold fails Outcome.failed
  cases (t.run record).outcome <;> simp [Except.isOk, Except.toBool]

/-- A record of a batch with its place, and its run. -/
def item (t : Transformer) (r : Record × Nat) : BatchItem := ⟨r.2, r.1, t.run r.1⟩

end Transformer

namespace BatchItem

variable {policy : Policy} {t : Transformer} {r : Record × Nat}

theorem sample?_item_eq_some {sample : SampleDiff} (h : (t.item r).sample? policy = some sample) :
    ∃ after, (t.run r.1).outcome = .ok after ∧
      sample = ⟨r.2, (Fields.get? policy.identifierField r.1).getD .null, Record.diff policy r.1 after⟩ := by
  unfold sample? at h
  split at h
  · cases h
  · rename_i after hok
    split at h
    · cases h
    · cases h
      exact ⟨after, hok, rfl⟩

theorem isSome_sample?_item (policy : Policy) (t : Transformer) (r : Record × Nat) :
    ((t.item r).sample? policy).isSome = t.modifies policy r.1 := by
  unfold sample? Transformer.modifies
  cases ho : (t.run r.1).outcome with
  | error e => simp only [Transformer.item, ho, Option.isSome_none]
  | ok after =>
    simp only [Transformer.item, ho]
    cases Record.diff policy r.1 after <;> rfl

theorem error?_item_eq_some {entry : RecordError} (h : (t.item r).error? policy = some entry) :
    ∃ failure, (t.run r.1).outcome = .error failure ∧
      entry = ⟨r.2, (Fields.get? policy.identifierField r.1).getD .null, failure.kind, failure.message⟩ := by
  unfold error? at h
  split at h
  · cases h
  · rename_i failure herror
    cases h
    exact ⟨failure, herror, rfl⟩

private theorem isSome_error?_item (policy : Policy) (t : Transformer) (r : Record × Nat) :
    ((t.item r).error? policy).isSome = t.fails r.1 := by
  unfold error? Transformer.fails Outcome.failed
  cases ho : (t.run r.1).outcome <;> simp only [Transformer.item, ho] <;> rfl

end BatchItem

/-! ### Entries of a list -/

section

variable {α β : Type} {f : α → Option β} {p : α → Bool}

/-- The first entries that a list yields are those of its first members that yield any. -/
private theorem forall₂_take_filterMap (hp : ∀ a, (f a).isSome = p a) (n : Nat) (l : List α) :
    List.Forall₂ (fun b a => f a = some b) ((l.filterMap f).take n) ((l.filter p).take n) := by
  induction l generalizing n with
  | nil => simp
  | cons a l ih =>
    cases hf : f a with
    | none =>
      have hpa : p a = false := by rw [← hp, hf]; rfl
      rw [List.filterMap_cons_none hf, List.filter_cons_of_neg (by simp [hpa])]
      exact ih n
    | some b =>
      have hpa : p a = true := by rw [← hp, hf]; rfl
      rw [List.filterMap_cons_some hf, List.filter_cons_of_pos hpa]
      cases n with
      | zero => exact .nil
      | succ n => exact .cons hf (ih n)

private theorem length_filterMap_zipIdx {p : α → Bool} {f : α × Nat → Option β} (hp : ∀ r, (f r).isSome = p r.1)
    (l : List α) :
    (l.zipIdx.filterMap f).length = l.countP p := by
  rw [List.length_filterMap_eq_countP]
  have hcount : l.zipIdx.countP (fun r => (f r).isSome) = (l.zipIdx.map Prod.fst).countP p := by
    rw [List.countP_map]
    exact List.countP_congr fun r _ => by simp [hp]
  rw [hcount, List.zipIdx_map_fst]

end

/-! ### The tally of the runs of a script -/

namespace Transformer

/-- The batch of the runs on some records. -/
def batch (policy : Policy) (t : Transformer) (records : List Record) : Batch :=
  { policy, backend := t.script.backend, digest := t.script.digest, items := records.zipIdx.map t.item }

variable (policy : Policy) (t : Transformer) (records : List Record)

theorem counts_batch : Tally.Counts policy (records.zipIdx.map t.item) (t.batch policy records).tally :=
  (t.batch policy records).counts_tally

theorem processed_batch : (t.batch policy records).tally.processed = records.length := by
  rw [(counts_batch policy t records).processed, List.length_map, List.length_zipIdx]

theorem modified_batch : (t.batch policy records).tally.modified = records.countP (t.modifies policy) := by
  rw [(counts_batch policy t records).modified, List.filterMap_map]
  exact length_filterMap_zipIdx (BatchItem.isSome_sample?_item policy t) records

theorem failed_batch : (t.batch policy records).tally.failed = records.countP t.fails := by
  rw [(counts_batch policy t records).failed, List.filterMap_map]
  exact length_filterMap_zipIdx (BatchItem.isSome_error?_item policy t) records

theorem samples_batch : (t.batch policy records).tally.samples.toList =
    (records.zipIdx.filterMap fun r => (t.item r).sample? policy).take policy.maxSamples.toNat := by
  rw [(counts_batch policy t records).samples, List.filterMap_map]
  rfl

theorem errors_batch : (t.batch policy records).tally.errors.toList =
    (records.zipIdx.filterMap fun r => (t.item r).error? policy).take policy.maxErrors.toNat := by
  rw [(counts_batch policy t records).errors, List.filterMap_map]
  rfl

end Transformer

theorem Batch.ofScript_eq_ok {policy : Policy} {script : Script} {records : List Record} {b : Batch}
    (h : ofScript policy script records = .ok b) :
    ∃ t, Transformer.ofScript policy script = .ok t ∧ b = t.batch policy records := by
  unfold ofScript at h
  cases ht : Transformer.ofScript policy script with
  | error r =>
    rw [ht] at h
    cases h
  | ok t =>
    rw [ht] at h
    cases h
    exact ⟨t, rfl, rfl⟩

namespace Engine

theorem trace_of_apply {e e' : Engine} {script : Script} {records : List Record} {batch : Batch}
    (h : e.apply script records = .ok (batch, e')) (stamp : Batch.Stamp) :
    ∃ t, Transformer.ofScript e.policy script = .ok t ∧
      (batch.trace stamp).processed = records.length ∧
      (batch.trace stamp).failed = records.countP t.fails ∧
      (batch.trace stamp).modified = records.countP (t.modifies e.policy) ∧
      (batch.trace stamp).succeeded + (batch.trace stamp).failed = (batch.trace stamp).processed ∧
      ((batch.trace stamp).isClean = true ↔ ∀ record ∈ records, ∃ after, (t.run record).outcome = .ok after) ∧
      (batch.trace stamp).samples.length = min e.policy.maxSamples.toNat (batch.trace stamp).modified ∧
      (batch.trace stamp).errors.length = min e.policy.maxErrors.toNat (batch.trace stamp).failed ∧
      List.Forall₂
        (fun sample r => ∃ after, (t.run r.1).outcome = .ok after ∧
          sample = ⟨r.2, (Fields.get? e.policy.identifierField r.1).getD .null, Record.diff e.policy r.1 after⟩)
        (batch.trace stamp).samples
        ((records.zipIdx.filter fun r => t.modifies e.policy r.1).take e.policy.maxSamples.toNat) ∧
      List.Forall₂
        (fun entry r => ∃ failure, (t.run r.1).outcome = .error failure ∧
          entry = ⟨r.2, (Fields.get? e.policy.identifierField r.1).getD .null, failure.kind, failure.message⟩)
        (batch.trace stamp).errors
        ((records.zipIdx.filter fun r => t.fails r.1).take e.policy.maxErrors.toNat) := by
  obtain ⟨t, ht, rfl⟩ := Batch.ofScript_eq_ok (ofScript_of_apply h)
  let tally := (t.batch e.policy records).tally
  have hprocessed : tally.processed = records.length := t.processed_batch e.policy records
  have hfailed : tally.failed = records.countP t.fails := t.failed_batch e.policy records
  have hmodified : tally.modified = records.countP (t.modifies e.policy) := t.modified_batch e.policy records
  have hsamples := t.samples_batch e.policy records
  have herrors := t.errors_batch e.policy records
  refine ⟨t, ht, hprocessed, hfailed, hmodified, ?_, ?_, ?_, ?_, ?_, ?_⟩
  · have hle : records.countP t.fails ≤ records.length := List.countP_le_length
    change tally.processed - tally.failed + tally.failed = tally.processed
    omega
  · change (tally.failed == 0) = true ↔ _
    rw [beq_iff_eq, hfailed, List.countP_eq_zero]
    refine forall₂_congr fun record _ => ?_
    rw [Bool.not_eq_true, Transformer.fails_eq_false_iff]
  · change tally.samples.toList.length = min _ tally.modified
    rw [hsamples, hmodified, List.length_take, length_filterMap_zipIdx (BatchItem.isSome_sample?_item e.policy t)]
  · change tally.errors.toList.length = min _ tally.failed
    rw [herrors, hfailed, List.length_take, length_filterMap_zipIdx (BatchItem.isSome_error?_item e.policy t)]
  · change List.Forall₂ _ tally.samples.toList _
    rw [hsamples]
    exact (forall₂_take_filterMap (BatchItem.isSome_sample?_item e.policy t) _ _).imp
      fun _ _ => BatchItem.sample?_item_eq_some
  · change List.Forall₂ _ tally.errors.toList _
    rw [herrors]
    exact (forall₂_take_filterMap (BatchItem.isSome_error?_item e.policy t) _ _).imp
      fun _ _ => BatchItem.error?_item_eq_some

/-- Two of five records are modified, one stays as it was, one fails, and one has no identifier; of either kind one
entry is kept. -/
theorem trace_of_apply_of_mixed :
    ∃ batch e', apply ⟨{ Policy.standard with maxSamples := 1, maxErrors := 1 }, {}⟩ ⟨"record.n = 4 / record.n;"⟩
        [[("n", .ofNat 1), ("ticker", .str "A")], [("n", .ofNat 2), ("ticker", .str "B")],
          [("n", .ofNat 0), ("ticker", .str "C")], [("n", .ofNat 4), ("ticker", .str "D")], [("n", .ofNat 1)]] =
          .ok (batch, e') ∧
      ∀ stamp, (batch.trace stamp).processed = 5 ∧ (batch.trace stamp).modified = 2 ∧ (batch.trace stamp).failed = 2 ∧
        (batch.trace stamp).succeeded = 3 ∧ (batch.trace stamp).samples.length = 1 ∧
        (batch.trace stamp).errors.length = 1 := by
  have hok : (apply ⟨{ Policy.standard with maxSamples := 1, maxErrors := 1 }, {}⟩ ⟨"record.n = 4 / record.n;"⟩
      [[("n", .ofNat 1), ("ticker", .str "A")], [("n", .ofNat 2), ("ticker", .str "B")],
        [("n", .ofNat 0), ("ticker", .str "C")], [("n", .ofNat 4), ("ticker", .str "D")],
        [("n", .ofNat 1)]]).toOption.any
          fun r => r.1.tally.modified == 2 && r.1.tally.failed == 2 := by decide +kernel
  obtain ⟨⟨batch, e'⟩, h, hcounts⟩ := exists_ok_of_any hok
  rw [Bool.and_eq_true, beq_iff_eq, beq_iff_eq] at hcounts
  refine ⟨batch, e', h, fun stamp => ?_⟩
  have hmodified : (batch.trace stamp).modified = 2 := hcounts.1
  have hfailed : (batch.trace stamp).failed = 2 := hcounts.2
  obtain ⟨-, -, hprocessed, -, -, htotal, -, hsamples, herrors, -⟩ := trace_of_apply h stamp
  rw [hprocessed, hfailed] at htotal
  rw [hmodified] at hsamples
  rw [hfailed] at herrors
  exact ⟨hprocessed, hmodified, hfailed, Nat.add_right_cancel htotal, hsamples, herrors⟩

end Engine

end Sandscript
