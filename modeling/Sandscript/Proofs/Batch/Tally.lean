import Sandscript.Batch.Basic
import Sandscript.Proofs.Capture
import Mathlib.Data.List.Induction

/-!
# The tally of a batch

`Tally.Counts` says what the tally of some items is: every item counts, and the samples and failures that are kept are
the first ones.  Counting one more item keeps it so (`Tally.Counts.add`), hence the tally of a batch is that of its
items (`Batch.counts_tally`).
-/

namespace Sandscript

namespace BatchItem

/-- The changes, if the run succeeded and the record was modified. -/
def sample? (policy : Policy) (i : BatchItem) : Option SampleDiff :=
  match i.run.outcome with
  | .error _ => none
  | .ok after =>
    match Record.diff policy i.input after with
    | [] => none
    | changes => some ⟨i.index, i.identifier policy, changes⟩

/-- The failure of the run, if it failed. -/
def error? (policy : Policy) (i : BatchItem) : Option RecordError :=
  match i.run.outcome with
  | .ok _ => none
  | .error e => some (.ofRunError i.index (i.identifier policy) e)

end BatchItem

namespace Tally

structure Counts (policy : Policy) (items : List BatchItem) (t : Tally) : Prop where
  processed : t.processed = items.length
  modified : t.modified = (items.filterMap (·.sample? policy)).length
  failed : t.failed = (items.filterMap (·.error? policy)).length
  samples : t.samples.toList = (items.filterMap (·.sample? policy)).take policy.maxSamples.toNat
  errors : t.errors.toList = (items.filterMap (·.error? policy)).take policy.maxErrors.toNat
  console : t.console =
    (Capture.empty policy.maxConsoleLines.toNat policy.maxLineChars.toNat).writeAll (items.flatMap (·.run.printed))

private theorem counts_start (policy : Policy) : Counts policy [] (start policy) :=
  ⟨rfl, rfl, rfl, by simp [start], by simp [start], rfl⟩

/-- The first entries stay the first ones. -/
private theorem toList_pushIfRoom {α : Type} {kept : Array α} {all : List α} {most : Nat}
    (h : kept.toList = all.take most) (a : α) : (pushIfRoom most kept a).toList = (all ++ [a]).take most := by
  have hsize : kept.size = min most all.length := by rw [← Array.length_toList, h, List.length_take]
  unfold pushIfRoom
  split
  · have hall : all.length < most := by omega
    rw [List.take_of_length_le (by simp; omega), Array.toList_push, h, List.take_of_length_le (by omega)]
  · rw [List.take_append_of_le_length (by omega), h]

variable {policy : Policy} {items : List BatchItem} {t : Tally}

/-- Counting one more item counts it among those before. -/
theorem Counts.add (h : Counts policy items t) (i : BatchItem) : Counts policy (items ++ [i]) (t.add policy i) := by
  have hlength : (items ++ [i]).length = items.length + 1 := by simp
  have hconsole : t.console.writeAll i.run.printed =
      (Capture.empty policy.maxConsoleLines.toNat policy.maxLineChars.toNat).writeAll
        ((items ++ [i]).flatMap (·.run.printed)) := by
    rw [List.flatMap_append, List.flatMap_singleton, Capture.writeAll_append, ← h.console]
  have hsamples : (items ++ [i]).filterMap (·.sample? policy) =
      items.filterMap (·.sample? policy) ++ (i.sample? policy).toList := by
    cases hs : i.sample? policy <;> simp [hs]
  have herrors : (items ++ [i]).filterMap (·.error? policy) =
      items.filterMap (·.error? policy) ++ (i.error? policy).toList := by
    cases he : i.error? policy <;> simp [he]
  unfold Tally.add
  cases ho : i.run.outcome with
  | ok after =>
    have herror : i.error? policy = none := by rw [BatchItem.error?, ho]
    rw [herror, Option.toList_none, List.append_nil] at herrors
    dsimp only [addOutput]
    cases hdiff : Record.diff policy i.input after with
    | nil =>
      have hsample : i.sample? policy = none := by
        rw [BatchItem.sample?, ho]
        simp only [hdiff]
      rw [hsample, Option.toList_none, List.append_nil] at hsamples
      exact
        { processed := by rw [hlength, ← h.processed]
          modified := by rw [hsamples, ← h.modified]
          failed := by rw [herrors, ← h.failed]
          samples := by rw [hsamples, ← h.samples]
          errors := by rw [herrors, ← h.errors]
          console := hconsole }
    | cons change more =>
      have hsample : i.sample? policy = some ⟨i.index, i.identifier policy, change :: more⟩ := by
        rw [BatchItem.sample?, ho]
        simp only [hdiff]
      rw [hsample, Option.toList_some] at hsamples
      exact
        { processed := by rw [hlength, ← h.processed]
          modified := by rw [hsamples, List.length_append, ← h.modified]; rfl
          failed := by rw [herrors, ← h.failed]
          samples := by rw [hsamples]; exact toList_pushIfRoom h.samples _
          errors := by rw [herrors, ← h.errors]
          console := hconsole }
  | error e =>
    have hsample : i.sample? policy = none := by rw [BatchItem.sample?, ho]
    have herror : i.error? policy = some (.ofRunError i.index (i.identifier policy) e) := by rw [BatchItem.error?, ho]
    rw [hsample, Option.toList_none, List.append_nil] at hsamples
    rw [herror, Option.toList_some] at herrors
    dsimp only [addFailure]
    exact
      { processed := by rw [hlength, ← h.processed]
        modified := by rw [hsamples, ← h.modified]
        failed := by rw [herrors, List.length_append, ← h.failed]; rfl
        samples := by rw [hsamples, ← h.samples]
        errors := by rw [herrors]; exact toList_pushIfRoom h.errors _
        console := hconsole }

private theorem counts_foldl (policy : Policy) (items : List BatchItem) :
    Counts policy items (items.foldl (Tally.add policy) (start policy)) := by
  induction items using List.reverseRecOn with
  | nil => exact counts_start policy
  | append_singleton items i ih =>
    rw [List.foldl_append]
    exact ih.add i

end Tally

theorem Batch.counts_tally (b : Batch) : Tally.Counts b.policy b.items b.tally := Tally.counts_foldl b.policy b.items

end Sandscript
