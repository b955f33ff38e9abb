import Sandscript.Proofs.Batch.Trace

/-!
# Batches one after the other

The runs of a batch share nothing but the console, which they only write to.  So a batch of two lists of records does
what the batches of the two lists do, whichever of them an engine has applied before: outputs and outcomes are those of
the records alone, the counts add up, and the console holds the first of all lines that are printed
(`Engine.apply_append`).
-/

namespace Sandscript

/-! ### A batch, record by record -/

namespace Transformer

/-- The lines that the runs on some records print, one run after the other. -/
def printed (t : Transformer) (records : List Record) : List String :=
  records.flatMap fun record => (t.run record).printed

variable (policy : Policy) (t : Transformer) (records : List Record)

/-- What is the same for an item at any place can be read off the record. -/
private theorem map_item {α : Type} {f : BatchItem → α} {g : Record → α} (hf : ∀ r, f (t.item r) = g r.1) :
    (records.zipIdx.map t.item).map f = records.map g := by
  have hfst : f ∘ t.item = g ∘ Prod.fst := funext hf
  rw [List.map_map, hfst, ← List.map_map, List.zipIdx_map_fst]

theorem outcomes_batch : (t.batch policy records).outcomes = records.map fun record => (t.run record).outcome :=
  t.map_item records fun _ => rfl

theorem outputs_batch : (t.batch policy records).outputs = records.map fun record => (t.item (record, 0)).output :=
  t.map_item records fun _ => rfl

private theorem console_batch : (t.batch policy records).tally.console =
    (Capture.empty policy.maxConsoleLines.toNat policy.maxLineChars.toNat).writeAll (t.printed records) := by
  have hprinted : (records.zipIdx.map t.item).flatMap (·.run.printed) = t.printed records := by
    rw [List.flatMap_def, t.map_item records (g := fun record => (t.run record).printed) fun _ => rfl]
    rfl
  rw [(counts_batch policy t records).console, hprinted]

private theorem printed_append (xs ys : List Record) : t.printed (xs ++ ys) = t.printed xs ++ t.printed ys :=
  List.flatMap_append

end Transformer

theorem RunStats.addAll_append (s : RunStats) (os more : List Outcome) :
    s.addAll (os ++ more) = (s.addAll os).addAll more := List.foldl_append

namespace Engine

/-- The engine after runs with some outcomes. -/
def counting (e : Engine) (outcomes : List Outcome) : Engine := { e with stats := e.stats.addAll outcomes }

theorem apply_eq_ok {e : Engine} {script : Script} {t : Transformer} (ht : Transformer.ofScript e.policy script = .ok t)
    (records : List Record) :
    e.apply script records =
      .ok (t.batch e.policy records, e.counting (records.map fun record => (t.run record).outcome)) := by
  have hb : Batch.ofScript e.policy script records = .ok (t.batch e.policy records) := by
    unfold Batch.ofScript
    rw [ht]
    rfl
  rw [← Transformer.outcomes_batch e.policy, apply_eq, hb]
  rfl

theorem apply_append {e : Engine} {script : Script} {t : Transformer}
    (ht : Transformer.ofScript e.policy script = .ok t) (xs ys : List Record) :
    ∃ whole front back e₁ e₂ e₃,
      e.apply script (xs ++ ys) = .ok (whole, e₂) ∧ e.apply script xs = .ok (front, e₁) ∧
      e.apply script ys = .ok (back, e₃) ∧ e₁.apply script ys = .ok (back, e₂) ∧
      whole.outputs = front.outputs ++ back.outputs ∧
      whole.outcomes = front.outcomes ++ back.outcomes ∧
      (∀ (i : Nat) (record : Record), (xs ++ ys)[i]? = some record →
        ∃ alone e' outcome, e.apply script [record] = .ok (alone, e') ∧
          alone.outcomes = [outcome] ∧ whole.outcomes[i]? = some outcome) ∧
      ∀ stamp stamp₁ stamp₂ : Batch.Stamp,
        (whole.trace stamp).processed = (front.trace stamp₁).processed + (back.trace stamp₂).processed ∧
        (whole.trace stamp).modified = (front.trace stamp₁).modified + (back.trace stamp₂).modified ∧
        (whole.trace stamp).failed = (front.trace stamp₁).failed + (back.trace stamp₂).failed ∧
        (whole.trace stamp).console =
          ((t.printed xs ++ t.printed ys).take e.policy.maxConsoleLines.toNat).map
            (Capture.cut e.policy.maxLineChars.toNat) ∧
        (whole.trace stamp).console.length + (whole.trace stamp).consoleDropped =
          (t.printed xs).length + (t.printed ys).length := by
  refine ⟨_, _, _, _, _, _, apply_eq_ok ht (xs ++ ys), apply_eq_ok ht xs, apply_eq_ok ht ys, ?_, ?_, ?_, ?_, ?_⟩
  · -- the engine that has done the first batch differs in its statistics only
    rw [apply_eq_ok (e := e.counting _) ht ys, List.map_append, counting, counting, counting, RunStats.addAll_append]
  · rw [Transformer.outputs_batch, Transformer.outputs_batch, Transformer.outputs_batch, List.map_append]
  · rw [Transformer.outcomes_batch, Transformer.outcomes_batch, Transformer.outcomes_batch, List.map_append]
  · intro i record hi
    refine ⟨_, _, (t.run record).outcome, apply_eq_ok ht [record], Transformer.outcomes_batch _ _ _, ?_⟩
    rw [Transformer.outcomes_batch, List.getElem?_map, hi]
    rfl
  · intro stamp stamp₁ stamp₂
    let tally (records : List Record) : Tally := (t.batch e.policy records).tally
    have hconsole := t.console_batch e.policy (xs ++ ys)
    rw [t.printed_append] at hconsole
    refine ⟨?_, ?_, ?_, ?_, ?_⟩
    · change (tally (xs ++ ys)).processed = (tally xs).processed + (tally ys).processed
      simp only [tally, Transformer.processed_batch, List.length_append]
    · change (tally (xs ++ ys)).modified = (tally xs).modified + (tally ys).modified
      simp only [tally, Transformer.modified_batch, List.countP_append]
    · change (tally (xs ++ ys)).failed = (tally xs).failed + (tally ys).failed
      simp only [tally, Transformer.failed_batch, List.countP_append]
    · change (tally (xs ++ ys)).console.lines = _
      rw [hconsole, Capture.lines_writeAll_empty]
    · have hsize := Capture.size_add_dropped_writeAll
        (.empty e.policy.maxConsoleLines.toNat e.policy.maxLineChars.toNat) (t.printed xs ++ t.printed ys)
      rw [← hconsole, List.length_append] at hsize
      change (tally (xs ++ ys)).console.size + (tally (xs ++ ys)).console.dropped = _
      rw [hsize]
      exact Nat.zero_add _

/-- The console is full when the second record prints its line, before its run fails. -/
theorem apply_append_of_full :
    ∃ whole e', apply ⟨{ Policy.standard with maxConsoleLines := 1 }, {}⟩ ⟨"print(record.n); 4 / record.n"⟩
        ([[("n", .ofNat 1), ("ticker", .str "A")]] ++ [[("n", .ofNat 0), ("ticker", .str "B")]]) = .ok (whole, e') ∧
      ∀ stamp, (whole.trace stamp).console = ["1"] ∧ (whole.trace stamp).consoleDropped = 1 := by
  let policy : Policy := { Policy.standard with maxConsoleLines := 1 }
  let first : Record := [("n", .ofNat 1), ("ticker", .str "A")]
  let second : Record := [("n", .ofNat 0), ("ticker", .str "B")]
  have hok : (Transformer.ofScript policy ⟨"print(record.n); 4 / record.n"⟩).toOption.any fun t =>
      t.printed [first] == ["1"] && t.printed [second] == ["0"] := by decide +kernel
  obtain ⟨t, ht, hprinted⟩ := exists_ok_of_any hok
  rw [Bool.and_eq_true, beq_iff_eq, beq_iff_eq] at hprinted
  obtain ⟨whole, _, _, _, e', _, h, -, -, -, -, -, -, htrace⟩ :=
    apply_append (e := ⟨policy, {}⟩) ht [first] [second]
  refine ⟨whole, e', h, fun stamp => ?_⟩
  obtain ⟨-, -, -, hconsole, hsize⟩ := htrace stamp stamp stamp
  rw [hprinted.1, hprinted.2] at hconsole hsize
  have hlines : (whole.trace stamp).console = ["1"] := by
    rw [hconsole]
    decide
  rw [hlines] at hsize
  exact ⟨hlines, Nat.add_left_cancel hsize⟩

end Engine

end Sandscript
