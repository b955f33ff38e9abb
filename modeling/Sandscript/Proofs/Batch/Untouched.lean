import Sandscript.Proofs.Batch.Composition
import Sandscript.Proofs.Batch.Difference

/-!
# Records that a script leaves alone

Nothing gets lost between JSON and the values of a script.  So a record that is still in its place when a run ends comes
out as it went in, and its batch does not count it as modified (`Engine.apply_untouched`).
-/

namespace Sandscript

private theorem Record.toRecord_toValue (record : Record) : (Json.obj record).toValue.toRecord = .ok record := by
  rw [Json.toValue, Value.toRecord, Json.entriesToJson_toEntries]

namespace Transformer

variable {policy : Policy} {t : Transformer} {record : Record}

/-- What `record` was before the run is the output if `result` still has no value. -/
private theorem output_of_untouched {e : Evaluation} (hrecord : e.value? "record" = some (Json.obj record).toValue)
    (hresult : e.value? "result" = some .unit) : e.output = (Json.obj record).toValue := by
  dsimp only [Evaluation.output, resultName, recordName]
  rw [hresult, hrecord]
  rfl

private theorem outcome_of_untouched (hsorted : Fields.Sorted record) {last : Value}
    (hid : Fields.contains t.identifierField record = true) (hend : (t.evaluate record).ending = .finished last)
    (hrecord : (t.evaluate record).value? "record" = some (Json.obj record).toValue)
    (hresult : (t.evaluate record).value? "result" = some .unit) : (t.run record).outcome = .ok record := by
  obtain ⟨identifier, hget⟩ := Option.isSome_iff_exists.1 hid
  have houtput : (t.evaluate record).output.toRecord = .ok record := by
    rw [output_of_untouched hrecord hresult, Record.toRecord_toValue]
  unfold run
  rw [hget]
  dsimp only [outcome]
  rw [hend]
  dsimp only
  rw [houtput]
  dsimp only
  rw [if_pos hid, Fields.insert_of_get? hsorted hget]

private theorem modifies_of_unchanged (h : (t.run record).outcome = .ok record) : t.modifies policy record = false := by
  unfold modifies
  rw [h]
  dsimp only
  rw [Record.diff_self]
  rfl

private theorem samples_of_unchanged (h : (t.run record).outcome = .ok record) (xs ys : List Record)
    (stamp : Batch.Stamp)
    {sample : SampleDiff} (hsample : sample ∈ ((t.batch policy (xs ++ record :: ys)).trace stamp).samples) :
    sample.index ≠ xs.length := by
  change sample ∈ (t.batch policy (xs ++ record :: ys)).tally.samples.toList at hsample
  rw [samples_batch] at hsample
  obtain ⟨r, hr, hitem⟩ := List.mem_filterMap.1 (List.mem_of_mem_take hsample)
  -- only the record itself has its place, and its item yields no sample
  intro hindex
  have hmodifies : t.modifies policy r.1 = true := by
    rw [← BatchItem.isSome_sample?_item, hitem]
    rfl
  obtain ⟨_, -, rfl⟩ := BatchItem.sample?_item_eq_some hitem
  have hplace : (xs ++ record :: ys)[xs.length]? = some r.1 := hindex ▸ List.mem_zipIdx_iff_getElem?.1 hr
  rw [List.getElem?_append_right (Nat.le_refl _), Nat.sub_self, List.getElem?_cons_zero, Option.some_inj] at hplace
  rw [← hplace] at hmodifies
  rw [modifies_of_unchanged h] at hmodifies
  cases hmodifies

end Transformer

/-- A run ends with a wide number and the text "A" in its record, and has left `result` alone. -/
private def Evaluation.leavesWide (e : Evaluation) : Bool :=
  match e.ending, e.value? "record", e.value? "result" with
  | .finished _, some (.map [(big, .dec wide), (ticker, .str text)]), some .unit =>
    big = "big" ∧ wide = (Decimal.ofNat? (2 ^ 64 - 1)).getD .zero ∧ ticker = "ticker" ∧ text = "A"
  | _, _, _ => false

namespace Engine

/-- JSON values survive the way into a script and back, and a record that a run leaves in its place goes through a batch
unchanged: its output is the record, and counts and samples of the batch are as they are without it. -/
theorem apply_untouched :
    (∀ v : Json, v.toValue.toJson = .ok v) ∧
    ∀ {e : Engine} {script : Script} {t : Transformer} {record : Record} {last : Value},
      Transformer.ofScript e.policy script = .ok t → Fields.Sorted record →
      Fields.contains e.policy.identifierField record = true → (t.evaluate record).ending = .finished last →
      (t.evaluate record).value? "record" = some (Json.obj record).toValue →
      (t.evaluate record).value? "result" = some .unit →
        (t.run record).outcome = .ok record ∧
        ∀ xs ys : List Record, ∃ whole rest e₁ e₂,
          e.apply script (xs ++ record :: ys) = .ok (whole, e₁) ∧ e.apply script (xs ++ ys) = .ok (rest, e₂) ∧
          whole.outputs[xs.length]? = some record ∧
          ∀ stamp stamp' : Batch.Stamp,
            (whole.trace stamp).modified = (rest.trace stamp').modified ∧
            ∀ sample ∈ (whole.trace stamp).samples, sample.index ≠ xs.length := by
  refine ⟨Json.toJson_toValue, fun {e script t record last} ht hsorted hid hend hrecord hresult => ?_⟩
  obtain ⟨compiled, -, hfields⟩ := Transformer.ofScript_eq_ok ht
  have hfield : t.identifierField = e.policy.identifierField := by rw [hfields]
  rw [← hfield] at hid
  have hrun := Transformer.outcome_of_untouched hsorted hid hend hrecord hresult
  refine ⟨hrun, fun xs ys => ⟨_, _, _, _, apply_eq_ok ht _, apply_eq_ok ht _, ?_, fun stamp stamp' => ⟨?_, ?_⟩⟩⟩
  · rw [Transformer.outputs_batch, List.getElem?_map, List.getElem?_append_right (Nat.le_refl _), Nat.sub_self]
    exact congrArg some (BatchItem.output_of_ok hrun)
  · change (t.batch e.policy _).tally.modified = (t.batch e.policy _).tally.modified
    rw [Transformer.modified_batch, Transformer.modified_batch, List.countP_append, List.countP_append,
      List.countP_cons_of_neg (by rw [Transformer.modifies_of_unchanged hrun]; exact Bool.false_ne_true)]
  · exact fun sample hsample => Transformer.samples_of_unchanged hrun xs ys stamp hsample

/-- A number that no signed word holds, and a script that returns before it would remove it. -/
theorem apply_untouched_of_early_return :
    ∃ t, Transformer.ofScript .standard ⟨"if record.big > 5 { return; } record.remove(\"big\");"⟩ = .ok t ∧
      (t.run [("big", .ofNat (2 ^ 64 - 1)), ("ticker", .str "A")]).outcome =
        .ok [("big", .ofNat (2 ^ 64 - 1)), ("ticker", .str "A")] := by
  let record : Record := [("big", .ofNat (2 ^ 64 - 1)), ("ticker", .str "A")]
  have hok : (Transformer.ofScript .standard ⟨"if record.big > 5 { return; } record.remove(\"big\");"⟩).toOption.any
      fun t => (t.evaluate record).leavesWide := by decide +kernel
  obtain ⟨t, ht, hleft⟩ := exists_ok_of_any hok
  unfold Evaluation.leavesWide at hleft
  split at hleft
  · rename_i last big wide ticker text hend hrecord hresult
    rw [decide_eq_true_eq] at hleft
    obtain ⟨rfl, rfl, rfl, rfl⟩ := hleft
    exact ⟨t, ht,
      (apply_untouched.2 (e := ⟨.standard, {}⟩) ht (Fields.sorted_ofPairs record) rfl hend hrecord hresult).1⟩
  · cases hleft

end Engine

end Sandscript
