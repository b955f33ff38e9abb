import Sandscript.Proofs.Batch.Counting

/-!
# The identity of records in a batch

A script may do to a record what it likes, its identifier included, but it cannot give a batch other records: the
outputs are as many as the inputs and stand in their order, every output has the identifier of its input
(`get?_identifierField_of_outcome`), and a record whose run failed comes out as it went in
(`BatchItem.output_of_error`).  The main statement is `Engine.apply_keeps_records`.
-/

namespace Sandscript

namespace Transformer

/-- What a finished run hands out has the identifier that it was given. -/
theorem get?_identifierField_of_outcome {t : Transformer} {identifier : Json} {e : Evaluation} {after : Record}
    (h : t.outcome identifier e = .ok after) : Fields.get? t.identifierField after = some identifier := by
  unfold outcome at h
  split at h
  · cases h
  · cases h
  · split at h
    · cases h
    · split at h
      · cases h
        exact Fields.get?_insert_self _ _ _
      · cases h

private theorem get?_identifierField_of_run {t : Transformer} {before after : Record}
    (h : (t.run before).outcome = .ok after) :
    Fields.get? t.identifierField after = Fields.get? t.identifierField before := by
  unfold run at h
  split at h
  · cases h
  · rename_i identifier hid
    rw [hid]
    exact get?_identifierField_of_outcome h

end Transformer

namespace BatchItem

theorem output_of_ok {i : BatchItem} {after : Record} (h : i.run.outcome = .ok after) : i.output = after := by
  unfold output
  rw [h]

/-- A failed record stays as it was. -/
theorem output_of_error {i : BatchItem} {failure : RunError} (h : i.run.outcome = .error failure) :
    i.output = i.input := by
  unfold output
  rw [h]

private theorem get?_identifierField_output {t : Transformer} {i : BatchItem} (h : i.run = t.run i.input) :
    Fields.get? t.identifierField i.output = Fields.get? t.identifierField i.input := by
  cases ho : i.run.outcome with
  | error failure => rw [output_of_error ho]
  | ok after =>
    rw [output_of_ok ho]
    rw [h] at ho
    exact Transformer.get?_identifierField_of_run ho

end BatchItem

namespace Batch

/-- The items of a batch are its records in order, each with its own run. -/
private theorem items_of_ofScript {policy : Policy} {script : Script} {records : List Record} {b : Batch}
    (h : ofScript policy script records = .ok b) :
    ∃ t, Transformer.ofScript policy script = .ok t ∧
      b.items = records.zipIdx.map fun (record, index) => ⟨index, record, t.run record⟩ := by
  unfold ofScript at h
  cases ht : Transformer.ofScript policy script with
  | error r =>
    rw [ht] at h
    cases h
  | ok t =>
    rw [ht] at h
    cases h
    exact ⟨t, rfl, rfl⟩

end Batch

namespace Engine

theorem ofScript_of_apply {e e' : Engine} {script : Script} {records : List Record} {batch : Batch}
    (h : e.apply script records = .ok (batch, e')) : Batch.ofScript e.policy script records = .ok batch := by
  rw [apply_eq] at h
  cases hb : Batch.ofScript e.policy script records with
  | error r =>
    rw [hb] at h
    cases h
  | ok b =>
    rw [hb] at h
    cases h
    rfl

/-- The outputs of a batch are its records in order, each with the identifier it had; a record whose run failed is
not changed at all. -/
theorem apply_keeps_records {e e' : Engine} {script : Script} {records : List Record} {batch : Batch}
    (h : e.apply script records = .ok (batch, e')) :
    batch.outputs.length = records.length ∧ batch.outcomes.length = records.length ∧
      ∃ t, Transformer.ofScript e.policy script = .ok t ∧
        ∀ (i : Nat) (record : Record), records[i]? = some record →
          ∃ output, batch.outputs[i]? = some output ∧ batch.outcomes[i]? = some (t.run record).outcome ∧
            Fields.get? e.policy.identifierField output = Fields.get? e.policy.identifierField record ∧
            (∀ after, (t.run record).outcome = .ok after → output = after) ∧
            ∀ failure, (t.run record).outcome = .error failure → output = record := by
  obtain ⟨t, ht, hitems⟩ := Batch.items_of_ofScript (ofScript_of_apply h)
  obtain ⟨compiled, -, hfield⟩ := Transformer.ofScript_eq_ok ht
  have hid : t.identifierField = e.policy.identifierField := by rw [hfield]
  refine ⟨by simp [Batch.outputs, hitems], by simp [Batch.outcomes, hitems], t, ht, ?_⟩
  intro i record hi
  -- the item of this record, at the same place
  let item : BatchItem := ⟨i, record, t.run record⟩
  have hitem : batch.items[i]? = some item := by
    rw [hitems, List.getElem?_map, List.getElem?_zipIdx, hi]
    simp [item]
  have hout : batch.outputs[i]? = some item.output := by
    rw [Batch.outputs, List.getElem?_map, hitem]
    rfl
  have hrun : batch.outcomes[i]? = some (t.run record).outcome := by
    rw [Batch.outcomes, List.getElem?_map, hitem]
    rfl
  refine ⟨item.output, hout, hrun, ?_, ?_, ?_⟩
  · rw [← hid]
    exact BatchItem.get?_identifierField_output (i := item) rfl
  · intro after hok
    exact BatchItem.output_of_ok (i := item) hok
  · intro failure herr
    exact BatchItem.output_of_error (i := item) herr

/-- A record whose identifier is overwritten, one whose run fails behind that, and one without identifier. -/
theorem apply_keeps_records_of_overwritten :
    ∃ batch e', apply ⟨.standard, {}⟩ ⟨"record.ticker = 10 / record.n; record.n / record.n"⟩
        [[("n", .ofNat 2), ("ticker", .str "A")], [("n", .ofNat 0), ("ticker", .str "B")], [("n", .ofNat 1)]] =
          .ok (batch, e') ∧
      batch.outputs.length = 3 ∧
      ∃ output, batch.outputs[0]? = some output ∧ Fields.get? "ticker" output = some (.str "A") := by
  have hok : (apply ⟨.standard, {}⟩ ⟨"record.ticker = 10 / record.n; record.n / record.n"⟩
      [[("n", .ofNat 2), ("ticker", .str "A")], [("n", .ofNat 0), ("ticker", .str "B")],
        [("n", .ofNat 1)]]).toOption.any fun _ => true := by decide +kernel
  obtain ⟨⟨batch, e'⟩, h, -⟩ := exists_ok_of_any hok
  obtain ⟨hlen, -, t, -, hkept⟩ := apply_keeps_records h
  obtain ⟨output, hout, -, hid, -⟩ := hkept 0 _ rfl
  exact ⟨batch, e', h, hlen, output, hout, hid⟩

end Engine

end Sandscript
