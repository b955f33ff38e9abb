import Sandscript.Proofs.Run.Program
import Sandscript.Proofs.Value.Leaves
import Sandscript.Transform

/-!
# The outcome of a run

A record without identifier is refused before its run.  Otherwise the outcome is that of the evaluation of the script
from the record: a raised fault fails the run, and a run that ends has an output, found in the names at its end, which
settles everything else (`Transformer.run_settled`).
-/

namespace Sandscript

/-- How an output settles the outcome of a run on a record whose field `field` has the value `identifier`. -/
structure Outcome.SettledBy (field : String) (identifier : Json) (output : Value) (o : Outcome) : Prop where
  of_no_map : (∀ entries, output ≠ .map entries) → o = .error (.invalidReturnType output.typeName)
  /-- The first leaf without a JSON form is named, whatever fields there are. -/
  of_unfit : ∀ entries front leaf back typeName, output = .map entries → output.leaves = front ++ leaf :: back →
    (∀ l ∈ front, l.value.unfit? = none) → leaf.value.unfit? = some typeName →
      o = .error (.invalidReturnType (typeName ++ " in field '" ++ Value.spell leaf.steps ++ "'"))
  of_no_identifier : ∀ entries, output = .map entries → (∀ l ∈ output.leaves, l.value.unfit? = none) →
    Fields.get? field entries = none → o = .error (.missingRequiredField field)
  of_identifier : ∀ entries, output = .map entries → (∀ l ∈ output.leaves, l.value.unfit? = none) →
    Fields.get? field entries ≠ none →
      ∃ after, o = .ok after ∧ Fields.get? field after = some identifier ∧
        ∀ key, key ≠ field → (Fields.get? key entries).map Value.toJson = (Fields.get? key after).map .ok

namespace Value

variable {entries : List (String × Value)}

private theorem toRecord_of_no_map {v : Value} (h : ∀ entries, v ≠ map entries) :
    v.toRecord = .error (.invalidReturnType v.typeName) := by
  cases v with
  | map entries => exact absurd rfl (h entries)
  | _ => rfl

private theorem toRecord_of_unfit {front back : List Leaf} {leaf : Leaf} {name : String}
    (hleaves : (map entries).leaves = front ++ leaf :: back) (hfront : ∀ l ∈ front, l.value.unfit? = none)
    (hleaf : leaf.value.unfit? = some name) :
    (map entries).toRecord = .error (.invalidReturnType (name ++ " in field '" ++ spell leaf.steps ++ "'")) := by
  have hreports := reports_entriesToJson "" entries
  rw [leaves] at hleaves
  rw [hleaves, firstUnfit?_of_append hfront hleaf] at hreports
  rw [toRecord, hreports.error_of_some]
  rfl

private theorem exists_toRecord_of_fit (h : ∀ l ∈ (map entries).leaves, l.value.unfit? = none) :
    ∃ fields, (map entries).toRecord = .ok fields ∧
      ∀ key, (Fields.get? key entries).map toJson = (Fields.get? key fields).map .ok := by
  have hreports := reports_entriesToJson "" entries
  rw [leaves] at h
  rw [firstUnfit?_eq_none h] at hreports
  obtain ⟨fields, hfields⟩ := hreports.exists_ok_of_none
  refine ⟨fields, ?_, map_get?_of_entriesToJson hfields⟩
  rw [toRecord, hfields]

end Value

namespace Transformer

variable {t : Transformer} {e : Evaluation} {identifier : Json}

private theorem outcome_of_toRecord_eq_error {v : Value} {failure : RunError} (hend : e.ending = .finished v)
    (h : e.output.toRecord = .error failure) : t.outcome identifier e = .error failure := by
  unfold outcome
  rw [hend]
  dsimp only
  rw [h]

private theorem outcome_of_toRecord_eq_ok {v : Value} {fields : Record} (hend : e.ending = .finished v)
    (h : e.output.toRecord = .ok fields) :
    t.outcome identifier e =
      if Fields.contains t.identifierField fields then .ok (Fields.insert t.identifierField identifier fields)
      else .error (.missingRequiredField t.identifierField) := by
  unfold outcome
  rw [hend]
  dsimp only
  rw [h]

theorem outcome_settledBy {v : Value} (hend : e.ending = .finished v) :
    (t.outcome identifier e).SettledBy t.identifierField identifier e.output where
  of_no_map h := outcome_of_toRecord_eq_error hend (Value.toRecord_of_no_map h)
  of_unfit entries front leaf back name houtput hleaves hfront hleaf := by
    rw [houtput] at hleaves
    have hrecord := Value.toRecord_of_unfit hleaves hfront hleaf
    rw [← houtput] at hrecord
    exact outcome_of_toRecord_eq_error hend hrecord
  of_no_identifier entries houtput hfit hnone := by
    rw [houtput] at hfit
    obtain ⟨fields, hrecord, hget⟩ := Value.exists_toRecord_of_fit hfit
    have hfield : Fields.get? t.identifierField fields = none := by
      have hmap := hget t.identifierField
      rwa [hnone, Option.map_none, eq_comm, Option.map_eq_none_iff] at hmap
    rw [← houtput] at hrecord
    rw [outcome_of_toRecord_eq_ok hend hrecord, Fields.contains, hfield]
    rfl
  of_identifier entries houtput hfit hsome := by
    rw [houtput] at hfit
    obtain ⟨fields, hrecord, hget⟩ := Value.exists_toRecord_of_fit hfit
    have hfield : Fields.contains t.identifierField fields = true := by
      have hmap := congrArg Option.isSome (hget t.identifierField)
      rwa [Option.isSome_map, Option.isSome_map, Option.isSome_iff_ne_none.2 hsome, eq_comm] at hmap
    rw [← houtput] at hrecord
    rw [outcome_of_toRecord_eq_ok hend hrecord, if_pos hfield]
    refine ⟨_, rfl, Fields.get?_insert_self _ _ _, fun key hkey => ?_⟩
    rw [hget key, Fields.get?_insert_of_ne (Ne.symm hkey)]

end Transformer

/-- At its end a run has both names, and one of them is its output. -/
private theorem Transformer.output_evaluate (t : Transformer) (record : Record) :
    ∃ result final, (t.evaluate record).value? "result" = some result ∧
      (t.evaluate record).value? "record" = some final ∧
      (t.evaluate record).output = if result.isUnit then final else result := by
  obtain ⟨result, hresult⟩ := t.script.program.exists_value? t.limits record.scope List.mem_cons_self
  obtain ⟨final, hfinal⟩ := t.script.program.exists_value? t.limits record.scope
    (List.mem_cons_of_mem _ List.mem_cons_self)
  refine ⟨result, final, hresult, hfinal, ?_⟩
  unfold Evaluation.output
  rw [show (t.evaluate record).value? resultName = some result from hresult,
    show (t.evaluate record).value? recordName = some final from hfinal]
  cases result <;> rfl

/-- What a run comes to: the checks in the order in which they decide. -/
theorem Transformer.run_settled (t : Transformer) (record : Record) :
    (Fields.get? t.identifierField record = none →
      t.run record = ⟨.error (.missingRequiredField t.identifierField), []⟩) ∧
    ∀ identifier e, Fields.get? t.identifierField record = some identifier →
      t.script.program.evaluate t.limits
        [{ name := "result", value := .unit, given := true },
          { name := "record", value := (Json.obj record).toValue, given := true }] = e →
      (t.run record).printed = e.printed ∧
      (∀ raised, e.ending = .raised raised → (t.run record).outcome = .error (.exception raised.message)) ∧
      ∀ last, e.ending = .finished last →
        ∃ result final, e.value? "result" = some result ∧ e.value? "record" = some final ∧
          (t.run record).outcome.SettledBy t.identifierField identifier (if result.isUnit then final else result) := by
  constructor
  · intro hnone
    unfold run
    rw [hnone]
  · rintro identifier e hsome rfl
    have hrun : t.run record = ⟨t.outcome identifier (t.evaluate record), (t.evaluate record).printed⟩ := by
      unfold run
      rw [hsome]
    rw [hrun]
    refine ⟨rfl, fun raised hend => ?_, fun last hend => ?_⟩
    · have hend' : (t.evaluate record).ending = .raised raised := hend
      dsimp only [outcome]
      rw [hend']
    · obtain ⟨result, final, hresult, hfinal, houtput⟩ := t.output_evaluate record
      refine ⟨result, final, hresult, hfinal, ?_⟩
      rw [← houtput]
      exact outcome_settledBy hend

/-- A run ends with a map, but leaves a number in `result`. -/
private def Evaluation.leavesNumber (e : Evaluation) : Bool :=
  match e.ending, e.value? "result" with
  | .finished (.map _), some (.int _) => true
  | _, _ => false

/-- A run that returns a map, but leaves a number in `result`. -/
theorem Transformer.run_settled_of_early_return :
    ∃ t, Transformer.ofScript .standard ⟨"result = 5; return record;"⟩ = .ok t ∧
      (t.run [("ticker", .str "A")]).outcome = .error (.invalidReturnType "i64") := by
  let record : Record := [("ticker", .str "A")]
  have hok : (Transformer.ofScript .standard ⟨"result = 5; return record;"⟩).toOption.any fun t =>
      t.identifierField == "ticker" && (t.evaluate record).leavesNumber := by decide +kernel
  obtain ⟨t, ht, h⟩ := exists_ok_of_any hok
  rw [Bool.and_eq_true, beq_iff_eq] at h
  obtain ⟨hfield, h⟩ := h
  have hid : Fields.get? t.identifierField record = some (.str "A") := by
    rw [hfield]
    rfl
  obtain ⟨-, -, hfinished⟩ := (t.run_settled record).2 (.str "A") (t.evaluate record) hid rfl
  unfold Evaluation.leavesNumber at h
  split at h
  · rename_i entries hend hresult
    obtain ⟨result, final, hlast, -, hsettled⟩ := hfinished _ hend
    rw [hresult] at hlast
    cases hlast
    refine ⟨t, ht, hsettled.of_no_map ?_⟩
    intro entries hmap
    cases hmap
  · cases h

end Sandscript
