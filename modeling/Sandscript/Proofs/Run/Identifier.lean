import Sandscript.Proofs.Run.Outcome
import Sandscript.Proofs.Value.Conversion

/-!
# What a script leaves in the identifier

The identifier of a record is set back after the whole output has been converted.  So of what a script leaves in that
field only one thing matters: which leaf of the output is reported, if one has no JSON form.  A value with a JSON form
does not matter, and no value does if a field in front of it is reported anyway
(`Transformer.run_apart_from_identifier`).
-/

namespace Sandscript

namespace Value

/-! ### Reports and their messages -/

private theorem quote_not_mem_of_unfit {v : Value} {name : String} (h : v.unfit? = some name) : '\'' ∉ name.toList := by
  cases v with
  | float x =>
    rw [unfit?, Option.ite_none_left_eq_some] at h
    obtain rfl : nonFinite = name := Option.some.inj h.2
    decide
  | fn f held =>
    obtain rfl : "Fn" = name := Option.some.inj h
    decide
  | range lo hi =>
    obtain rfl : "core::ops::range::Range<i64>" = name := Option.some.inj h
    decide
  | rangeIncl lo hi =>
    obtain rfl : "core::ops::range::RangeInclusive<i64>" = name := Option.some.inj h
    decide
  | series s =>
    obtain rfl : s.fullTypeName = name := Option.some.inj h
    cases s <;> rw [Series.fullTypeName, Series.typeName] <;> decide
  | _ => cases h

private theorem append_cons_inj {c : Char} {xs ys rest rest' : List Char} (hx : c ∉ xs) (hy : c ∉ ys)
    (h : xs ++ c :: rest = ys ++ c :: rest') : xs = ys ∧ rest = rest' := by
  have hfront : ∀ (zs back : List Char), c ∉ zs → (zs ++ c :: back).takeWhile (· != c) = zs := by
    intro zs back hz
    have hall : ∀ a ∈ zs, (a != c) = true := fun a ha => bne_iff_ne.2 fun hac => hz (hac ▸ ha)
    rw [List.takeWhile_append_of_pos hall, List.takeWhile_cons_of_neg (by simp), List.append_nil]
  obtain rfl : xs = ys := by rw [← hfront xs rest hx, h, hfront ys rest' hy]
  exact ⟨rfl, (List.cons.inj (List.append_cancel_left h)).2⟩

/-- What is reported is known from the message about it. -/
private theorem message_inj {v w : Value} {a b : Unrepresentable} (ha : v.toJson = .error a) (hb : w.toJson = .error b)
    (h : a.message = b.message) : a = b := by
  obtain ⟨_, _, _, -, -, hname, -⟩ := firstUnfit?_eq_some_iff.1 (toJson_eq_error_iff.1 ha)
  obtain ⟨_, _, _, -, -, hname', -⟩ := firstUnfit?_eq_some_iff.1 (toJson_eq_error_iff.1 hb)
  have hquoted : ∀ {c : Unrepresentable}, '\'' ∉ c.typeName.toList →
      '\'' ∉ c.typeName.toList ++ " in field ".toList := by
    intro c hc hmem
    exact (List.mem_append.1 hmem).elim hc (by decide)
  have hlayout : ∀ c : Unrepresentable, c.message.toList =
      (c.typeName.toList ++ " in field ".toList) ++ '\'' :: (c.path.toList ++ ['\'']) := by
    intro c
    simp [Unrepresentable.message]
  have heq := congrArg String.toList h
  rw [hlayout, hlayout] at heq
  obtain ⟨hfront, hback⟩ := append_cons_inj (hquoted (quote_not_mem_of_unfit hname))
    (hquoted (quote_not_mem_of_unfit hname')) heq
  have htype : a.typeName = b.typeName := String.toList_inj.1 (List.append_cancel_right hfront)
  have hpath : a.path = b.path := String.toList_inj.1 (List.append_cancel_right hback)
  calc a = ⟨a.path, a.typeName⟩ := rfl
    _ = ⟨b.path, b.typeName⟩ := by rw [hpath, htype]

/-! ### Maps that differ in one field -/

/-- Two maps hold `v` and `w` under a key, and the same under all others. -/
structure DifferIn (field : String) (v w : Value) (a b : List (String × Value)) : Prop where
  sorted : Fields.Sorted a
  sorted' : Fields.Sorted b
  get : Fields.get? field a = some v
  get' : Fields.get? field b = some w
  others : ∀ key, key ≠ field → Fields.get? key a = Fields.get? key b

section

variable {field : String} {v w : Value} {a b front back : List (String × Value)}

private theorem DifferIn.exists_append (h : DifferIn field v w a b) :
    ∃ front back, a = front ++ (field, v) :: back ∧ b = front ++ (field, w) :: back := by
  obtain ⟨front, back, rfl⟩ := Fields.exists_append_of_get? h.get
  exact ⟨front, back, rfl, Fields.eq_append_cons_of_get? h.sorted h.sorted' h.get' h.others⟩

private theorem entryLeaves_append (front back : List (String × Value)) :
    entryLeaves (front ++ back) = entryLeaves front ++ entryLeaves back := by
  induction front with
  | nil => rfl
  | cons p front ih => rw [List.cons_append, entryLeaves, entryLeaves, ih, List.append_assoc]

private theorem firstUnfit?_map_append_cons (front back : List (String × Value)) (field : String) (v : Value) :
    firstUnfit? "" (map (front ++ (field, v) :: back)).leaves =
      (firstUnfit? "" (entryLeaves front)).or
        ((firstUnfit? (Step.spell "" (.entry field)) v.leaves).or (firstUnfit? "" (entryLeaves back))) := by
  rw [leaves, entryLeaves_append, entryLeaves, firstUnfit?_append, firstUnfit?_append, firstUnfit?_behind]

private theorem DifferIn.firstUnfit?_of_fit (h : DifferIn field v w a b) (hv : ∃ j, v.toJson = .ok j)
    (hw : ∃ j, w.toJson = .ok j) : firstUnfit? "" (map a).leaves = firstUnfit? "" (map b).leaves := by
  obtain ⟨front, back, rfl, rfl⟩ := h.exists_append
  rw [firstUnfit?_map_append_cons, firstUnfit?_map_append_cons, firstUnfit?_eq_none (exists_toJson_iff.1 hv),
    firstUnfit?_eq_none (exists_toJson_iff.1 hw)]

private theorem DifferIn.firstUnfit?_of_unfit (h : DifferIn field v w a b) {key : String} {x : Value}
    (hkey : key < field) (hx : Fields.get? key a = some x) (hunfit : ¬∃ j, x.toJson = .ok j) :
    firstUnfit? "" (map a).leaves = firstUnfit? "" (map b).leaves := by
  obtain ⟨front, back, rfl, rfl⟩ := h.exists_append
  have hmem : (key, x) ∈ front := by
    have hlater : ∀ p ∈ (field, v) :: back, ¬p.1 < field := by
      intro p hp hlt
      rcases List.mem_cons.1 hp with rfl | hp
      · exact String.lt_irrefl _ hlt
      · exact String.lt_asymm hlt ((List.pairwise_cons.1 (List.pairwise_append.1 h.sorted).2.1).1 p hp)
    exact (List.mem_append.1 (Fields.mem_of_get? hx)).resolve_right fun hmem => hlater _ hmem hkey
  have hsome : firstUnfit? "" (entryLeaves front) ≠ none := by
    intro hnone
    refine hunfit (exists_toJson_iff.2 fun l hl => ?_)
    exact firstUnfit?_eq_none_iff.1 hnone (l.behind (.entry key)) (mem_entryLeaves_iff.2 ⟨_, hmem, l, hl, rfl⟩)
  obtain ⟨u, hu⟩ := Option.ne_none_iff_exists'.1 hsome
  rw [firstUnfit?_map_append_cons, firstUnfit?_map_append_cons, hu, Option.some_or, Option.some_or]

end

private theorem sorted_of_toRecord {entries : List (String × Value)} {fields : Record} (hsorted : Fields.Sorted entries)
    (h : (map entries).toRecord = .ok fields) : Fields.Sorted fields := by
  rw [toRecord] at h
  split at h
  · rename_i hfields
    cases h
    have hkeys := Fields.pairwise_keys hsorted
    rw [((entriesToJson_eq_ok_iff "" entries).1 hfields).1] at hkeys
    exact List.pairwise_map.1 hkeys
  · cases h

end Value

namespace Transformer

variable {t t' : Transformer} {e e' : Evaluation} {identifier : Json} {last last' v w : Value}
  {a b : List (String × Value)}

private theorem outcome_run {record : Record} (h : Fields.get? t.identifierField record = some identifier) :
    (t.run record).outcome = t.outcome identifier (t.evaluate record) := by
  unfold run
  rw [h]

private theorem sorted_of_outcome_eq_ok {entries : List (String × Value)} {after : Record}
    (hend : e.ending = .finished last) (houtput : e.output = .map entries) (hsorted : Fields.Sorted entries)
    (h : t.outcome identifier e = .ok after) : Fields.Sorted after := by
  unfold outcome at h
  rw [hend, houtput] at h
  dsimp only at h
  split at h
  · cases h
  · rename_i hfields
    split at h
    · cases h
      exact Fields.sorted_insert (Value.sorted_of_toRecord hsorted hfields) _ _
    · cases h

/-- Of an output that holds the identifier nothing but a leaf without a JSON form fails the run. -/
private theorem outcome_eq_error_iff {entries : List (String × Value)} {failure : RunError}
    (hend : e.ending = .finished last) (houtput : e.output = .map entries)
    (hid : Fields.get? t.identifierField entries ≠ none) :
    t.outcome identifier e = .error failure ↔
      ∃ u, (Value.map entries).toJson = .error u ∧ failure = .invalidReturnType u.message := by
  have hsettled : (t.outcome identifier e).SettledBy t.identifierField identifier e.output := outcome_settledBy hend
  cases h : (Value.map entries).toJson with
  | ok j =>
    have hfit := Value.exists_toJson_iff.1 ⟨j, h⟩
    obtain ⟨after, hafter, -⟩ := hsettled.of_identifier entries houtput (houtput ▸ hfit) hid
    simp [hafter]
  | error u =>
    obtain ⟨front, leaf, back, hleaves, hfront, hleaf, hpath⟩ :=
      Value.firstUnfit?_eq_some_iff.1 (Value.toJson_eq_error_iff.1 h)
    have hfailed := hsettled.of_unfit entries front leaf back u.typeName houtput (houtput ▸ hleaves) hfront hleaf
    rw [Value.spell, ← hpath, ← Unrepresentable.message] at hfailed
    simp [hfailed, eq_comm]

/-- Outputs with a JSON form that differ in the identifier only give the same record. -/
private theorem outcome_eq_of_fit (hfield : t'.identifierField = t.identifierField) (hend : e.ending = .finished last)
    (hend' : e'.ending = .finished last') (houtput : e.output = .map a) (houtput' : e'.output = .map b)
    (hdiffer : Value.DifferIn t.identifierField v w a b) (ha : ∃ j, (Value.map a).toJson = .ok j)
    (hb : ∃ j, (Value.map b).toJson = .ok j) : t.outcome identifier e = t'.outcome identifier e' := by
  have hsome : Fields.get? t.identifierField a ≠ none := by simp [hdiffer.get]
  have hsome' : Fields.get? t'.identifierField b ≠ none := by simp [hfield, hdiffer.get']
  rw [Value.exists_toJson_iff, ← houtput] at ha
  rw [Value.exists_toJson_iff, ← houtput'] at hb
  have hsettled : (t.outcome identifier e).SettledBy t.identifierField identifier e.output := outcome_settledBy hend
  have hsettled' : (t'.outcome identifier e').SettledBy t'.identifierField identifier e'.output :=
    outcome_settledBy hend'
  obtain ⟨after, hafter, hid, hothers⟩ := hsettled.of_identifier a houtput ha hsome
  obtain ⟨after', hafter', hid', hothers'⟩ := hsettled'.of_identifier b houtput' hb hsome'
  have hsorted := sorted_of_outcome_eq_ok hend houtput hdiffer.sorted hafter
  have hsorted' := sorted_of_outcome_eq_ok hend' houtput' hdiffer.sorted' hafter'
  rw [hfield] at hid' hothers'
  rw [hafter, hafter', Fields.ext_get? hsorted hsorted' fun key => ?_]
  by_cases hkey : key = t.identifierField
  · rw [hkey, hid, hid']
  · have hsame := hothers key hkey
    rw [hdiffer.others key hkey, hothers' key hkey] at hsame
    exact (Option.map_injective (fun _ _ => Except.ok.inj) hsame).symm

/-- The outcomes of two runs whose outputs differ in the identifier only are the same exactly if the same leaf, or none,
is reported of both outputs. -/
private theorem outcome_eq_iff (hfield : t'.identifierField = t.identifierField) (hend : e.ending = .finished last)
    (hend' : e'.ending = .finished last') (houtput : e.output = .map a) (houtput' : e'.output = .map b)
    (hdiffer : Value.DifferIn t.identifierField v w a b) :
    t.outcome identifier e = t'.outcome identifier e' ↔
      ∀ u, (Value.map a).toJson = .error u ↔ (Value.map b).toJson = .error u := by
  have hfailed : ∀ {failure}, t.outcome identifier e = .error failure ↔
      ∃ u, (Value.map a).toJson = .error u ∧ failure = .invalidReturnType u.message :=
    outcome_eq_error_iff hend houtput (by simp [hdiffer.get])
  have hfailed' : ∀ {failure}, t'.outcome identifier e' = .error failure ↔
      ∃ u, (Value.map b).toJson = .error u ∧ failure = .invalidReturnType u.message :=
    outcome_eq_error_iff hend' houtput' (by simp [hfield, hdiffer.get'])
  constructor
  · intro heq u
    constructor
    · intro ha
      obtain ⟨u', hb, hmessage⟩ := hfailed'.1 (heq ▸ hfailed.2 ⟨u, ha, rfl⟩)
      rwa [Value.message_inj ha hb (RunError.invalidReturnType.inj hmessage)]
    · intro hb
      obtain ⟨u', ha, hmessage⟩ := hfailed.1 (heq ▸ hfailed'.2 ⟨u, hb, rfl⟩)
      rwa [Value.message_inj hb ha (RunError.invalidReturnType.inj hmessage)]
  · intro hreports
    cases ha : (Value.map a).toJson with
    | error u => rw [hfailed.2 ⟨u, ha, rfl⟩, hfailed'.2 ⟨u, (hreports u).1 ha, rfl⟩]
    | ok j =>
      cases hb : (Value.map b).toJson with
      | error u =>
        have ha' := (hreports u).2 hb
        rw [ha] at ha'
        cases ha'
      | ok k => exact outcome_eq_of_fit hfield hend hend' houtput houtput' hdiffer ⟨j, ha⟩ ⟨k, hb⟩

/-- Two runs on a record that end with maps which differ in the identifier only come to the same unless the conversion
of the two maps reports different leaves.  It does not if both values under the identifier have a JSON form, or if a
field in front of it has none. -/
theorem run_apart_from_identifier {record : Record} (hfield : t'.identifierField = t.identifierField)
    (hid : Fields.contains t.identifierField record = true) (hend : (t.evaluate record).ending = .finished last)
    (hend' : (t'.evaluate record).ending = .finished last') (houtput : (t.evaluate record).output = .map a)
    (houtput' : (t'.evaluate record).output = .map b) (hdiffer : Value.DifferIn t.identifierField v w a b) :
    ((t.run record).outcome = (t'.run record).outcome ↔
      ∀ u, (Value.map a).toJson = .error u ↔ (Value.map b).toJson = .error u) ∧
    ((∃ j, v.toJson = .ok j) → (∃ j, w.toJson = .ok j) → (t.run record).outcome = (t'.run record).outcome) ∧
    ∀ key x, key < t.identifierField → Fields.get? key a = some x → (¬∃ j, x.toJson = .ok j) →
      (t.run record).outcome = (t'.run record).outcome := by
  obtain ⟨identifier, hget⟩ := Option.isSome_iff_exists.1 hid
  have hiff : t.outcome identifier (t.evaluate record) = t'.outcome identifier (t'.evaluate record) ↔
      ∀ u, (Value.map a).toJson = .error u ↔ (Value.map b).toJson = .error u :=
    outcome_eq_iff hfield hend hend' houtput houtput' hdiffer
  rw [outcome_run hget, outcome_run (hfield ▸ hget)]
  refine ⟨hiff, fun hv hw => hiff.2 fun u => ?_, fun key x hkey hx hunfit => hiff.2 fun u => ?_⟩
  · rw [Value.toJson_eq_error_iff, Value.toJson_eq_error_iff, hdiffer.firstUnfit?_of_fit hv hw]
  · rw [Value.toJson_eq_error_iff, Value.toJson_eq_error_iff, hdiffer.firstUnfit?_of_unfit hkey hx hunfit]

end Transformer

/-- A run ends with a map of one entry, the one under "ticker", whose value passes a test. -/
private def Evaluation.leavesTicker (e : Evaluation) (test : Value → Bool) : Bool :=
  match e.ending, e.output with
  | .finished _, .map [(key, v)] => key == "ticker" && test v
  | _, _ => false

private theorem Evaluation.exists_of_leavesTicker {e : Evaluation} {test : Value → Bool}
    (h : e.leavesTicker test = true) :
    ∃ last v, e.ending = .finished last ∧ e.output = .map [("ticker", v)] ∧ test v = true := by
  unfold leavesTicker at h
  split at h
  · rename_i last key v hend houtput
    rw [Bool.and_eq_true, beq_iff_eq] at h
    obtain ⟨rfl, htest⟩ := h
    exact ⟨last, v, hend, houtput, htest⟩
  · cases h

private def Value.isFit (v : Value) : Bool := v.toJson.toOption.any fun _ => true

private def Value.isOne : Value → Bool
  | .int n => n == 1
  | _ => false

private def Value.isOneToTwo : Value → Bool
  | .range lo hi => lo == 1 && hi == 2
  | _ => false

namespace Transformer

private theorem identifierField_of_ofScript {policy : Policy} {script : Script} {t : Transformer}
    (h : ofScript policy script = .ok t) : t.identifierField = policy.identifierField := by
  obtain ⟨compiled, -, rfl⟩ := ofScript_eq_ok h
  rfl

/-- A number and an array that a script leaves in the identifier are both gone in the end. -/
theorem run_apart_from_identifier_of_array :
    ∃ t t', ofScript .standard ⟨"record.ticker = 1;"⟩ = .ok t ∧
      ofScript .standard ⟨"record.ticker = [(), \"B\"];"⟩ = .ok t' ∧
      (t.run [("ticker", .str "A")]).outcome = (t'.run [("ticker", .str "A")]).outcome := by
  let record : Record := [("ticker", .str "A")]
  have hfit : ∀ {v : Value}, Value.isFit v = true → ∃ j, v.toJson = .ok j :=
    fun hv => (exists_ok_of_any hv).imp fun _ hj => hj.1
  have hnumber : (ofScript .standard ⟨"record.ticker = 1;"⟩).toOption.any fun t =>
      (t.evaluate record).leavesTicker Value.isFit := by decide +kernel
  have harray : (ofScript .standard ⟨"record.ticker = [(), \"B\"];"⟩).toOption.any fun t =>
      (t.evaluate record).leavesTicker Value.isFit := by decide +kernel
  obtain ⟨t, ht, hleaves⟩ := exists_ok_of_any hnumber
  obtain ⟨t', ht', hleaves'⟩ := exists_ok_of_any harray
  obtain ⟨last, v, hend, houtput, hv⟩ := Evaluation.exists_of_leavesTicker hleaves
  obtain ⟨last', w, hend', houtput', hw⟩ := Evaluation.exists_of_leavesTicker hleaves'
  have hfield : t.identifierField = "ticker" := identifierField_of_ofScript ht
  have hfield' : t'.identifierField = "ticker" := identifierField_of_ofScript ht'
  have hdiffer : Value.DifferIn t.identifierField v w [("ticker", v)] [("ticker", w)] := by
    rw [hfield]
    refine ⟨List.pairwise_singleton _ _, List.pairwise_singleton _ _, rfl, rfl, fun key hkey => ?_⟩
    simp [Fields.get?, hkey.symm]
  have hid : Fields.contains t.identifierField record = true := by
    rw [hfield]
    decide
  exact ⟨t, t', ht, ht', (run_apart_from_identifier (hfield'.trans hfield.symm) hid hend hend' houtput houtput'
    hdiffer).2.1 (hfit hv) (hfit hw)⟩

/-- A range in the identifier fails the run, a number in its place does not. -/
theorem run_depends_on_identifier :
    ∃ t t' last last', ofScript .standard ⟨"record.ticker = 1;"⟩ = .ok t ∧
      ofScript .standard ⟨"record.ticker = 1..2;"⟩ = .ok t' ∧
      t.identifierField = "ticker" ∧ t'.identifierField = "ticker" ∧
      (t.evaluate [("ticker", .str "A")]).ending = .finished last ∧
      (t'.evaluate [("ticker", .str "A")]).ending = .finished last' ∧
      (t.evaluate [("ticker", .str "A")]).output = .map [("ticker", .int 1)] ∧
      (t'.evaluate [("ticker", .str "A")]).output = .map [("ticker", .range 1 2)] ∧
      (t.run [("ticker", .str "A")]).outcome = .ok [("ticker", .str "A")] ∧
      (t'.run [("ticker", .str "A")]).outcome =
        .error (.invalidReturnType "core::ops::range::Range<i64> in field 'ticker'") := by
  let record : Record := [("ticker", .str "A")]
  have hnumber : (ofScript .standard ⟨"record.ticker = 1;"⟩).toOption.any fun t =>
      (t.evaluate record).leavesTicker Value.isOne := by decide +kernel
  have hrange : (ofScript .standard ⟨"record.ticker = 1..2;"⟩).toOption.any fun t =>
      (t.evaluate record).leavesTicker Value.isOneToTwo := by decide +kernel
  obtain ⟨t, ht, hleaves⟩ := exists_ok_of_any hnumber
  obtain ⟨t', ht', hleaves'⟩ := exists_ok_of_any hrange
  obtain ⟨last, v, hend, houtput, hv⟩ := Evaluation.exists_of_leavesTicker hleaves
  obtain ⟨last', w, hend', houtput', hw⟩ := Evaluation.exists_of_leavesTicker hleaves'
  obtain rfl : v = .int 1 := by
    cases v with
    | int n => rw [eq_of_beq hv]
    | _ => cases hv
  obtain rfl : w = .range 1 2 := by
    cases w with
    | range lo hi =>
      rw [Value.isOneToTwo, Bool.and_eq_true, beq_iff_eq, beq_iff_eq] at hw
      rw [hw.1, hw.2]
    | _ => cases hw
  have hfield : t.identifierField = "ticker" := identifierField_of_ofScript ht
  have hfield' : t'.identifierField = "ticker" := identifierField_of_ofScript ht'
  refine ⟨t, t', last, last', ht, ht', hfield, hfield', hend, hend', houtput, houtput', ?_, ?_⟩
  · have hget : Fields.get? t.identifierField record = some (.str "A") := by
      rw [hfield]
      rfl
    rw [outcome_run hget, outcome, hend, houtput, hfield]
    rfl
  · have hget : Fields.get? t'.identifierField record = some (.str "A") := by
      rw [hfield']
      rfl
    rw [outcome_run hget, outcome, hend', houtput', hfield']
    rfl

end Transformer

end Sandscript
