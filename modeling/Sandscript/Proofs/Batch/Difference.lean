import Sandscript.Batch.Difference
import Sandscript.Proofs.Fields
import Sandscript.Proofs.Value.RoundTrip

/-!
# Differences and what they change

The difference of two records lists exactly the fields that are compared and differ, in order (`mem_diff_iff`,
`pairwise_diff`).  If all fields are compared it is all that separates the records: carried out on the first one, it
gives the second (`eqv_patch_diff`), and it is empty for equal records only (`Record.diff_exact`).
-/

namespace Sandscript

private theorem sameField_self (v : Option Json) : sameField v v = true := by
  cases v with
  | none => rfl
  | some v => exact v.eqv_self

private theorem sameField_iff {v w : Option Json} :
    sameField v w = true ↔ Option.Rel (fun a b => a.eqv b = true) v w := by
  cases v with
  | none =>
    cases w with
    | none => exact ⟨fun _ => .none, fun _ => rfl⟩
    | some w => exact ⟨fun h => (nomatch h), fun h => (nomatch h)⟩
  | some v =>
    cases w with
    | none => exact ⟨fun h => (nomatch h), fun h => (nomatch h)⟩
    | some w => exact (Option.rel_some_some (r := fun a b : Json => a.eqv b = true)).symm

private theorem Json.eqvFields_eq_true_iff {a b : Record} :
    eqvFields a b = true ↔ List.Forall₂ (fun p q => p.1 = q.1 ∧ p.2.eqv q.2 = true) a b := by
  induction a generalizing b with
  | nil =>
    cases b with
    | nil => exact ⟨fun _ => .nil, fun _ => rfl⟩
    | cons q b => exact ⟨fun h => (nomatch h), fun h => (nomatch h)⟩
  | cons p a ih =>
    cases b with
    | nil => exact ⟨fun h => (nomatch h), fun h => (nomatch h)⟩
    | cons q b => rw [eqvFields, Bool.and_eq_true, Bool.and_eq_true, beq_iff_eq, List.forall₂_cons, ih]

/-- Records in order are equal if they agree field by field. -/
private theorem Json.eqvFields_iff {a b : Record} (ha : Fields.Sorted a) (hb : Fields.Sorted b) :
    eqvFields a b = true ↔ ∀ field, sameField (Fields.get? field a) (Fields.get? field b) = true := by
  have hentries := Fields.forall₂_iff (r := fun v w : Json => v.eqv w = true) ha hb
  rw [eqvFields_eq_true_iff, hentries]
  exact forall_congr' fun field => sameField_iff.symm

/-- A record with one change carried out. -/
def FieldChange.applyTo (record : Record) (c : FieldChange) : Record :=
  match c.after with
  | some v => Fields.insert c.field v record
  | none => Fields.erase c.field record

namespace FieldChange

private theorem get?_applyTo_self (record : Record) (c : FieldChange) :
    Fields.get? c.field (c.applyTo record) = c.after := by
  unfold applyTo
  split
  · rename_i v hv
    rw [Fields.get?_insert_self, hv]
  · rename_i hnone
    rw [Fields.get?_erase_self, hnone]

private theorem get?_applyTo_of_ne {c : FieldChange} {field : String} (h : c.field ≠ field) (record : Record) :
    Fields.get? field (c.applyTo record) = Fields.get? field record := by
  unfold applyTo
  split
  · exact Fields.get?_insert_of_ne h _ _
  · exact Fields.get?_erase_of_ne h _

private theorem sorted_applyTo {record : Record} (h : Fields.Sorted record) (c : FieldChange) :
    Fields.Sorted (c.applyTo record) := by
  unfold applyTo
  split
  · exact Fields.sorted_insert h _ _
  · exact Fields.sorted_erase h _

end FieldChange

namespace Record

/-- A record with changes carried out one after the other. -/
def patch (record : Record) (changes : List FieldChange) : Record := changes.foldl FieldChange.applyTo record

private theorem get?_patch_of_forall_ne {changes : List FieldChange} {field : String}
    (h : ∀ c ∈ changes, c.field ≠ field)
    (record : Record) : Fields.get? field (patch record changes) = Fields.get? field record := by
  induction changes generalizing record with
  | nil => rfl
  | cons c changes ih =>
    rw [patch, List.foldl_cons, ← patch, ih (fun c hc => h c (List.mem_cons_of_mem _ hc)),
      FieldChange.get?_applyTo_of_ne (h c List.mem_cons_self)]

/-- Of changes of different fields each one is visible in the end. -/
private theorem get?_patch_of_mem {changes : List FieldChange} {c : FieldChange}
    (hdistinct : (changes.map (·.field)).Pairwise (· < ·)) (h : c ∈ changes) (record : Record) :
    Fields.get? c.field (patch record changes) = c.after := by
  induction changes generalizing record with
  | nil => cases h
  | cons first changes ih =>
    rw [List.map_cons, List.pairwise_cons] at hdistinct
    rw [patch, List.foldl_cons, ← patch]
    rcases List.mem_cons.1 h with rfl | h
    · have hlater : ∀ later ∈ changes, later.field ≠ c.field := by
        intro later hlater heq
        have hlt := hdistinct.1 _ (List.mem_map_of_mem hlater)
        exact String.lt_irrefl _ (heq ▸ hlt)
      rw [get?_patch_of_forall_ne hlater, FieldChange.get?_applyTo_self]
    · exact ih hdistinct.2 h _

private theorem sorted_patch {record : Record} (h : Fields.Sorted record) (changes : List FieldChange) :
    Fields.Sorted (patch record changes) := by
  induction changes generalizing record with
  | nil => exact h
  | cons c changes ih => exact ih (FieldChange.sorted_applyTo h c)

/-! ### The fields of a difference -/

/-- The fields whose values a policy has compared. -/
def Compares (policy : Policy) (before after : Record) (field : String) : Prop :=
  match policy.trackedFields with
  | some names => field ∈ names
  | none => field ∈ Fields.keys before ∨ field ∈ Fields.keys after

variable {policy : Policy} {before after : Record}

private theorem mem_comparedFields_iff {field : String} :
    field ∈ comparedFields policy.trackedFields before after ↔ Compares policy before after field := by
  have hnames : ∀ names : List String, field ∈ Fields.keys (Fields.ofPairs (names.map (·, ()))) ↔ field ∈ names := by
    intro names
    constructor
    · intro h
      obtain ⟨p, hp, rfl⟩ := List.mem_map.1 h
      obtain ⟨name, hname, rfl⟩ := List.mem_map.1 (Fields.mem_of_mem_ofPairs hp)
      exact hname
    · intro h
      refine Fields.mem_keys_ofPairs ?_
      rw [Fields.keys, List.map_map]
      exact List.mem_map.2 ⟨field, h, rfl⟩
  unfold comparedFields Compares
  cases policy.trackedFields with
  | some names => exact hnames names
  | none => exact (hnames _).trans List.mem_append

private theorem pairwise_comparedFields (tracked : Option (List String)) (before after : Record) :
    (comparedFields tracked before after).Pairwise (· < ·) := Fields.pairwise_keys (Fields.sorted_ofPairs _)

private theorem change?_eq_some_iff {field : String} {c : FieldChange} :
    change? before after field = some c ↔
      c = ⟨field, Fields.get? field before, Fields.get? field after⟩ ∧
        sameField (Fields.get? field before) (Fields.get? field after) = false := by
  dsimp only [change?]
  split
  · rename_i hsame
    simp [hsame]
  · rename_i hdiffer
    rw [Bool.not_eq_true] at hdiffer
    simp [hdiffer, eq_comm]

private theorem change?_self (record : Record) (field : String) : change? record record field = none := by
  dsimp only [change?]
  rw [sameField_self, if_pos rfl]

/-- A record does not differ from itself, whatever fields are tracked. -/
theorem diff_self (policy : Policy) (record : Record) : diff policy record record = [] :=
  List.filterMap_eq_nil_iff.2 fun field _ => change?_self record field

theorem mem_diff_iff {c : FieldChange} :
    c ∈ diff policy before after ↔
      c.field ≠ policy.identifierField ∧ Compares policy before after c.field ∧
        c.before = Fields.get? c.field before ∧ c.after = Fields.get? c.field after ∧
        sameField c.before c.after = false := by
  rw [diff, List.mem_filterMap]
  constructor
  · rintro ⟨field, hfield, hchange⟩
    obtain ⟨rfl, hdiffer⟩ := change?_eq_some_iff.1 hchange
    rw [List.mem_filter, mem_comparedFields_iff, bne_iff_ne] at hfield
    exact ⟨hfield.2, hfield.1, rfl, rfl, hdiffer⟩
  · rintro ⟨hid, hcompared, hold, hnew, hdiffer⟩
    refine ⟨c.field, ?_, change?_eq_some_iff.2 ⟨?_, ?_⟩⟩
    · rw [List.mem_filter, mem_comparedFields_iff, bne_iff_ne]
      exact ⟨hcompared, hid⟩
    · rw [← hold, ← hnew]
    · rw [← hold, ← hnew, hdiffer]

theorem pairwise_diff (policy : Policy) (before after : Record) :
    ((diff policy before after).map (·.field)).Pairwise (· < ·) := by
  rw [List.pairwise_map, diff]
  refine List.Pairwise.filterMap _ ?_ ((pairwise_comparedFields policy.trackedFields before after).filter _)
  intro first second hlt c hc d hd
  obtain ⟨rfl, -⟩ := change?_eq_some_iff.1 hc
  obtain ⟨rfl, -⟩ := change?_eq_some_iff.1 hd
  exact hlt

/-! ### Differences of all fields -/

/-- A field that no difference lists is the same in both records. -/
private theorem sameField_of_not_listed (htracked : policy.trackedFields = none)
    (hid : sameField (Fields.get? policy.identifierField before) (Fields.get? policy.identifierField after) = true)
    {field : String} (h : ∀ c ∈ diff policy before after, c.field ≠ field) :
    sameField (Fields.get? field before) (Fields.get? field after) = true := by
  cases hdiffer : sameField (Fields.get? field before) (Fields.get? field after) with
  | true => rfl
  | false =>
    have hcompared : Compares policy before after field := by
      rw [Compares, htracked]
      dsimp only
      -- a field that neither record has is the same in both
      refine Decidable.byContradiction fun hnone => ?_
      rw [not_or, ← Fields.get?_eq_none_iff, ← Fields.get?_eq_none_iff] at hnone
      rw [hnone.1, hnone.2] at hdiffer
      cases hdiffer
    have hne : field ≠ policy.identifierField := by
      rintro rfl
      rw [hid] at hdiffer
      cases hdiffer
    exact absurd rfl (h ⟨field, Fields.get? field before, Fields.get? field after⟩
      (mem_diff_iff.2 ⟨hne, hcompared, rfl, rfl, hdiffer⟩))

theorem eqv_patch_diff (hbefore : Fields.Sorted before) (hafter : Fields.Sorted after)
    (htracked : policy.trackedFields = none)
    (hid : sameField (Fields.get? policy.identifierField before) (Fields.get? policy.identifierField after) = true) :
    (Json.obj (patch before (diff policy before after))).eqv (.obj after) = true := by
  refine (Json.eqvFields_iff (sorted_patch hbefore _) hafter).2 fun field => ?_
  by_cases hlisted : ∃ c ∈ diff policy before after, c.field = field
  · obtain ⟨c, hc, rfl⟩ := hlisted
    obtain ⟨-, -, -, hnew, -⟩ := mem_diff_iff.1 hc
    rw [get?_patch_of_mem (pairwise_diff policy before after) hc, hnew]
    exact sameField_self _
  · have hother : ∀ c ∈ diff policy before after, c.field ≠ field := fun c hc heq => hlisted ⟨c, hc, heq⟩
    rw [get?_patch_of_forall_ne hother]
    exact sameField_of_not_listed htracked hid hother

/-- Equal records do not differ in any field, whichever are compared. -/
private theorem diff_eq_nil_of_eqv (hbefore : Fields.Sorted before) (hafter : Fields.Sorted after)
    (h : (Json.obj before).eqv (.obj after) = true) : diff policy before after = [] := by
  refine List.eq_nil_iff_forall_not_mem.2 fun c hc => ?_
  obtain ⟨-, -, hold, hnew, hdiffer⟩ := mem_diff_iff.1 hc
  rw [hold, hnew, (Json.eqvFields_iff hbefore hafter).1 h c.field] at hdiffer
  cases hdiffer

/-- A difference lists the fields that are compared and differ, in order, each once and with its two values, and never
the identifier.  If all fields are compared, it turns the first record into the second one. -/
theorem diff_exact (policy : Policy) (before after : Record) :
    ((diff policy before after).map (·.field)).Pairwise (· < ·) ∧
    policy.identifierField ∉ (diff policy before after).map (·.field) ∧
    (∀ field old new, (⟨field, old, new⟩ : FieldChange) ∈ diff policy before after ↔
      field ≠ policy.identifierField ∧ Compares policy before after field ∧
        old = Fields.get? field before ∧ new = Fields.get? field after ∧ sameField old new = false) ∧
    (Fields.Sorted before → Fields.Sorted after → policy.trackedFields = none →
      sameField (Fields.get? policy.identifierField before) (Fields.get? policy.identifierField after) = true →
        (Json.obj (patch before (diff policy before after))).eqv (.obj after) = true ∧
        (diff policy before after = [] ↔ (Json.obj before).eqv (.obj after) = true)) := by
  refine ⟨pairwise_diff policy before after, fun hmem => ?_, fun field old new => mem_diff_iff,
    fun hbefore hafter htracked hid => ⟨eqv_patch_diff hbefore hafter htracked hid, fun hnil => ?_,
      diff_eq_nil_of_eqv hbefore hafter⟩⟩
  · obtain ⟨c, hc, hfield⟩ := List.mem_map.1 hmem
    exact (mem_diff_iff.1 hc).1 hfield
  · have hpatch := eqv_patch_diff hbefore hafter htracked hid
    rwa [hnil] at hpatch

/-- One field turns from null to absent and another one from absent to null; a zero gets a sign, which is no change. -/
theorem diff_exact_of_null :
    let before : Record := [("gone", .null), ("ticker", .str "A"), ("zero", .num (.float .zero rfl))]
    let after : Record := [("new", .null), ("ticker", .str "A"), ("zero", .num (.float .negativeZero rfl))]
    ⟨"gone", some .null, none⟩ ∈ diff .standard before after ∧ ⟨"new", none, some .null⟩ ∈ diff .standard before after ∧
      (∀ old new, ⟨"zero", old, new⟩ ∉ diff .standard before after) ∧
      (Json.obj (patch before (diff .standard before after))).eqv (.obj after) = true := by
  intro before after
  have hbefore : Fields.Sorted before := Fields.sorted_ofPairs before
  have hafter : Fields.Sorted after := Fields.sorted_ofPairs after
  obtain ⟨-, -, hlisted, hpatch⟩ := diff_exact .standard before after
  refine ⟨(hlisted _ _ _).2 ⟨by decide, .inl (by decide), rfl, rfl, rfl⟩,
    (hlisted _ _ _).2 ⟨by decide, .inr (by decide), rfl, rfl, rfl⟩, fun old new hzero => ?_,
    (hpatch hbefore hafter rfl rfl).1⟩
  obtain ⟨-, -, rfl, rfl, hdiffer⟩ := (hlisted _ _ _).1 hzero
  cases hdiffer

end Record

end Sandscript
