import Sandscript.Proofs.Trace.Identifier
import Sandscript.Proofs.Trace.Moment
import Sandscript.Trace.Document

/-!
# Traces and their documents

A trace is read back from its document except for one thing: an absent value and a value that is there, but null, are
written alike, and are read as an absent one (`Trace.ofJson_toJson`).
-/

namespace Sandscript

open Datum

/-- A value as it is read back: a null counts as an absent value. -/
def Json.unlessNull : Option Json → Option Json
  | some .null => none
  | v => v

instance Json.decidableEqNull : (v : Option Json) → Decidable (v = some .null)
  | some .null => isTrue rfl
  | none | some (.bool _) | some (.num _) | some (.str _) | some (.arr _) | some (.obj _) => isFalse nofun

namespace FieldChange

/-- A change as it is read back. -/
def readBack (c : FieldChange) : FieldChange :=
  { c with before := Json.unlessNull c.before, after := Json.unlessNull c.after }

/-- A change with a value that is there, but null. -/
def HoldsNull (c : FieldChange) : Prop := c.before = some .null ∨ c.after = some .null

instance (c : FieldChange) : Decidable c.HoldsNull := inferInstanceAs (Decidable (_ ∨ _))

end FieldChange

def SampleDiff.readBack (s : SampleDiff) : SampleDiff := { s with changes := s.changes.map FieldChange.readBack }

namespace Trace

def readBack (t : Trace) : Trace := { t with samples := t.samples.map SampleDiff.readBack }

/-- A trace whose counts and places are words of 64 bits, and whose start is a point in time. -/
structure Fits (t : Trace) : Prop where
  startedAt : t.startedAt.Valid
  consoleDropped : t.consoleDropped < 2 ^ 64
  elapsedMs : t.elapsedMs < 2 ^ 64
  processed : t.processed < 2 ^ 64
  modified : t.modified < 2 ^ 64
  failed : t.failed < 2 ^ 64
  samples : ∀ s ∈ t.samples, s.index < 2 ^ 64
  errors : ∀ e ∈ t.errors, e.index < 2 ^ 64

end Trace

/-! ### Nulls -/

private theorem Json.unlessNull_eq_self_iff {v : Option Json} : unlessNull v = v ↔ v ≠ some .null := by
  cases v with
  | none => exact ⟨fun _ => nofun, fun _ => rfl⟩
  | some v => cases v <;> simp [unlessNull]

private theorem FieldChange.readBack_eq_self_iff {c : FieldChange} : c.readBack = c ↔ ¬ c.HoldsNull := by
  obtain ⟨field, before, after⟩ := c
  rw [readBack, FieldChange.mk.injEq, HoldsNull, not_or, ← ne_eq, ← ne_eq, ← Json.unlessNull_eq_self_iff,
    ← Json.unlessNull_eq_self_iff]
  exact and_iff_right rfl

private theorem map_eq_self_iff {α : Type} {f : α → α} {l : List α} : l.map f = l ↔ ∀ a ∈ l, f a = a := by
  conv_lhs => rw [← l.map_id', List.map_map, List.map_inj_left]
  rfl

private theorem SampleDiff.readBack_eq_self_iff {s : SampleDiff} : s.readBack = s ↔ ∀ c ∈ s.changes, ¬ c.HoldsNull := by
  have hchanges : s.readBack = s ↔ s.changes.map FieldChange.readBack = s.changes :=
    ⟨fun h => congrArg SampleDiff.changes h, fun h => by rw [readBack, h]⟩
  rw [hchanges, map_eq_self_iff]
  exact forall₂_congr fun _ _ => FieldChange.readBack_eq_self_iff

namespace Trace

theorem readBack_eq_self_iff {t : Trace} : t.readBack = t ↔ ∀ s ∈ t.samples, ∀ c ∈ s.changes, ¬ c.HoldsNull := by
  have hsamples : t.readBack = t ↔ t.samples.map SampleDiff.readBack = t.samples :=
    ⟨fun h => congrArg Trace.samples h, fun h => by rw [readBack, h]⟩
  rw [hsamples, map_eq_self_iff]
  exact forall₂_congr fun _ _ => SampleDiff.readBack_eq_self_iff

end Trace

namespace Json

/-! ### Parts of a document -/

private theorem decodeString_str (s : String) : decodeString (str s) = .ok s := rfl

private theorem asWord_ofNat {n : Nat} (h : n < 2 ^ 64) (expected : String) :
    (Datum.ofJson (Json.ofNat n)).asWord expected = .ok (UInt64.ofNat n) := by
  rw [Json.ofNat, dif_pos h, Datum.ofJson, asWord, if_pos ⟨by omega, by omega⟩]
  rfl

private theorem decodeSize_ofNat {n : Nat} (h : n < 2 ^ 64) : decodeSize (Json.ofNat n) = .ok n := by
  rw [decodeSize, asWord_ofNat h]
  exact congrArg Except.ok (UInt64.toNat_ofNat_of_lt h)

private theorem decodeElapsed_ofNat {n : Nat} (h : n < 2 ^ 64) : decodeElapsed (Json.ofNat n) = .ok n := by
  rw [decodeElapsed, asWord_ofNat h]
  exact congrArg Except.ok (UInt64.toNat_ofNat_of_lt h)

private theorem decodeBatchId_text (b : BatchId) : decodeBatchId (str b.text) = .ok b := by
  dsimp only [decodeBatchId]
  rw [b.ofText_text]

private theorem decodeTimestamp_text {t : Timestamp} (h : t.Valid) : decodeTimestamp (str t.text) = .ok t := by
  dsimp only [decodeTimestamp]
  rw [Timestamp.ofText_text h]

private theorem decodeBackend_name (b : Backend) : decodeBackend (str b.name) = .ok b := by
  cases b <;> rfl

private theorem decodeKind_tag (k : RunErrorKind) : decodeKind (str k.tag) = .ok k := by
  cases k <;> rfl

/-- A list is read back if its items are. -/
private theorem decodeList_map {α β : Type} {encode : α → Json} {decode : Json → Decoded β} {back : α → β} {l : List α}
    (h : ∀ a ∈ l, decode (encode a) = .ok (back a)) : decodeList decode (arr (l.map encode)) = .ok (l.map back) := by
  change (l.map encode).mapM decode = .ok (l.map back)
  induction l with
  | nil => rfl
  | cons a l ih =>
    rw [List.map_cons, List.mapM_cons, h a List.mem_cons_self, ih fun b hb => h b (List.mem_cons_of_mem a hb)]
    rfl

private theorem decodeList_map_self {α : Type} {encode : α → Json} {decode : Json → Decoded α} {l : List α}
    (h : ∀ a ∈ l, decode (encode a) = .ok a) : decodeList decode (arr (l.map encode)) = .ok l := by
  have hl : decodeList decode (arr (l.map encode)) = .ok (l.map fun a => a) := decodeList_map h
  rwa [List.map_id'] at hl

private theorem ok_bind {α β : Type} (a : α) (f : α → Decoded β) : ((Except.ok a : Decoded α) >>= f) = f a := rfl

private theorem ignore_of_eq_ok {α : Type} {r : Decoded α} {a : α} (h : r = .ok a) : ignore r = .ok () := by
  rw [h]
  rfl

private theorem structFields_obj {check : String → Json → Decoded Unit} {fields : List (String × Json)}
    (h : ∀ p ∈ fields, check p.1 p.2 = .ok ()) (name : String) (names : List String) :
    structFields name names check (obj fields) = .ok fields := by
  have hchecks : (fields.forM fun p => check p.1 p.2) = .ok () := by
    induction fields with
    | nil => rfl
    | cons p fields ih =>
      change (check p.1 p.2 >>= fun _ => fields.forM fun p => check p.1 p.2) = .ok ()
      rw [h p List.mem_cons_self]
      exact ih fun q hq => h q (List.mem_cons_of_mem p hq)
  dsimp only [structFields]
  rw [hchecks]
  rfl

private theorem required_of_get? {α : Type} {fields : List (String × Json)} {name : String} {v : Json}
    (decode : Json → Decoded α) (h : Fields.get? name fields = some v) : required fields name decode = decode v := by
  rw [required, h]

/-- An absent value and a null are written alike, so the reader cannot tell them apart. -/
private theorem optional_of_get? {fields : List (String × Json)} {name : String} {v : Option Json}
    (h : Fields.get? name fields = some (v.getD .null)) : optional fields name = unlessNull v := by
  rw [optional, h]
  cases v with
  | none => rfl
  | some v => cases v <;> rfl

/-! ### The parts of a trace -/

private theorem decodeFieldChange_toJson (c : FieldChange) : decodeFieldChange c.toJson = .ok c.readBack := by
  have hfield := decodeString_str c.field
  unfold decodeFieldChange FieldChange.toJson
  rw [structFields_obj (by simp [ignore_of_eq_ok hfield]), ok_bind, required_of_get? _ rfl, hfield, ok_bind,
    optional_of_get? rfl, optional_of_get? rfl]
  rfl

private theorem decodeSample_toJson {s : SampleDiff} (h : s.index < 2 ^ 64) :
    decodeSample s.toJson = .ok s.readBack := by
  have hindex := decodeSize_ofNat h
  have hchanges := decodeList_map (l := s.changes) fun c _ => decodeFieldChange_toJson c
  unfold decodeSample SampleDiff.toJson
  dsimp only
  rw [structFields_obj (by simp [ignore_of_eq_ok hindex, ignore_of_eq_ok hchanges]), ok_bind,
    required_of_get? _ rfl, hindex, ok_bind, required_of_get? _ rfl, ok_bind, required_of_get? _ rfl, hchanges]
  rfl

private theorem decodeRecordError_toJson {e : RecordError} (h : e.index < 2 ^ 64) :
    decodeRecordError e.toJson = .ok e := by
  have hindex := decodeSize_ofNat h
  have hkind := decodeKind_tag e.kind
  have hmessage := decodeString_str e.message
  unfold decodeRecordError RecordError.toJson
  dsimp only
  rw [structFields_obj (by simp [ignore_of_eq_ok hindex, ignore_of_eq_ok hkind, ignore_of_eq_ok hmessage]), ok_bind,
    required_of_get? _ rfl, hindex, ok_bind, required_of_get? _ rfl, ok_bind, required_of_get? _ rfl, hkind, ok_bind,
    required_of_get? _ rfl, hmessage]
  rfl

/-- A trace is read back but for the nulls in its samples. -/
private theorem decodeTrace_toJson {t : Trace} (h : t.Fits) : decodeTrace t.toJson = .ok t.readBack := by
  have hid := decodeBatchId_text t.batchId
  have hstart := decodeTimestamp_text h.startedAt
  have hdigest := decodeString_str t.scriptDigest.text
  have hbackend := decodeBackend_name t.backend
  have hconsole := decodeList_map_self (l := t.console) fun s _ => decodeString_str s
  have hdropped := decodeSize_ofNat h.consoleDropped
  have helapsed := decodeElapsed_ofNat h.elapsedMs
  have hprocessed := decodeSize_ofNat h.processed
  have hmodified := decodeSize_ofNat h.modified
  have hfailed := decodeSize_ofNat h.failed
  have hsamples := decodeList_map fun s hs => decodeSample_toJson (h.samples s hs)
  have herrors := decodeList_map_self fun e he => decodeRecordError_toJson (h.errors e he)
  unfold decodeTrace Trace.toJson
  rw [structFields_obj, ok_bind, required_of_get? _ rfl, hid, ok_bind, required_of_get? _ rfl, hstart, ok_bind,
    required_of_get? _ rfl, hdigest, ok_bind, required_of_get? _ rfl, hbackend, ok_bind,
    required_of_get? _ rfl, hconsole, ok_bind, required_of_get? _ rfl, hdropped, ok_bind,
    required_of_get? _ rfl, helapsed, ok_bind, required_of_get? _ rfl, hprocessed, ok_bind,
    required_of_get? _ rfl, hmodified, ok_bind, required_of_get? _ rfl, hfailed, ok_bind,
    required_of_get? _ rfl, hsamples, ok_bind, required_of_get? _ rfl, herrors]
  · rfl
  · simp [checkTraceField, ignore_of_eq_ok hid, ignore_of_eq_ok hstart, ignore_of_eq_ok hdigest,
      ignore_of_eq_ok hbackend, ignore_of_eq_ok hconsole, ignore_of_eq_ok hdropped, ignore_of_eq_ok helapsed,
      ignore_of_eq_ok hprocessed, ignore_of_eq_ok hmodified, ignore_of_eq_ok hfailed, ignore_of_eq_ok hsamples,
      ignore_of_eq_ok herrors]

end Json

namespace Trace

theorem ofJson_toJson {t : Trace} (h : t.Fits) : ofJson t.toJson = .ok t.readBack := by
  rw [ofJson, Json.decodeTrace_toJson h]

theorem ofJson_toJson_eq_self_iff {t : Trace} (h : t.Fits) :
    ofJson t.toJson = .ok t ↔ ∀ s ∈ t.samples, ∀ c ∈ s.changes, ¬ c.HoldsNull := by
  rw [ofJson_toJson h, Except.ok.injEq, readBack_eq_self_iff]

end Trace

end Sandscript
