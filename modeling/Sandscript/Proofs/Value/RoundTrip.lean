import Sandscript.Proofs.Value.Leaves

/-!
# Values from JSON

A JSON value that becomes a script value can be taken back as it was (`Json.toJson_toValue`): whole numbers beyond 64
bits with a sign come back from the decimals that they became, and everything else keeps its kind.
-/

namespace Sandscript

/-! ### Whole numbers -/

/-- A decimal that stands for a natural number has it for its JSON form. -/
private theorem Decimal.toJson_of_ofNat? {n : Nat} {d : Decimal} (h : Decimal.ofNat? n = some d)
    (hrange : -(2 ^ 63) ≤ (n : Int) ∧ (n : Int) < 2 ^ 64) : d.toJson = .num (.int n hrange) := by
  unfold ofNat? ofParts? at h
  split at h
  · cases h
    have hwhole (hc hs) : (⟨false, n, 0, hc, hs⟩ : Decimal).isWhole = true := by simp [isWhole, Nat.mod_one]
    have htruncated (hc hs) : (⟨false, n, 0, hc, hs⟩ : Decimal).truncated = n := by simp [truncated]
    simp only [Bool.false_and, toJson, hwhole, htruncated, if_true, Json.ofInt?, JsonNumber.ofInt?, dif_pos hrange,
      Option.map_some]
  · cases h

namespace Json

private theorem toJsonAt_ofInteger (path : String) {n : Int} (h : -(2 ^ 63) ≤ n ∧ n < 2 ^ 64) :
    (ofInteger n).toJsonAt path = .ok (.num (.int n h)) := by
  unfold ofInteger
  split
  · rename_i hword
    have hn : (Int64.ofInt n).toInt = n := Int64.toInt_ofInt_of_le (by omega) (by omega)
    simp only [Value.toJsonAt, JsonNumber.ofInt64, hn]
  · rename_i hword
    -- the number has no sign, and a decimal has room for it
    obtain ⟨m, rfl⟩ := Int.eq_ofNat_of_zero_le (show 0 ≤ n by omega)
    have hdecimal : Decimal.ofNat? m = some ⟨false, m, 0, by omega, by decide⟩ := by
      rw [Decimal.ofNat?, Decimal.ofParts?, dif_pos ⟨by omega, by decide⟩]
      rfl
    have hjson := Decimal.toJson_of_ofNat? hdecimal h
    simp only [Int.toNat_natCast, hdecimal, Option.getD_some, Value.toJsonAt, hjson]

/-! ### All values -/

mutual

private theorem toJsonAt_toValue (path : String) : (v : Json) → v.toValue.toJsonAt path = .ok v
  | null | bool _ | str _ => rfl
  | num (.int n h) => toJsonAt_ofInteger path h
  | num (.float x h) => by rw [toValue, Value.toJsonAt, JsonNumber.ofBinary64?, dif_pos h]
  | arr items => by rw [toValue, Value.toJsonAt, itemsToJson_toValues path 0 items]
  | obj fields => by rw [toValue, Value.toJsonAt, entriesToJson_toEntries path fields]

private theorem itemsToJson_toValues (path : String) (index : Nat) :
    (items : List Json) → Value.itemsToJson path index (toValues items) = .ok items
  | [] => rfl
  | v :: rest => by
    rw [toValues, Value.itemsToJson, toJsonAt_toValue (Value.itemPath path index) v]
    dsimp only
    rw [itemsToJson_toValues path (index + 1) rest]

theorem entriesToJson_toEntries (path : String) :
    (fields : List (String × Json)) → Value.entriesToJson path (toEntries fields) = .ok fields
  | [] => rfl
  | (key, v) :: rest => by
    rw [toEntries, Value.entriesToJson, toJsonAt_toValue (Value.entryPath path key) v]
    dsimp only
    rw [entriesToJson_toEntries path rest]

end

theorem toJson_toValue (v : Json) : v.toValue.toJson = .ok v := toJsonAt_toValue "" v

end Json

/-! ### Equality -/

private theorem Binary64.eqv_self {x : Binary64} (h : x.isFinite = true) : x.eqv x = true := by
  have hnumber : x.isNaN = false := by
    unfold isFinite at h
    unfold isNaN
    rw [decide_eq_true_eq] at h
    rw [decide_eq_false_iff_not]
    omega
  rw [eqv, hnumber, beq_self_eq_true]
  rfl

namespace Json

mutual

/-- Every value equals itself. -/
theorem eqv_self : (v : Json) → v.eqv v = true
  | null => rfl
  | bool b => beq_self_eq_true b
  | num (.int n _) => beq_self_eq_true n
  | num (.float _ h) => Binary64.eqv_self h
  | str s => beq_self_eq_true s
  | arr items => eqvItems_self items
  | obj fields => eqvFields_self fields

private theorem eqvItems_self : (items : List Json) → eqvItems items items = true
  | [] => rfl
  | v :: rest => by rw [eqvItems, eqv_self v, eqvItems_self rest]; rfl

private theorem eqvFields_self : (fields : List (String × Json)) → eqvFields fields fields = true
  | [] => rfl
  | (key, v) :: rest => by rw [eqvFields, beq_self_eq_true, eqv_self v, eqvFields_self rest]; rfl

end

end Json

end Sandscript
