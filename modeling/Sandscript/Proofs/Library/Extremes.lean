import Mathlib
import Sandscript.Proofs.Library.Calls
import Sandscript.Proofs.Numeric.Integers

/-!
# The smallest and the largest integer

Of two integers `min` and `max` give the smaller and the larger one.  Of an array of integers they give the first one
whose floating-point number is that of the smallest or largest integer, and so the integer itself just if no other one
with this number stands in front of it (`extreme_exact`).  From `2 ^ 53` on there are such others
(`extreme_differs_from_fold`).
-/

namespace Sandscript.Library

variable {smallest : Bool} {a b : Int64} {ns : List Int64}

/-- What the exact functions compare: the least rank is that of the smallest, or of the largest, integer. -/
def rank (smallest : Bool) (n : Int64) : Int := if smallest then n.toInt else -n.toInt

/-- What the functions over arrays compare. -/
def floatRank (smallest : Bool) (n : Int64) : Int := if smallest then (toFloat n).key else -(toFloat n).key

private theorem rank_le_iff : rank smallest a ≤ rank smallest b ↔ if smallest then a ≤ b else b ≤ a := by
  unfold rank
  split
  · exact Int64.le_iff_toInt_le.symm
  · rw [Int64.le_iff_toInt_le]
    omega

private theorem floatRank_inj : floatRank smallest a = floatRank smallest b ↔ toFloat a = toFloat b := by
  unfold floatRank
  rw [← key_toFloat_inj]
  split <;> omega

private theorem floatRank_le (h : rank smallest a ≤ rank smallest b) : floatRank smallest a ≤ floatRank smallest b := by
  rw [rank_le_iff] at h
  unfold floatRank
  split
  · rename_i hs
    rw [if_pos hs] at h
    exact key_toFloat_le h
  · rename_i hs
    rw [if_neg hs] at h
    exact Int.neg_le_neg (key_toFloat_le h)

/-! ### Two integers at a time -/

/-- The answer of calling a function on the result so far and on each of some items. -/
def foldCall (name : String) (best : Value) : List Value → Option (Except Fault Value)
  | [] => some (.ok best)
  | v :: rest =>
    match call? name [best, v] with
    | some (.ok next) => foldCall name next rest
    | other => other

private theorem call?_two (smallest : Bool) (a b : Int64) :
    call? (extremeName smallest) [.int a, .int b] =
      some (.ok (.int (if rank smallest b < rank smallest a then b else a))) := by
  rw [call?_choose]
  cases smallest <;> simp [rank, refused, Int64.lt_iff_toInt_lt]

private theorem foldCall_ints (smallest : Bool) (first : Int64) (rest : List Int64) :
    foldCall (extremeName smallest) (.int first) (rest.map .int) =
      ((first :: rest).argmin (rank smallest)).map fun n => .ok (.int n) := by
  change _ = (rest.foldl (List.argAux fun a b => rank smallest a < rank smallest b) (some first)).map _
  induction rest generalizing first with
  | nil => rfl
  | cons n rest ih =>
    rw [List.map_cons, foldCall, call?_two, List.foldl_cons]
    dsimp only [List.argAux]
    rw [ih]
    split <;> rfl

/-! ### Arrays -/

private theorem isBetter_toFloat :
    isBetter smallest (toFloat a) (toFloat b) = decide (floatRank smallest a < floatRank smallest b) := by
  unfold isBetter floatRank Binary64.lt
  rw [isNaN_toFloat, isNaN_toFloat]
  cases smallest <;> simp

/-- The scan over an array of integers keeps the first one of least rank. -/
private theorem extremeFrom_ints (caller : String) (best : Option Int64) :
    extremeFrom caller smallest (best.map fun n => (toFloat n, .int n)) (ns.map .int) =
      match ns.foldl (List.argAux fun a b => floatRank smallest a < floatRank smallest b) best with
      | some n => .ok (.int n)
      | none => .error (caller ++ "() arg is an empty sequence") := by
  induction ns generalizing best with
  | nil => cases best <;> rfl
  | cons n rest ih =>
    rw [List.foldl_cons, ← ih]
    cases best with
    | none => rfl
    | some b =>
      rw [List.map_cons, extremeFrom]
      simp only [number?, Option.map_some, Option.all_some, isBetter_toFloat, decide_eq_true_eq, List.argAux]
      split <;> rfl

private theorem call?_ints {found : Int64} (h : ns.argmin (floatRank smallest) = some found) :
    call? (extremeName smallest) [.arr (ns.map .int)] = some (.ok (.int found)) := by
  have hscan := @extremeFrom_ints smallest ns (extremeName smallest) none
  change ns.foldl (List.argAux fun a b => floatRank smallest a < floatRank smallest b) none = some found at h
  rw [h] at hscan
  rw [call?_extreme]
  exact congrArg (refused id) hscan

/-! ### Both compared -/

private theorem exists_argmin {f : Int64 → Int} (h : ns ≠ []) : ∃ n, ns.argmin f = some n :=
  Option.ne_none_iff_exists'.1 fun hnone => h (List.argmin_eq_none.1 hnone)

/-- An integer that no other one undercuts is found where it stands first. -/
private theorem argmin_cons_of_le {f : Int64 → Int} {n : Int64} {rest : List Int64} (h : ∀ k ∈ n :: rest, f n ≤ f k) :
    (n :: rest).argmin f = some n := by
  refine List.argmin_eq_some_iff.2 ⟨List.mem_cons_self, h, fun k _ _ => ?_⟩
  rw [List.idxOf_cons_self]
  exact Nat.zero_le _

section

variable {exact found : Int64}

/-- The scan over an array finds the number of the exact result. -/
private theorem toFloat_of_argmin (hexact : exact ∈ ns) (hleast : ∀ n ∈ ns, rank smallest exact ≤ rank smallest n)
    (h : ns.argmin (floatRank smallest) = some found) : toFloat found = toFloat exact := by
  obtain ⟨hmem, hle, -⟩ := List.argmin_eq_some_iff.1 h
  exact floatRank_inj.1 (Int.le_antisymm (hle exact hexact) (floatRank_le (hleast found hmem)))

/-- The exact result is found just if no other integer with its number stands in front of it. -/
private theorem found_eq_iff (hexact : exact ∈ ns) (hleast : ∀ n ∈ ns, rank smallest exact ≤ rank smallest n)
    (h : ns.argmin (floatRank smallest) = some found) :
    found = exact ↔ ∀ n ∈ ns, toFloat n = toFloat exact → ns.idxOf exact ≤ ns.idxOf n := by
  obtain ⟨hmem, hle, hfirst⟩ := List.argmin_eq_some_iff.1 h
  have hfloat := toFloat_of_argmin hexact hleast h
  constructor
  · rintro rfl n hn hequal
    exact hfirst n hn (floatRank_inj.2 hequal).le
  · intro hfront
    have hback := hfirst exact hexact (floatRank_inj.2 hfloat.symm).le
    exact (List.idxOf_inj hmem).1 (Nat.le_antisymm hback (hfront found hmem hfloat))

/-- Whatever the order of the integers, the result is the same just if no other integer has the number of the exact
one. -/
private theorem forall_perm_iff (hexact : exact ∈ ns) (hleast : ∀ n ∈ ns, rank smallest exact ≤ rank smallest n)
    (h : ns.argmin (floatRank smallest) = some found) :
    (∀ ms : List Int64, ms.Perm ns →
        call? (extremeName smallest) [.arr (ms.map .int)] = some (.ok (.int found))) ↔
      ∀ n ∈ ns, toFloat n = toFloat exact → n = exact := by
  have hfloat := toFloat_of_argmin hexact hleast h
  constructor
  · intro hsame
    -- whichever integer with this number is put in front, it is the result
    have hfront (n : Int64) (hn : n ∈ ns) (hequal : toFloat n = toFloat exact) : n = found := by
      have hperm : (n :: ns.erase n).Perm ns := (List.perm_cons_erase hn).symm
      have hargmin : (n :: ns.erase n).argmin (floatRank smallest) = some n := by
        refine argmin_cons_of_le fun k hk => ?_
        rw [floatRank_inj.2 hequal]
        exact floatRank_le (hleast k (hperm.mem_iff.1 hk))
      have hcall := (call?_ints hargmin).symm.trans (hsame _ hperm)
      simpa using hcall
    intro n hn hequal
    rw [hfront n hn hequal, hfront exact hexact rfl]
  · intro hunique ms hperm
    have hms : ms ≠ [] := fun hnil => List.ne_nil_of_mem hexact (List.nil_perm.1 (hnil ▸ hperm))
    obtain ⟨other, hother⟩ := exists_argmin (f := floatRank smallest) hms
    have hotherfloat := toFloat_of_argmin (hperm.mem_iff.2 hexact)
      (fun n hn => hleast n (hperm.mem_iff.1 hn)) hother
    have hothermem := hperm.mem_iff.1 (List.argmin_eq_some_iff.1 hother).1
    rw [call?_ints hother, hunique other hothermem hotherfloat,
      hunique found (List.argmin_eq_some_iff.1 h).1 hfloat]

end

/-- What `min` and `max` find in an array of integers: one with the floating-point number of the exact result, which is
what folding the function over the integers gives.  It is the exact result just if no other integer with this number
stands in front of it, it is the same in every order of the integers just if there is no other one, and so it is if the
exact result is below `2 ^ 53`, whatever its sign. -/
theorem extreme_exact (smallest : Bool) (first : Int64) (rest : List Int64) :
    ∃ exact found, exact ∈ first :: rest ∧ (∀ n ∈ first :: rest, if smallest then exact ≤ n else n ≤ exact) ∧
      foldCall (extremeName smallest) (.int first) (rest.map .int) = some (.ok (.int exact)) ∧
      call? (extremeName smallest) [.arr ((first :: rest).map .int)] = some (.ok (.int found)) ∧
      found ∈ first :: rest ∧ toFloat found = toFloat exact ∧
      (found = exact ↔ ∀ n ∈ first :: rest, toFloat n = toFloat exact →
        (first :: rest).idxOf exact ≤ (first :: rest).idxOf n) ∧
      ((∀ ns : List Int64, ns.Perm (first :: rest) →
          call? (extremeName smallest) [.arr (ns.map .int)] = some (.ok (.int found))) ↔
        ∀ n ∈ first :: rest, toFloat n = toFloat exact → n = exact) ∧
      (exact.toInt.natAbs < 2 ^ 53 → found = exact ∧ ∀ ns : List Int64, ns.Perm (first :: rest) →
        call? (extremeName smallest) [.arr (ns.map .int)] = some (.ok (.int exact))) := by
  obtain ⟨exact, hargmin⟩ := exists_argmin (f := rank smallest) (List.cons_ne_nil first rest)
  obtain ⟨found, hfound⟩ := exists_argmin (f := floatRank smallest) (List.cons_ne_nil first rest)
  obtain ⟨hexact, hleast, -⟩ := List.argmin_eq_some_iff.1 hargmin
  have hfloat := toFloat_of_argmin hexact hleast hfound
  have horder := forall_perm_iff hexact hleast hfound
  refine ⟨exact, found, hexact, fun n hn => rank_le_iff.1 (hleast n hn), ?_, call?_ints hfound,
    (List.argmin_eq_some_iff.1 hfound).1, hfloat, found_eq_iff hexact hleast hfound, horder, fun hsmall => ?_⟩
  · rw [foldCall_ints, hargmin]
    rfl
  · have hunique : found = exact := (eq_of_toFloat_eq hfloat.symm hsmall).symm
    rw [← hunique] at horder hsmall ⊢
    exact ⟨rfl, horder.2 fun n _ hequal => (eq_of_toFloat_eq hequal.symm hsmall).symm⟩

/-- The smallest of three integers is below `2 ^ 53`, the other two are the greatest of all and one that shares its
number. -/
theorem extreme_exact_of_limits :
    call? "min" [.arr [.int 9223372036854775807, .int (-9007199254740991), .int 9007199254740993]] =
        some (.ok (.int (-9007199254740991))) ∧
      foldCall "min" (.int 9223372036854775807) [.int (-9007199254740991), .int 9007199254740993] =
        some (.ok (.int (-9007199254740991))) := by
  obtain ⟨exact, found, hmem, hleast, hfold, hcall, -, -, -, -, hsmall⟩ :=
    extreme_exact true 9223372036854775807 [-9007199254740991, 9007199254740993]
  have hexact : exact = -9007199254740991 := by
    have hle : exact ≤ -9007199254740991 := hleast _ (List.mem_cons_of_mem _ List.mem_cons_self)
    simp only [List.mem_cons, List.not_mem_nil, or_false] at hmem
    rcases hmem with rfl | rfl | rfl
    · exact absurd hle (by decide)
    · rfl
    · exact absurd hle (by decide)
  subst hexact
  obtain ⟨rfl, -⟩ := hsmall (by decide)
  exact ⟨hcall, hfold⟩

/-- Of two integers with the same number the first one is taken for the smallest, although the second one is smaller,
and the order of the two makes a difference. -/
theorem extreme_differs_from_fold :
    call? "min" [.arr [.int 9007199254740993, .int 9007199254740992]] = some (.ok (.int 9007199254740993)) ∧
      call? "min" [.arr [.int 9007199254740992, .int 9007199254740993]] = some (.ok (.int 9007199254740992)) ∧
      foldCall "min" (.int 9007199254740993) [.int 9007199254740992] = some (.ok (.int 9007199254740992)) := by
  have hgreater : ([9007199254740993, 9007199254740992] : List Int64).argmin (floatRank true) =
      some 9007199254740993 := by decide +kernel
  have hsmaller : ([9007199254740992, 9007199254740993] : List Int64).argmin (floatRank true) =
      some 9007199254740992 := by decide +kernel
  exact ⟨call?_ints hgreater, call?_ints hsmaller, foldCall_ints true 9007199254740993 [9007199254740992]⟩

end Sandscript.Library
