import Sandscript.Library.Functions

/-!
# Calls of functions over numbers

Which function a call of the library reaches, for the functions over numbers and arrays whose results are studied.
-/

namespace Sandscript.Library

/-! ### Groups of functions -/

section

variable {α : Type} {name : String} {args : List Value} {f : α → Value} {r : Except String α}

private theorem call?_of_numeric (h : numeric? name args = refused f r) : call? name args = refused f r := by
  unfold call? named?
  rw [h]
  cases r <;> rfl

private theorem call?_of_converted (hnumeric : numeric? name args = none) (h : converted? name args = refused f r) :
    call? name args = refused f r := by
  unfold call? named?
  rw [hnumeric, h]
  cases r <;> rfl

private theorem call?_of_gathered (hnumeric : numeric? name args = none) (hconverted : converted? name args = none)
    (h : gathered? name args = refused f r) : call? name args = refused f r := by
  unfold call? named?
  rw [hnumeric, hconverted, h]
  cases r <;> rfl

/-- The names of the functions over numbers. -/
def numericNames : List String := ["abs", "min", "max", "round", "pow", "sign", "is_zero", "is_odd", "is_even"]

/-- The names of the functions that give a value in another kind. -/
def convertedNames : List String :=
  ["int", "float", "decimal", "str", "bool", "list", "dict", "to_string", "to_debug", "to_hex", "to_octal", "to_binary"]

private theorem numeric?_of_notMem (h : name ∉ numericNames) (args : List Value) : numeric? name args = none := by
  unfold numeric?
  split
  all_goals first | exact absurd (by decide) h | rfl

private theorem converted?_of_notMem (h : name ∉ convertedNames) (args : List Value) : converted? name args = none := by
  unfold converted?
  split
  all_goals first | exact absurd (by decide) h | rfl

end

/-! ### Functions over numbers -/

-- By `rfl` alone the kernel would look inside the magnitude, so the cases are gone through.
theorem call?_abs (n : Int64) : call? "abs" [.int n] = refused .int (abs n) := by
  refine call?_of_numeric ?_
  unfold numeric?
  split
  all_goals simp_all

theorem call?_pow (b e : Int64) : call? "pow" [.int b, .int e] = refused .int (pow b e) := call?_of_numeric rfl

/-! ### Conversions -/

theorem call?_int (v : Value) : call? "int" [v] = refused .int (toInt v) :=
  call?_of_converted (numeric?_of_notMem (by decide) _) rfl

theorem call?_str (v : Value) : call? "str" [v] = refused .str (.ok v.text) :=
  call?_of_converted (numeric?_of_notMem (by decide) _) rfl

theorem call?_decimal (v : Value) : call? "decimal" [v] = refused .dec (toDecimal v) :=
  call?_of_converted (numeric?_of_notMem (by decide) _) rfl

theorem call?_list (v : Value) : call? "list" [v] = refused .arr (toList v) :=
  call?_of_converted (numeric?_of_notMem (by decide) _) rfl

theorem call?_dict (v : Value) : call? "dict" [v] = refused .map (toMap v) :=
  call?_of_converted (numeric?_of_notMem (by decide) _) rfl

/-! ### Functions over arrays -/

/-- The function that gives the smallest, or the largest, of its arguments. -/
def extremeName (smallest : Bool) : String := if smallest then "min" else "max"

theorem call?_extreme (smallest : Bool) (items : List Value) :
    call? (extremeName smallest) [.arr items] =
      refused id (extremeFrom (extremeName smallest) smallest none items) := by
  refine call?_of_numeric ?_
  cases smallest <;> rfl

theorem call?_choose (smallest : Bool) (a b : Int64) :
    call? (extremeName smallest) [.int a, .int b] =
      refused .int (.ok (if smallest then (if b < a then b else a) else (if a < b then b else a))) := by
  refine call?_of_numeric ?_
  cases smallest <;> rfl

theorem call?_sum (items : List Value) : call? "sum" [.arr items] = refused id (sum items) :=
  call?_of_gathered (numeric?_of_notMem (by decide) _) (converted?_of_notMem (by decide) _) rfl

theorem call?_sorted (items : List Value) :
    call? "sorted" [.arr items] = refused .arr (sorted items false) ∧
      ∀ descending, call? "sorted" [.arr items, .bool descending] = refused .arr (sorted items descending) := by
  have hnumeric := numeric?_of_notMem (by decide : "sorted" ∉ numericNames)
  have hconverted := converted?_of_notMem (by decide : "sorted" ∉ convertedNames)
  exact ⟨call?_of_gathered (hnumeric _) (hconverted _) rfl, fun descending =>
    call?_of_gathered (hnumeric _) (hconverted _) rfl⟩

end Sandscript.Library
