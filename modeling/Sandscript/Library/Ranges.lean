import Sandscript.Library.Slice
import Sandscript.Run.Fault

/-!
# Ranges and bits

The functions of the library that make ranges and series of numbers and of the bits of an integer, and what a range
says of itself.
-/

namespace Sandscript.Library.Ranges

/-- What a range has under a name. -/
def property? (name : String) (lo hi : Int64) (inclusive : Bool) : Option Value :=
  match name with
  | "start" => some (.int lo)
  | "end" => some (.int hi)
  | "is_inclusive" => some (.bool inclusive)
  | "is_exclusive" => some (.bool !inclusive)
  | "is_empty" => some (.bool (if inclusive then hi < lo else hi ≤ lo))
  | _ => none

private def stepped {α : Type} (s : Stepping α) (series : StepRange α → Series) (next stop step : α) :
    Except Fault Value :=
  match StepRange.of? s next stop step with
  | some r => .ok (.series (series r))
  | none => .error (.inCall "range" false (.arithmetic .zeroStep) .none)

/-- The bits of an integer as a series. -/
def bitsOf (n : Int64) : Value := .series (.bits ((List.range 64).map (Numeric.bit n)))

private def bitsFrom (n : Int64) (start count : Int) : Except Fault Value :=
  match Slice.place? 64 start with
  | some k => .ok (.series (.bits ((List.range' k (min count.toNat (64 - k))).map (Numeric.bit n))))
  | none => .error (.outOfBounds .bits 64 start)

/-- The ranges and series that a call makes. -/
def made? (name : String) (args : List Value) : Option (Except Fault Value) :=
  match name, args with
  | "range", [.int lo, .int hi] => some (.ok (.range lo hi))
  | "range", [.int next, .int stop, .int step] => some (stepped .integers .integers next stop step)
  | "range", [.range next stop, .int step] => some (stepped .integers .integers next stop step)
  | "range", [.float next, .float stop, .float step] => some (stepped .floats .floats next stop step)
  | "range", [.dec next, .dec stop, .dec step] => some (stepped .decimals .decimals next stop step)
  | "bits", [.int n] => some (.ok (bitsOf n))
  | "bits", [.int n, .int start] => some (bitsFrom n start.toInt 64)
  | "bits", .int n :: window => (Slice.window? window).map fun (start, count) => bitsFrom n start count
  | _, _ => none

/-- A call on a range. -/
def told? (name : String) (lo hi : Int64) (inclusive : Bool) (args : List Value) : Option Value :=
  match name, args with
  | "contains", [.int n] => some (.bool (lo ≤ n && (if inclusive then n ≤ hi else n < hi)))
  | name, [] => property? name lo hi inclusive
  | _, _ => none

def call? (name : String) (args : List Value) : Option (Except Fault Value) :=
  made? name args <|>
    match args with
    | .range lo hi :: rest => (told? name lo hi false rest).map .ok
    | .rangeIncl lo hi :: rest => (told? name lo hi true rest).map .ok
    | _ => none

end Sandscript.Library.Ranges
