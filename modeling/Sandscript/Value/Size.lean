import Sandscript.Policy.Basic
import Sandscript.Run.Fault

/-!
# The size of values

A value is measured with all its parts: the items of its arrays and blobs, the entries of its maps, the bytes of its
strings.  A limit of zero is no limit.
-/

namespace Sandscript

structure Size where
  items : Nat := 0
  entries : Nat := 0
  bytes : Nat := 0
deriving DecidableEq, Repr

namespace Size

instance : Add Size := ⟨fun a b => ⟨a.items + b.items, a.entries + b.entries, a.bytes + b.bytes⟩⟩

def passes (n : Nat) (limit : UInt64) : Bool := limit != 0 && limit.toNat < n

/-- What is too large, if something is. -/
def excess? (s : Size) (g : Guards) : Option Measured :=
  if passes s.bytes g.maxStringBytes then some .text
  else if passes s.items g.maxArrayLen then some .items
  else if passes s.entries g.maxMapLen then some .entries
  else none

end Size

namespace Value

mutual

def size : Value → Size
  | str s => { bytes := s.utf8ByteSize }
  | arr items => sizeOfItems items
  | map entries => sizeOfEntries entries
  | blob bytes => { items := bytes.length }
  | unit | bool _ | int _ | float _ | dec _ | char _ | fn _ _ | range _ _ | rangeIncl _ _ | series _ => {}

def sizeOfItems : List Value → Size
  | [] => {}
  | v :: rest => { items := 1 } + v.size + sizeOfItems rest

def sizeOfEntries : List (String × Value) → Size
  | [] => {}
  | (_, v) :: rest => { entries := 1 } + v.size + sizeOfEntries rest

end

end Value

end Sandscript
