import Sandscript.Numeric.Power
import Sandscript.Text.Hex

/-!
# Batch identifiers

A batch identifier is a number of 128 bits.  It is written as five groups of hexadecimal digits; read, it may also
stand without hyphens, in braces or behind `urn:uuid:`.
-/

namespace Sandscript

structure BatchId where
  bits : BitVec 128
deriving DecidableEq, Repr, Inhabited

namespace BatchId

/-- The last digits of a number in base sixteen, with leading zeros. -/
def hexChars (n : Nat) : Nat → List Char
  | 0 => []
  | k + 1 => Text.hexDigit (n / 16 ^ k % 16) :: hexChars n k

def groupLengths : List Nat := [8, 4, 4, 4, 12]

def chars (b : BatchId) : List Char :=
  let ds := hexChars b.bits.toNat 32
  ds.take 8 ++ '-' :: (ds.drop 8).take 4 ++ '-' :: (ds.drop 12).take 4 ++ '-' :: (ds.drop 16).take 4 ++
    '-' :: ds.drop 20

def text (b : BatchId) : String := String.ofList b.chars

/-! ### Reading -/

inductive ReadError where
  | badCharacter (c : Char) (place : Nat)
  | badLength (found : Nat)
  | badGroupCount (found : Nat)
  | badGroup (group : Nat) (expected found : Nat)
deriving DecidableEq, Repr

def ReadError.message : ReadError → String
  | .badCharacter c place =>
    "invalid character: expected an optional prefix of `urn:uuid:` followed by [0-9a-fA-F-], found `" ++
      String.singleton c ++ "` at " ++ toString place
  | .badLength found => "invalid length: expected length 32 for simple format, found " ++ toString found
  | .badGroupCount found => "invalid group count: expected 5, found " ++ toString found
  | .badGroup group expected found =>
    "invalid group length in group " ++ toString group ++ ": expected " ++ toString expected ++ ", found " ++
      toString found

/-- The number with one more digit in base sixteen behind it. -/
def pushDigit? (n : Option Nat) (d : Char) : Option Nat :=
  match n, Text.hexValue? d with
  | some n, some v => some (16 * n + v)
  | _, _ => none

def valueOf (ds : List Char) : Option Nat := ds.foldl pushDigit? (some 0)

def simple? (cs : List Char) : Option Nat := if cs.length = 32 then valueOf cs else none

def hyphenated? (cs : List Char) : Option Nat :=
  if cs.length = 36 ∧ cs[8]? = some '-' ∧ cs[13]? = some '-' ∧ cs[18]? = some '-' ∧ cs[23]? = some '-' then
    let ds := cs.filter (· != '-')
    if ds.length = 32 then valueOf ds else none
  else none

/-- What stands inside the wrapping of an identifier, how many characters the wrapping takes before it, and whether
there is none. -/
def unwrap (cs : List Char) : List Char × Nat × Bool :=
  let urn := "urn:uuid:".toList
  match cs with
  | c :: rest =>
    if c == '\x7b' && rest.getLast? == some '\x7d' then (rest.dropLast, 1, false)
    else if urn.isPrefixOf cs then (cs.drop urn.length, urn.length, false)
    else (cs, 0, true)
  | [] => ([], 0, true)

private def badGroupFrom (total : Nat) : Nat → List Nat → List Nat → ReadError
  | g, [], _ => .badGroup g 12 (total - 24)
  | g, h :: hs, s :: next :: starts =>
    if h + 1 = next then badGroupFrom total (g + 1) hs (next :: starts)
    else .badGroup g ((groupLengths[g]?).getD 12) (h - s)
  | g, _, _ => .badGroup g 12 (total - 24)

private def diagnose (total : Nat) (cs : List Char) (offset : Nat) (isPlain : Bool) : ReadError :=
  match cs.findIdx? fun c => c != '-' && (Text.hexValue? c).isNone with
  | some i => .badCharacter (cs[i]?.getD ' ') ((String.ofList (cs.take i)).utf8ByteSize + offset + 1)
  | none =>
    let hyphens := (cs.zipIdx.filter (·.1 == '-')).map (·.2)
    if hyphens.isEmpty && isPlain then .badLength total
    else if hyphens.length != 4 then .badGroupCount (hyphens.length + 1)
    else badGroupFrom total 0 hyphens [0, 9, 14, 19, 24]

def ofText (s : String) : Except ReadError BatchId :=
  let cs := s.toList
  let (body, offset, isPlain) := unwrap cs
  let value := match hyphenated? body with
    | some n => some n
    | none => if offset = 9 then none else simple? body
  match value with
  | some n => .ok ⟨BitVec.ofNat 128 n⟩
  | none => .error (diagnose s.utf8ByteSize body offset isPlain)

end BatchId

end Sandscript
