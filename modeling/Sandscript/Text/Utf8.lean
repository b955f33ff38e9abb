/-!
# Bytes as text

Bytes are read as UTF-8.  Bytes that begin a character but do not end it, and bytes that can begin none, are read as
the replacement character: one for each longest run that could still have become a character.
-/

namespace Sandscript.Text.Utf8

def replacement : Char := Char.ofNat 0xFFFD

/-- A character of which bytes are still to come: how many, between which bounds the next one lies, and the bits so
far. -/
private structure Pending where
  owed : Nat
  low : Nat := 0x80
  high : Nat := 0xBF
  value : Nat

/-- What a first byte begins. -/
private inductive Lead where
  | whole (c : Char)
  | pending (p : Pending)
  | invalid

private def Lead.ofByte (b : Nat) : Lead :=
  if b ≤ 0x7F then .whole (Char.ofNat b)
  else if b < 0xC2 then .invalid
  else if b ≤ 0xDF then .pending { owed := 1, value := b - 0xC0 }
  else if b = 0xE0 then .pending { owed := 2, low := 0xA0, value := 0 }
  else if b = 0xED then .pending { owed := 2, high := 0x9F, value := 0xD }
  else if b ≤ 0xEF then .pending { owed := 2, value := b - 0xE0 }
  else if b = 0xF0 then .pending { owed := 3, low := 0x90, value := 0 }
  else if b ≤ 0xF3 then .pending { owed := 3, value := b - 0xF0 }
  else if b = 0xF4 then .pending { owed := 3, high := 0x8F, value := 4 }
  else .invalid

private def decodeFrom : Option Pending → List UInt8 → List Char
  | none, [] => []
  | some _, [] => [replacement]
  | state, byte :: rest =>
    let b := byte.toNat
    let begin (before : List Char) : List Char :=
      match Lead.ofByte b with
      | .whole c => before ++ c :: decodeFrom none rest
      | .pending p => before ++ decodeFrom (some p) rest
      | .invalid => before ++ replacement :: decodeFrom none rest
    match state with
    | none => begin []
    | some p =>
      if p.low ≤ b && b ≤ p.high then
        let value := 64 * p.value + (b - 0x80)
        if p.owed ≤ 1 then Char.ofNat value :: decodeFrom none rest
        else decodeFrom (some { owed := p.owed - 1, value }) rest
      else begin [replacement]

/-- The characters that bytes stand for. -/
def decode (bytes : List UInt8) : List Char := decodeFrom none bytes

end Sandscript.Text.Utf8
