import Sandscript.Text.EscapedRanges
import Sandscript.Text.Hex

/-!
# Quoted texts

A text between double quotes, as debugging output shows it.  The quote, the backslash and the usual control
characters have short escapes; what cannot be shown is written by its number in braces.
-/

namespace Sandscript.Text

/-- Characters that a quoted text shows by their number. -/
def isHidden (c : Char) : Bool :=
  let n := c.toNat
  if n < 0x80 then n < 0x20 || n == 0x7F
  else escapedRanges.any fun (a, b) => a ≤ n && n ≤ b

/-- One character inside quotes of the given kind. -/
def escapeChar (quote c : Char) : List Char :=
  if c == quote || c == '\\' then ['\\', c]
  else if c == '\t' then ['\\', 't']
  else if c == '\n' then ['\\', 'n']
  else if c == '\r' then ['\\', 'r']
  else if c.toNat == 0 then ['\\', '0']
  else if isHidden c then ['\\', 'u', '\x7b'] ++ hexDigits c.toNat ++ ['\x7d']
  else [c]

def quoted (s : String) : String :=
  String.ofList ('"' :: s.toList.flatMap (escapeChar '"') ++ ['"'])

def quotedChar (c : Char) : String :=
  let quote := Char.ofNat 39
  String.ofList (quote :: escapeChar quote c ++ [quote])

end Sandscript.Text
