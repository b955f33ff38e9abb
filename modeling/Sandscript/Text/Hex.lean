/-!
# Numbers in base sixteen
-/

namespace Sandscript.Text

def hexDigit (n : Nat) : Char := if n < 10 then Char.ofNat (48 + n) else Char.ofNat (87 + n)

/-- The digits of a number, without leading zeros. -/
def hexDigits (n : Nat) : List Char :=
  if n < 16 then [hexDigit n] else hexDigits (n / 16) ++ [hexDigit (n % 16)]
termination_by n

/-- The two digits of a byte. -/
def hexByte (n : Nat) : List Char := [hexDigit (n / 16 % 16), hexDigit (n % 16)]

/-- The value of a digit, in either case. -/
def hexValue? (c : Char) : Option Nat :=
  if '0' ≤ c && c ≤ '9' then some (c.toNat - 48)
  else if 'a' ≤ c && c ≤ 'f' then some (c.toNat - 87)
  else if 'A' ≤ c && c ≤ 'F' then some (c.toNat - 55)
  else none

theorem hexValue?_hexDigit {n : Nat} (h : n < 16) : hexValue? (hexDigit n) = some n :=
  (by decide : ∀ i : Fin 16, hexValue? (hexDigit i) = some i.1) ⟨n, h⟩

theorem hexDigit_ne_of_hexValue? {c : Char} (hc : hexValue? c = none) {n : Nat} (h : n < 16) : hexDigit n ≠ c := by
  rintro rfl
  rw [hexValue?_hexDigit h] at hc
  cases hc

end Sandscript.Text
