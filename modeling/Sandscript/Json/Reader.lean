import Sandscript.Json.Basic
import Sandscript.Text.Hex

/-!
# Reading JSON

A reader works on a cursor: the characters that are left and the place of the next one.  Lines are counted from one;
the column is the number of bytes of the line already read.  An error that complains about the next character is placed
behind it, any other where the reader stands.

Arrays and objects may be nested 127 deep.  Of several fields with one name the last wins.
-/

namespace Sandscript

namespace Json

/-! ### Errors -/

inductive ReadErrorKind where
  | eofInList
  | eofInObject
  | eofInString
  | eofInValue
  | expectedColon
  | expectedListCommaOrEnd
  | expectedObjectCommaOrEnd
  | expectedIdent
  | expectedValue
  | invalidEscape
  | invalidNumber
  | numberOutOfRange
  | controlCharacter
  | keyMustBeString
  | loneSurrogate
  | trailingComma
  | trailingCharacters
  | endOfHexEscape
  | tooDeep
deriving DecidableEq, Repr

def ReadErrorKind.message : ReadErrorKind → String
  | .eofInList => "EOF while parsing a list"
  | .eofInObject => "EOF while parsing an object"
  | .eofInString => "EOF while parsing a string"
  | .eofInValue => "EOF while parsing a value"
  | .expectedColon => "expected `:`"
  | .expectedListCommaOrEnd => "expected `,` or `]`"
  | .expectedObjectCommaOrEnd => "expected `,` or `\x7d`"
  | .expectedIdent => "expected ident"
  | .expectedValue => "expected value"
  | .invalidEscape => "invalid escape"
  | .invalidNumber => "invalid number"
  | .numberOutOfRange => "number out of range"
  | .controlCharacter => "control character (\\u0000-\\u001F) found while parsing a string"
  | .keyMustBeString => "key must be a string"
  | .loneSurrogate => "lone leading surrogate in hex escape"
  | .trailingComma => "trailing comma"
  | .trailingCharacters => "trailing characters"
  | .endOfHexEscape => "unexpected end of hex escape"
  | .tooDeep => "recursion limit exceeded"

structure ReadError where
  kind : ReadErrorKind
  line : Nat
  column : Nat
deriving DecidableEq, Repr

def ReadError.message (e : ReadError) : String :=
  e.kind.message ++ " at line " ++ toString e.line ++ " column " ++ toString e.column

/-! ### Cursors -/

structure Cursor where
  rest : List Char
  line : Nat := 1
  column : Nat := 0

namespace Cursor

def ofText (s : String) : Cursor := { rest := s.toList }

/-- Behind the next character. -/
def next (c : Cursor) : Cursor :=
  match c.rest with
  | [] => c
  | '\n' :: r => { rest := r, line := c.line + 1, column := 0 }
  | x :: r => { c with rest := r, column := c.column + x.utf8Size }

def fail {α : Type} (c : Cursor) (kind : ReadErrorKind) : Except ReadError α := .error ⟨kind, c.line, c.column⟩

/-- Complains about the next character: the place is that of its first byte's end. -/
def failAtNext {α : Type} (c : Cursor) (kind : ReadErrorKind) : Except ReadError α :=
  match c.rest with
  | [] => .error ⟨kind, c.line, c.column⟩
  | '\n' :: _ => .error ⟨kind, c.line + 1, 0⟩
  | _ :: _ => .error ⟨kind, c.line, c.column + 1⟩

def skipFrom (line column : Nat) : List Char → Cursor
  | [] => ⟨[], line, column⟩
  | x :: r =>
    if x == '\n' then skipFrom (line + 1) 0 r
    else if x == ' ' || x == '\t' || x == '\r' then skipFrom line (column + 1) r
    else ⟨x :: r, line, column⟩

def skipSpace (c : Cursor) : Cursor := skipFrom c.line c.column c.rest

end Cursor

/-! ### Numbers -/

def ten (n : Nat) : Binary64 := .ofScaled false 1 n

/-- Multiplies or divides by a power of ten, in one step or by `1e308` at a time. -/
def scaleBy : Nat → Binary64 → Int → Option Binary64
  | 0, x, _ => some x
  | k + 1, x, e =>
    if e.natAbs ≤ 308 then
      if 0 ≤ e then
        let y := x.mul (ten e.natAbs)
        if y.isInfinite then none else some y
      else some (x.div (ten e.natAbs))
    else if x.isZero then some x
    else if 0 ≤ e then none
    else scaleBy k (x.div (ten 308)) (e + 308)

/-- The number `± significand · 10 ^ exponent`, computed in floating point from the significand. -/
def floatOfParts (negative : Bool) (significand : Nat) (exponent : Int) : Option Binary64 :=
  (scaleBy (exponent.natAbs / 308 + 2) (.ofInt significand) exponent).map fun x => if negative then x.neg else x

def finishFloat (c : Cursor) (negative : Bool) (significand : Nat) (exponent : Int) :
    Except ReadError (JsonNumber × Cursor) :=
  match (floatOfParts negative significand exponent).bind JsonNumber.ofBinary64? with
  | some n => .ok (n, c)
  | none => c.fail .numberOutOfRange

def maxSignificand : Nat := 2 ^ 64 - 1

/-- The digits at the cursor and what follows them. -/
def takeDigits (c : Cursor) : List Char × Cursor :=
  let ds := c.rest.takeWhile Char.isDigit
  (ds, { c with rest := c.rest.dropWhile Char.isDigit, column := c.column + ds.length })

/-- Appends digits to a significand while it stays below `2 ^ 64`; the digits that did not fit remain. -/
def accumulate (significand : Nat) : List Char → Nat × List Char
  | [] => (significand, [])
  | d :: ds =>
    let next := 10 * significand + Numeric.digitValue d
    if maxSignificand < next then (significand, d :: ds) else accumulate next ds

def maxExponent : Nat := 2 ^ 31 - 1

/-- Whether an exponent is negative; the sign at the cursor is skipped. -/
def takeSign (c : Cursor) : Bool × Cursor :=
  match c.rest with
  | '+' :: _ => (false, c.next)
  | '-' :: _ => (true, c.next)
  | _ => (false, c)

/-- The significand and the exponent of a number whose own exponent has the digits `ds`.  There are none if it is too
large. -/
def withExponent (significand : Nat) (exponent : Int) (down : Bool) (ds : List Char) : Option (Nat × Int) :=
  let e := Numeric.ofDigits ds
  if maxExponent < e then if significand != 0 && !down then none else some (0, 0)
  else some (significand, if down then exponent - e else exponent + e)

/-- The digits of an exponent, which goes `down` if it is negative. -/
def readExponentDigits (c : Cursor) (down negative : Bool) (significand : Nat) (exponent : Int) :
    Except ReadError (JsonNumber × Cursor) :=
  match c.rest with
  | [] => c.fail .eofInValue
  | d :: _ =>
    if !d.isDigit then c.failAtNext .invalidNumber
    else
      let (ds, after) := takeDigits c
      match withExponent significand exponent down ds with
      | some (significand, exponent) => finishFloat after negative significand exponent
      | none =>
        let read := (ds.foldl (fun (p : Nat × Nat) d =>
          if maxExponent < p.1 then p else (10 * p.1 + Numeric.digitValue d, p.2 + 1)) (0, 0)).2
        ({ c with column := c.column + read } : Cursor).fail .numberOutOfRange

/-- The exponent of a number; the cursor stands on its `e`. -/
def readExponent (c : Cursor) (negative : Bool) (significand : Nat) (exponent : Int) :
    Except ReadError (JsonNumber × Cursor) :=
  let (down, c) := takeSign c.next
  readExponentDigits c down negative significand exponent

def readExponentOrEnd (c : Cursor) (negative : Bool) (significand : Nat) (exponent : Int) :
    Except ReadError (JsonNumber × Cursor) :=
  match c.rest with
  | 'e' :: _ => readExponent c negative significand exponent
  | 'E' :: _ => readExponent c negative significand exponent
  | _ => finishFloat c negative significand exponent

/-- The places of a number; the cursor stands on its point. -/
def readPlaces (c : Cursor) (negative : Bool) (significand : Nat) (exponent : Int) :
    Except ReadError (JsonNumber × Cursor) :=
  let c := c.next
  let (ds, after) := takeDigits c
  match ds with
  | [] => c.failAtNext (if c.rest.isEmpty then .eofInValue else .invalidNumber)
  | _ =>
    let (s, unread) := accumulate significand ds
    readExponentOrEnd after negative s (exponent - (ds.length - unread.length : Nat))

/-- The rest of a number whose integer digits are read; `exponent` counts those that did not fit. -/
def readFraction (c : Cursor) (negative : Bool) (significand : Nat) (exponent : Nat) :
    Except ReadError (JsonNumber × Cursor) :=
  match c.rest with
  | '.' :: _ => readPlaces c negative significand exponent
  | _ => readExponentOrEnd c negative significand exponent

def finishInt (c : Cursor) (negative : Bool) (significand : Nat) : Except ReadError (JsonNumber × Cursor) :=
  if negative then
    if significand = 0 ∨ 2 ^ 63 < significand then finishFloat c true significand 0
    else
      match JsonNumber.ofInt? (-significand) with
      | some n => .ok (n, c)
      | none => finishFloat c true significand 0
  else
    match JsonNumber.ofInt? significand with
    | some n => .ok (n, c)
    | none => finishFloat c false significand 0

/-- Whether a number goes on behind its integer digits. -/
def goesOn : List Char → Bool
  | [] => false
  | x :: _ => x == '.' || x == 'e' || x == 'E'

/-- A number whose integer digits are `ds`; the cursor stands behind them. -/
def finishNumber (c : Cursor) (negative : Bool) (ds : List Char) : Except ReadError (JsonNumber × Cursor) :=
  let (significand, unread) := accumulate 0 ds
  if unread.isEmpty && !goesOn c.rest then finishInt c negative significand
  else readFraction c negative significand unread.length

/-- A number without its sign. -/
def readNumber (c : Cursor) (negative : Bool) : Except ReadError (JsonNumber × Cursor) :=
  match c.rest with
  | [] => c.fail .eofInValue
  | d :: _ =>
    if !d.isDigit then c.failAtNext .invalidNumber
    else
      let (ds, after) := takeDigits c
      match ds with
      | '0' :: _ :: _ => c.next.failAtNext .invalidNumber
      | _ => finishNumber after negative ds

/-! ### Strings -/

/-- Moves a place over `n` bytes. -/
def advanceBytes : Nat → Cursor → Cursor
  | 0, c => c
  | n + 1, c =>
    match c.rest with
    | [] => c
    | x :: _ =>
      if x.utf8Size ≤ n + 1 then advanceBytes (n + 1 - x.utf8Size) c.next
      else { c with rest := [], column := c.column + (n + 1) }
termination_by n => n
decreasing_by have := x.utf8Size_pos; omega

def bytesLeft (cs : List Char) : Nat := (String.ofList cs).utf8ByteSize

/-- Four digits in base sixteen. -/
def readHex (c : Cursor) : Except ReadError (Nat × Cursor) :=
  if bytesLeft (c.rest.take 4) < 4 then (advanceBytes 4 c).fail .eofInString
  else
    match c.rest with
    | a :: b :: d :: e :: _ =>
      match Text.hexValue? a, Text.hexValue? b, Text.hexValue? d, Text.hexValue? e with
      | some a, some b, some d, some e => .ok (((a * 16 + b) * 16 + d) * 16 + e, advanceBytes 4 c)
      | _, _, _, _ => (advanceBytes 4 c).fail .invalidEscape
    | _ => (advanceBytes 4 c).fail .invalidEscape

/-- The second half of a surrogate pair. -/
def readLowSurrogate (high : Nat) (c : Cursor) : Except ReadError (Char × Cursor) :=
  match c.rest with
  | [] => c.fail .eofInString
  | '\\' :: 'u' :: _ => do
    let (low, c) ← readHex c.next.next
    if low < 0xDC00 || 0xDFFF < low then c.fail .loneSurrogate
    else .ok (Char.ofNat ((high - 0xD800) * 0x400 + (low - 0xDC00) + 0x10000), c)
  | ['\\'] => c.next.fail .eofInString
  | '\\' :: _ => (advanceBytes 1 c.next).fail .endOfHexEscape
  | _ :: _ => (advanceBytes 1 c).fail .endOfHexEscape

/-- The character behind a backslash. -/
def readEscape (c : Cursor) : Except ReadError (Char × Cursor) :=
  match c.rest with
  | [] => c.fail .eofInString
  | x :: _ =>
    match x with
    | '"' => .ok ('"', c.next)
    | '\\' => .ok ('\\', c.next)
    | '/' => .ok ('/', c.next)
    | 'b' => .ok (Char.ofNat 8, c.next)
    | 'f' => .ok (Char.ofNat 12, c.next)
    | 'n' => .ok ('\n', c.next)
    | 'r' => .ok ('\r', c.next)
    | 't' => .ok ('\t', c.next)
    | 'u' => do
      let (n, c) ← readHex c.next
      if 0xDC00 ≤ n && n ≤ 0xDFFF then c.fail .loneSurrogate
      else if n < 0xD800 || 0xDBFF < n then .ok (Char.ofNat n, c)
      else readLowSurrogate n c
    | _ => (advanceBytes 1 c).fail .invalidEscape

/-- The rest of a string behind its opening quote; `read` holds its characters, last first. -/
def readStringFrom : Nat → List Char → Cursor → Except ReadError (String × Cursor)
  | 0, _, c => c.fail .eofInString
  | fuel + 1, read, c =>
    match c.rest with
    | [] => c.fail .eofInString
    | '"' :: _ => .ok (String.ofList read.reverse, c.next)
    | '\\' :: _ => do
      let (x, c) ← readEscape c.next
      readStringFrom fuel (x :: read) c
    | x :: _ => if x.toNat < 32 then c.next.fail .controlCharacter else readStringFrom fuel (x :: read) c.next

def readString (c : Cursor) : Except ReadError (String × Cursor) :=
  readStringFrom (c.rest.length + 1) [] c.next

/-! ### Values -/

def readWord (c : Cursor) (word : List Char) (v : Json) : Except ReadError (Json × Cursor) :=
  match word with
  | [] => .ok (v, c)
  | w :: ws =>
    match c.rest with
    | [] => c.fail .eofInValue
    | x :: _ => if x == w then readWord c.next ws v else (advanceBytes 1 c).fail .expectedIdent

/-- What a comma inside a container has to be followed by. -/
def afterComma (c : Cursor) (close : Char) : Except ReadError Cursor :=
  let c := c.next.skipSpace
  match c.rest with
  | [] => c.failAtNext .eofInValue
  | x :: _ => if x == close then c.failAtNext .trailingComma else .ok c

/-- The colon behind a key. -/
def readColon (c : Cursor) : Except ReadError Cursor :=
  let c := c.skipSpace
  match c.rest with
  | [] => c.failAtNext .eofInObject
  | ':' :: _ => .ok c.next
  | _ => c.failAtNext .expectedColon

mutual

/-- A value; `depth` is how many more brackets may be opened. -/
def readValue : Nat → Nat → Cursor → Except ReadError (Json × Cursor)
  | 0, _, c => c.fail .eofInValue
  | fuel + 1, depth, c =>
    let c := c.skipSpace
    match c.rest with
    | [] => c.failAtNext .eofInValue
    | 'n' :: _ => readWord c.next "ull".toList null
    | 't' :: _ => readWord c.next "rue".toList (bool true)
    | 'f' :: _ => readWord c.next "alse".toList (bool false)
    | '-' :: _ => do
      let (n, c) ← readNumber c.next true
      .ok (num n, c)
    | '"' :: _ => do
      let (s, c) ← readString c
      .ok (str s, c)
    | '[' :: _ => if depth ≤ 1 then c.failAtNext .tooDeep else readItems fuel (depth - 1) true [] c.next
    | '\x7b' :: _ => if depth ≤ 1 then c.failAtNext .tooDeep else readFields fuel (depth - 1) true [] c.next
    | x :: _ =>
      if x.isDigit then do
        let (n, c) ← readNumber c false
        .ok (num n, c)
      else c.failAtNext .expectedValue

/-- The rest of an array; `read` holds its items, last first. -/
def readItems : Nat → Nat → Bool → List Json → Cursor → Except ReadError (Json × Cursor)
  | 0, _, _, _, c => c.fail .eofInList
  | fuel + 1, depth, first, read, c =>
    let c := c.skipSpace
    match c.rest with
    | [] => c.failAtNext .eofInList
    | ']' :: _ => .ok (arr read.reverse, c.next)
    | x :: _ => do
      let c ← if first then .ok c else if x == ',' then afterComma c ']' else c.failAtNext .expectedListCommaOrEnd
      let (v, c) ← readValue fuel depth c
      readItems fuel depth false (v :: read) c

/-- The rest of an object. -/
def readFields : Nat → Nat → Bool → List (String × Json) → Cursor → Except ReadError (Json × Cursor)
  | 0, _, _, _, c => c.fail .eofInObject
  | fuel + 1, depth, first, read, c =>
    let c := c.skipSpace
    match c.rest with
    | [] => c.failAtNext .eofInObject
    | '\x7d' :: _ => .ok (obj read, c.next)
    | x :: _ => do
      let c ← if first then .ok c else if x == ',' then afterComma c '\x7d' else c.failAtNext .expectedObjectCommaOrEnd
      match c.rest with
      | '"' :: _ =>
        let (k, c) ← readString c
        let c ← readColon c
        let (v, c) ← readValue fuel depth c
        readFields fuel depth false (Fields.insert k v read) c
      | _ => c.failAtNext .keyMustBeString

end

def maxDepth : Nat := 128

/-- Reads the one value of a text. -/
def read (s : String) : Except ReadError Json := do
  let c := Cursor.ofText s
  let (v, c) ← readValue (2 * c.rest.length + 2) maxDepth c
  let c := c.skipSpace
  match c.rest with
  | [] => .ok v
  | _ => c.failAtNext .trailingCharacters

end Json

end Sandscript
