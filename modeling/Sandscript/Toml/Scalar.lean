import Sandscript.Toml.Moment
import Sandscript.Toml.Syntax

/-!
# Written keys and values

What a key or a value stands for: strings with their escapes resolved, integers in four bases, floats, the two
booleans, and dates, which are only checked.
-/

namespace Sandscript.Toml

def refuseAt {α : Type} (message : String) (start offset length : Nat) : Except DecodeError α :=
  refuse message ⟨start + offset, start + offset + length⟩

/-! ### Strings -/

def badEscape : String :=
  "missing escaped value, expected `b`, `e`, `f`, `n`, `r`, `\\`, `\"`, `x`, `u`, `U`"

def hexNumber (ds : List Char) : Nat := ds.foldl (fun n d => 16 * n + (Text.hexValue? d).getD 0) 0

def charOf? (n : Nat) : Option Char := if h : n.isValidChar then some (Char.ofNatAux n h) else none

/-- A character given by its number with `width` digits. -/
def numbered (width : Nat) (start : Nat) (cs : List Char) : Except DecodeError Char :=
  let ds := (cs.take width).takeWhile fun d => (Text.hexValue? d).isSome
  if ds.length < width then
    refuseAt "too few unicode value digits, expected unicode hexadecimal value" start ds.length 0
  else
    match charOf? (hexNumber ds) with
    | some c => .ok c
    | none => refuseAt "invalid value, expected unicode hexadecimal value" start 0 0

def isForbidden (multiline : Bool) (c : Char) : Bool :=
  (c.toNat < 0x20 && c != '\t' && !(multiline && (c == '\n' || c == '\r'))) || c.toNat == 0x7F

def isSpacing (c : Char) : Bool := c == ' ' || c == '\t' || c == '\r' || c == '\n'

/-- Resolves the escapes of a string; `place` is where its next character stands.  In a string over several lines an
escaped line end stands for nothing, and neither do the blanks around it. -/
def unescape (multiline : Bool) (name : String) : Nat → Nat → List Char → Except DecodeError (List Char)
  | 0, _, _ => .ok []
  | _, _, [] => .ok []
  | fuel + 1, place, c :: rest =>
    if isForbidden multiline c then
      let bad := (c :: rest).takeWhile (isForbidden multiline)
      refuseAt (name ++ ", expected non-double-quote visible characters, `\\`") place 0 bad.length
    else if c != '\\' then do
      let s ← unescape multiline name fuel (place + 1) rest
      .ok (c :: s)
    else
      let simple (x : Char) (more : List Char) : Except DecodeError (List Char) := do
        let s ← unescape multiline name fuel (place + 2) more
        .ok (x :: s)
      let byNumber (width : Nat) (more : List Char) : Except DecodeError (List Char) := do
        let x ← numbered width (place + 2) more
        let s ← unescape multiline name fuel (place + 2 + width) (more.drop width)
        .ok (x :: s)
      match rest with
      | [] => refuseAt badEscape place 1 0
      | d :: more =>
        if d == 'b' then simple (Char.ofNat 8) more
        else if d == 't' then simple '\t' more
        else if d == 'n' then simple '\n' more
        else if d == 'f' then simple (Char.ofNat 12) more
        else if d == 'r' then simple '\r' more
        else if d == 'e' then simple (Char.ofNat 27) more
        else if d == '"' || d == '\\' then simple d more
        else if d == 'x' then byNumber 2 more
        else if d == 'u' then byNumber 4 more
        else if d == 'U' then byNumber 8 more
        else if multiline && isSpacing d then
          let blanks := rest.takeWhile isSpacing
          if blanks.contains '\n' then
            unescape multiline name fuel (place + 1 + blanks.length) (rest.drop blanks.length)
          else refuseAt (name ++ ", expected newline") place (1 + blanks.length) 0
        else refuseAt badEscape place 1 0

def dropNewline : List Char → List Char × Nat
  | '\n' :: s => (s, 1)
  | '\r' :: '\n' :: s => (s, 2)
  | s => (s, 0)

/-- What the characters between the quotes of a string stand for; `place` is where they start. -/
def readBody (multiline escapes : Bool) (name : String) (place : Nat) (body : List Char) : Except DecodeError String :=
  if escapes then do
    let s ← unescape multiline name (body.length + 1) place body
    .ok (String.ofList s)
  else
    match body.findIdx? (isForbidden multiline) with
    | some i =>
      let bad := (body.drop i).takeWhile (isForbidden multiline)
      refuseAt (name ++ ", expected non-single-quote visible characters") place i bad.length
    | none => .ok (String.ofList body)

/-- The text of a string with so many quotes on either side.  What stands between the quotes may end in an escape
character, as the closing quote is taken for one wherever it stands. -/
def Written.quoted (w : Written) (quotes : Nat) (escapes : Bool) : Except DecodeError String :=
  let multiline := quotes == 3
  let kind := (if multiline then "multi-line " else "") ++ (if escapes then "basic" else "literal")
  let name := "invalid " ++ kind ++ " string"
  let quote := if escapes then '"' else apostrophe
  let body := w.chars.drop quotes
  if body.drop (body.length - quotes) != List.replicate quotes quote then
    refuse (name ++ ", expected `" ++ String.singleton quote ++ "`") ⟨w.span.stop, w.span.stop⟩
  else
    let inner := body.take (body.length - quotes)
    let (body, skipped) := if multiline then dropNewline inner else (inner, 0)
    readBody multiline escapes name (w.span.start + quotes + skipped) body

/-- The text of a string. -/
def Written.string (w : Written) : Except DecodeError String :=
  w.quoted (if w.kind == .basic || w.kind == .literal then 1 else 3) (w.kind == .basic || w.kind == .multilineBasic)

/-! ### Keys -/

def isKeyChar (c : Char) : Bool := c.isAlphanum || c == '-' || c == '_'

def Written.key (w : Written) : Except DecodeError String :=
  if w.kind != .atom then w.string
  else if w.chars.isEmpty then refuse "unquoted keys cannot be empty, expected letters, numbers, `-`, `_`" w.span
  else
    match w.chars.findIdx? (!isKeyChar ·) with
    | some i => refuseAt "invalid unquoted key, expected letters, numbers, `-`, `_`" w.span.start i 1
    | none => .ok (String.ofList w.chars)

/-! ### Unquoted values -/

def notQuoted {α : Type} (w : Written) : Except DecodeError α :=
  let missing (q : String) : Except DecodeError α :=
    refuse ("missing opening quote, expected `" ++ q ++ "`") ⟨w.span.start, w.span.start⟩
  let backwards := w.chars.reverse
  if backwards.take 3 == [apostrophe, apostrophe, apostrophe] then missing "'''"
  else if backwards.take 3 == ['"', '"', '"'] then missing "\"\"\""
  else if backwards.head? == some apostrophe then missing "'"
  else if backwards.head? == some '"' then missing "\""
  else refuse "string values must be quoted, expected literal string" w.span

/-- The first underscore that does not stand between two digits. -/
def strayUnderscore (isDigit : Char → Bool) (i : Nat) (before : Bool) : List Char → Option Nat
  | [] => none
  | c :: rest =>
    if c == '_' then
      match rest with
      | d :: _ => if before && isDigit d then strayUnderscore isDigit (i + 1) false rest else some i
      | [] => some i
    else strayUnderscore isDigit (i + 1) (isDigit c) rest

def withoutUnderscores (cs : List Char) : List Char := cs.filter (· != '_')

def checkUnderscores (w : Written) (isDigit : Char → Bool) (offset : Nat) (ds : List Char) :
    Except DecodeError Unit :=
  match strayUnderscore isDigit offset false ds with
  | some i => refuseAt "`_` may only go between digits, expected nothing" w.span.start i 1
  | none => .ok ()

/-- Checks the digits at the start of a text: there are some, and of several the first is not zero unless `zeros`
allows it.  What is left, and where it starts. -/
def takeDigits (w : Written) (zeros : Bool) (invalid : String) (offset : Nat) (ds : List Char) :
    Except DecodeError (Nat × List Char) :=
  let part := ds.takeWhile fun c => c.isDigit || c == '_'
  let count := part.countP Char.isDigit
  if count = 0 then refuseAt (invalid ++ ", expected digits") w.span.start offset 0
  else if 1 < count && part.head? == some '0' && !zeros then
    refuseAt "unexpected leading zero, expected nothing" w.span.start offset 1
  else .ok (offset + part.length, ds.drop part.length)

def integer (w : Written) (negative : Bool) (offset : Nat) (ds : List Char) : Except DecodeError Datum := do
  let _ ← takeDigits w false "invalid integer number" offset ds
  checkUnderscores w Char.isDigit offset ds
  let clean := withoutUnderscores ds
  if clean.all Char.isDigit then
    let n : Int := Numeric.ofDigits clean
    .ok (.int w.span (if negative then -n else n))
  else refuse "integer number overflowed" w.span

/-- The notations for integers other than the decimal one. -/
structure Radix where
  letter : Char
  name : String
  base : Nat

def Radix.isDigit (r : Radix) (c : Char) : Bool := match Text.hexValue? c with
  | some v => v < r.base
  | none => false

def hexadecimal : Radix := ⟨'x', "hexadecimal", 16⟩
def octal : Radix := ⟨'o', "octal", 8⟩
def binary : Radix := ⟨'b', "binary", 2⟩

/-- An integer behind the two characters that name its base. -/
def radixInteger (w : Written) (r : Radix) (isSigned : Bool) (offset : Nat) (letter : Char) (ds : List Char) :
    Except DecodeError Datum := do
  if isSigned then refuseAt "integers with a radix cannot be signed, expected nothing" w.span.start 0 1
  if letter != r.letter then
    refuseAt ("radix must be lowercase, expected `0" ++ String.singleton r.letter ++ "`") w.span.start offset 2
  let invalid := "invalid " ++ r.name ++ " number"
  match ds.findIdx? fun c => !r.isDigit c && c != '_' with
  | some i => refuseAt invalid w.span.start (offset + 2 + i) 0
  | none =>
    checkUnderscores w r.isDigit (offset + 2) ds
    if ds.isEmpty then refuseAt (invalid ++ ", expected digits") w.span.start (offset + 2) 0
    else .ok (.int w.span ((withoutUnderscores ds).foldl (fun n d => r.base * n + (Text.hexValue? d).getD 0) 0 : Nat))

/-- The text of a float in an error: positional, with a point. -/
def floatFound (x : Binary64) : String :=
  let t := FloatLayout.unscaled.text x
  "floating point `" ++ (if t.toList.all (fun c => c.isDigit || c == '-') then t ++ ".0" else t) ++ "`"

def float (w : Written) (offset : Nat) (ds : List Char) : Except DecodeError Datum := do
  let (place, rest) ← takeDigits w false "invalid mantissa" offset ds
  let (place, rest) ← match rest with
    | '.' :: rest => takeDigits w true "invalid fraction" (place + 1) rest
    | _ => .ok (place, rest)
  let (place, rest) ← match rest with
    | c :: rest =>
      if c == 'e' || c == 'E' then
        let sign := if rest.head? == some '+' || rest.head? == some '-' then 1 else 0
        takeDigits w true "invalid exponent" (place + 1 + sign) (rest.drop sign)
      else .ok (place, c :: rest)
    | [] => .ok (place, [])
  if !rest.isEmpty then refuseAt "invalid float, expected nothing" w.span.start place rest.length
  checkUnderscores w Char.isDigit offset ds
  match Binary64.ofChars? (withoutUnderscores w.chars) with
  | some x =>
    if x.isInfinite then refuse "floating-point number overflowed" w.span else .ok (.other w.span (floatFound x))
  | none => refuseAt "invalid float, expected nothing" w.span.start 0 w.chars.length

def moment (w : Written) : Except DecodeError Datum :=
  match Moment.check w.chars with
  | .ok () => .ok (.other w.span "map")
  | .error fault => refuse fault.message w.span

/-- A decimal number or a date behind its sign. -/
def numeric (w : Written) (negative : Bool) (offset : Nat) (ds : List Char) : Except DecodeError Datum :=
  let rest := ds.dropWhile Char.isDigit
  match rest with
  | [] => integer w negative offset ds
  | c :: _ =>
    if c == '-' || c == ':' then moment w
    else if rest.contains ' ' then notQuoted w
    else if rest.any fun d => d == '.' || d == 'e' || d == 'E' then float w offset ds
    else if c == '_' then integer w negative offset ds
    else notQuoted w

/-- A number that starts with a zero; a letter behind the zero names its base. -/
def zeroPrefixed (w : Written) (isSigned negative : Bool) (offset : Nat) (ds : List Char) :
    Except DecodeError Datum :=
  match ds with
  | _ :: c :: r =>
    if c == 'x' || c == 'X' then radixInteger w hexadecimal isSigned offset c r
    else if c == 'o' || c == 'O' then radixInteger w octal isSigned offset c r
    else if c == 'b' || c == 'B' then radixInteger w binary isSigned offset c r
    else if c == 'd' || c == 'D' then
      refuseAt "redundant integer number prefix, expected nothing" w.span.start offset 2
    else numeric w negative offset ds
  | _ => numeric w negative offset ds

def word (w : Written) (offset : Nat) (invalid s : String) (d : Datum) : Except DecodeError Datum :=
  if w.chars.drop offset == s.toList then .ok d
  else if w.chars.contains ' ' then notQuoted w
  else refuseAt ("invalid " ++ invalid ++ ", expected `" ++ s ++ "`") w.span.start offset (w.chars.length - offset)

def infinite (w : Written) (offset : Nat) : Except DecodeError Datum :=
  let negative := w.chars.head? == some '-'
  word w offset "float" "inf" (.other w.span (floatFound (.ofWord negative Binary64.infinityWord)))

def notANumber (w : Written) (offset : Nat) : Except DecodeError Datum :=
  word w offset "float" "nan" (.other w.span (floatFound .nan))

def signed (w : Written) (ds : List Char) : Except DecodeError Datum :=
  let negative := w.chars.head? == some '-'
  match ds with
  | [] => notQuoted w
  | c :: _ =>
    if c == '+' || c == '-' then refuseAt "redundant numeric sign, expected nothing" w.span.start 1 1
    else if c == '0' then zeroPrefixed w true negative 1 ds
    else if c == '.' then float w 1 ds
    else if c == 'i' || c == 'I' then infinite w 1
    else if c == 'n' || c == 'N' then notANumber w 1
    else if c.isDigit || c == '_' then numeric w negative 1 ds
    else notQuoted w

/-- What an unquoted value stands for. -/
def unquoted (w : Written) : Except DecodeError Datum :=
  match w.chars with
  | [] => notQuoted w
  | c :: rest =>
    if c == '+' || c == '-' then signed w rest
    else if c == '0' then zeroPrefixed w false false 0 w.chars
    else if c.isDigit || c == '_' then numeric w false 0 w.chars
    else if c == '.' then float w 0 w.chars
    else if c == 't' || c == 'T' then word w 0 "boolean" "true" (.bool w.span true)
    else if c == 'f' || c == 'F' then word w 0 "boolean" "false" (.bool w.span false)
    else if c == 'i' || c == 'I' then infinite w 0
    else if c == 'n' || c == 'N' then notANumber w 0
    else notQuoted w

def Written.value (w : Written) : Except DecodeError Datum :=
  if w.kind == .atom then unquoted w
  else do
    let s ← w.string
    .ok (.str w.span s)

end Sandscript.Toml
