import Sandscript.Numeric.Shortest
import Sandscript.Syntax.Token
import Sandscript.Text.Blank
import Sandscript.Text.Hex

/-!
# From characters to tokens

White space and comments separate tokens; block comments nest.  Outside texts only ASCII characters form tokens.  A
back-quoted text may hold blocks: the text in front of a block is one token, the tokens of the block follow, and after
its closing brace the text goes on.  `tokens` ends with the end of the script or with the first characters that form no
token.
-/

namespace Sandscript.Lexer

/-- What a backend does not admit. -/
structure Limits where
  /-- The greatest number of bytes in a string; zero admits any. -/
  maxString : Nat := 0
  /-- Words taken out of the language. -/
  disabled : List String := []

structure Cursor where
  rest : List Char
  line : Nat
  /-- The number of characters of the line that were read. -/
  column : Nat

namespace Cursor

def position (c : Cursor) : Position := ⟨c.line, c.column⟩

/-- The place of the next character. -/
def nextPosition (c : Cursor) : Position := ⟨c.line, c.column + 1⟩

end Cursor

/-! ### White space and comments -/

def isSpace (c : Char) : Bool := c == ' ' || c == '\t' || c == '\r' || c == Char.ofNat 12

mutual

def skipCode (line column : Nat) : List Char → Cursor
  | '/' :: '/' :: rest => skipLine line (column + 2) rest
  | '/' :: '*' :: rest => skipBlock 1 line (column + 2) rest
  | '\n' :: rest => skipCode (line + 1) 0 rest
  | c :: rest => if isSpace c then skipCode line (column + 1) rest else ⟨c :: rest, line, column⟩
  | [] => ⟨[], line, column⟩

/-- A comment up to the end of the line. -/
def skipLine (line column : Nat) : List Char → Cursor
  | '\r' :: '\n' :: rest => skipCode (line + 1) 0 rest
  | '\r' :: rest => skipCode (line + 1) 0 rest
  | '\n' :: rest => skipCode (line + 1) 0 rest
  | _ :: rest => skipLine line (column + 1) rest
  | [] => ⟨[], line, column⟩

/-- A comment with `depth` ends to come; it may also end with the script. -/
def skipBlock (depth line column : Nat) : List Char → Cursor
  | '/' :: '*' :: rest => skipBlock (depth + 1) line (column + 2) rest
  | '*' :: '/' :: rest =>
    if depth ≤ 1 then skipCode line (column + 2) rest else skipBlock (depth - 1) line (column + 2) rest
  | '\n' :: rest => skipBlock depth (line + 1) 0 rest
  | _ :: rest => skipBlock depth line (column + 1) rest
  | [] => ⟨[], line, column⟩

end

/-- Passes over white space and comments. -/
def skip (c : Cursor) : Cursor := skipCode c.line c.column c.rest

/-! ### Names -/

def isNameStart (c : Char) : Bool := c.isAlpha || c == '_'
def isNamePart (c : Char) : Bool := c.isAlphanum || c == '_'

/-- The first character that is no underscore is a letter. -/
def startsWithLetter (word : String) : Bool :=
  match word.toList.dropWhile (· == '_') with
  | c :: _ => c.isAlpha
  | [] => false

/-- The token of a word. -/
def wordToken (limits : Limits) (word : String) : Token :=
  let disabled := limits.disabled.contains word
  if word == "_" then .symbol .underscore
  else if let some k := Keyword.ofWord? word then if disabled then .reserved word else .keyword k
  else if word == "in" then .operator .within
  else if Names.reservedWords.contains word then
    if disabled then .bad (.improper word ("reserved keyword '" ++ word ++ "' is disabled")) else .reserved word
  else if startsWithLetter word then .name word
  else .bad (.badName word)

/-! ### Numbers -/

structure NumberParts where
  /-- The characters in reverse. -/
  text : List Char
  hasPoint : Bool := false
  hasExponent : Bool := false
  /-- A sign may follow, directly behind the `e`. -/
  signNext : Bool := false

/-- The rest of a number in base ten.  A point counts if no name and no second point follows it, an `e` if a digit or
a sign follows it. -/
def numberFrom (p : NumberParts) (column : Nat) : List Char → List Char × List Char × Nat
  | [] => (p.text.reverse, [], column)
  | c :: rest =>
    let stop := (p.text.reverse, c :: rest, column)
    let next := rest.head?
    let followedBy (test : Char → Bool) : Bool := (next.map test).getD false
    if c == '_' then numberFrom { p with signNext := false } (column + 1) rest
    else if c.isDigit || (p.signNext && (c == '+' || c == '-')) then
      numberFrom { p with text := c :: p.text, signNext := false } (column + 1) rest
    else if c == '.' && !p.hasPoint then
      if followedBy Char.isDigit then numberFrom { p with text := c :: p.text, hasPoint := true } (column + 1) rest
      else if followedBy fun d => d != '.' && !isNameStart d then
        numberFrom { p with text := '0' :: c :: p.text, hasPoint := true } (column + 1) rest
      else stop
    else if (c == 'e' || c == 'E') && !p.hasExponent && followedBy fun d => d.isDigit || d == '+' || d == '-' then
      numberFrom ⟨c :: p.text, true, true, true⟩ (column + 1) rest
    else stop

/-- The digits of a number in another base. -/
def radixFrom (admits : Char → Bool) (text : List Char) (column : Nat) :
    List Char → List Char × List Char × Nat
  | [] => (text.reverse, [], column)
  | c :: rest =>
    if c == '_' then radixFrom admits text (column + 1) rest
    else if admits c then radixFrom admits (c :: text) (column + 1) rest
    else (text.reverse, c :: rest, column)

def radixOf (c : Char) : Option Nat :=
  if c == 'x' || c == 'X' then some 16
  else if c == 'o' || c == 'O' then some 8
  else if c == 'b' || c == 'B' then some 2
  else none

/-- The value of an integer in base ten, if it fits in 64 bits. -/
def int64? (negative : Bool) (digits : List Char) : Option Int64 :=
  let n : Int := if negative then -(Numeric.ofDigits digits : Int) else Numeric.ofDigits digits
  if digits.isEmpty || digits.any (!·.isDigit) then none
  else if -(2 ^ 63) ≤ n ∧ n < 2 ^ 63 then some (Int64.ofInt n)
  else none

/-- An integer that does not fit in 64 bits is read as a floating-point number. -/
def numberToken (negative : Bool) (text : List Char) : Token :=
  match int64? negative text with
  | some n => .int n
  | none =>
    let signed := if negative then '-' :: text else text
    match Binary64.ofChars? signed with
    | some x => .float x
    | none => .bad (.badNumber (String.ofList signed))

/-- In another base than ten all 64 bits may be used. -/
def radixToken (negative : Bool) (radix : Nat) (marker : Char) (digits : List Char) : Token :=
  let fault := Token.bad (.badNumber (String.ofList (if negative then marker :: digits else digits)))
  let step (acc : Option Nat) (c : Char) : Option Nat :=
    match acc, Text.hexValue? c with
    | some n, some d => if d < radix then some (radix * n + d) else none
    | _, _ => none
  if digits.isEmpty || negative then fault
  else
    match digits.foldl step (some 0) with
    | some n => if n < 2 ^ 64 then .int (Int64.ofInt (if n < 2 ^ 63 then n else (n : Int) - 2 ^ 64)) else fault
    | none => fault

/-- The number that starts with the digit `first`; the cursor stands behind this digit. -/
def scanNumber (negative : Bool) (first : Char) (c : Cursor) : Token × Cursor :=
  let plain : Token × Cursor :=
    let (text, rest, column) := numberFrom { text := [first] } c.column c.rest
    (numberToken negative text, ⟨rest, c.line, column⟩)
  let separators := c.rest.takeWhile (· == '_')
  match first, c.rest.drop separators.length with
  | '0', m :: more =>
    match radixOf m with
    | some radix =>
      let admits (d : Char) : Bool := (Text.hexValue? d).any (· < radix)
      let (digits, rest, column) := radixFrom admits [] (c.column + separators.length + 1) more
      (radixToken negative radix m digits, ⟨rest, c.line, column⟩)
    | none => plain
  | _, _ => plain

/-! ### Texts -/

/-- The rules of one kind of text. -/
structure TextStyle where
  quote : Char
  /-- No escapes, and line ends stand for themselves. -/
  verbatim : Bool
  /-- A backslash at the end of a line joins the next line. -/
  joinsLines : Bool
  /-- The text goes on behind a block. -/
  continued : Bool := false

def doubleQuoted : TextStyle := { quote := '"', verbatim := false, joinsLines := true }
def singleQuoted : TextStyle := { quote := Char.ofNat 39, verbatim := false, joinsLines := false }
def backQuoted : TextStyle := { quote := '`', verbatim := true, joinsLines := false }

structure ScannedText where
  text : String
  /-- A block follows. -/
  interpolated : Bool
  /-- The place of the first character, if there is one. -/
  first : Position
  cursor : Cursor

inductive TextMode where
  | plain
  | escape
  /-- The second of two quotes, which together stand for one. -/
  | secondQuote
  /-- A dollar sign behind a backslash, which begins no block. -/
  | dollar
  | hex (marker : Char) (left value : Nat) (seen : List Char)

structure TextState where
  mode : TextMode := .plain
  /-- The characters in reverse. -/
  text : List Char := []
  bytes : Nat := 0
  first : Position := .none
  /-- White space before this column of a joined line is left out. -/
  margin : Nat := 0

def TextState.push (s : TextState) (c : Char) : TextState :=
  { s with mode := .plain, text := c :: s.text, bytes := s.bytes + c.utf8Size }

def simpleEscape? (c : Char) : Option Char :=
  if c == 'n' then some '\n' else if c == 'r' then some '\r' else if c == 't' then some '\t'
  else if c == '\\' then some '\\' else none

def hexLength? (c : Char) : Option Nat :=
  if c == 'x' then some 2 else if c == 'u' then some 4 else if c == 'U' then some 8 else none

def scanTextFrom (style : TextStyle) (maxString : Nat) (start : Position) (s : TextState)
    (line column : Nat) : List Char → Except SyntaxError ScannedText
  | [] =>
    match s.mode with
    | .hex _ _ _ seen => .error ⟨.badEscape (String.ofList seen.reverse), ⟨line, column⟩⟩
    | _ => .error ⟨.openString, if style.continued then s.first else start⟩
  | c :: rest =>
    let column := column + 1
    let here : Position := ⟨line, column⟩
    let tooLong : Except SyntaxError ScannedText := .error ⟨.stringTooLong maxString, start⟩
    let isTooLong := 0 < maxString && maxString < s.bytes
    let done (interpolated : Bool) : Except SyntaxError ScannedText :=
      if isTooLong then tooLong
      else .ok ⟨String.ofList s.text.reverse, interpolated, s.first, ⟨rest, line, column⟩⟩
    let go (s : TextState) (line column : Nat) := scanTextFrom style maxString start s line column rest
    match s.mode with
    | .hex marker left value seen =>
      let seen := c :: seen
      let fault : Except SyntaxError ScannedText := .error ⟨.badEscape (String.ofList seen.reverse), here⟩
      match Text.hexValue? c with
      | none => fault
      | some d =>
        let value := 16 * value + d
        if 1 < left then go { s with mode := .hex marker (left - 1) value seen } line column
        else if value.isValidChar then go (s.push (Char.ofNat value)) line column
        else fault
    | .escape =>
      if isTooLong then tooLong
      else if c == style.quote then go (s.push c) line column
      else
        match simpleEscape? c, hexLength? c with
        | some e, _ => go (s.push e) line column
        | none, some n => go { s with mode := .hex c n 0 [c, '\\'] } line column
        | none, none =>
          if c == '\r' && rest.head? == some '\n' then go s line column
          else if c == '\n' then
            if style.joinsLines then go { s with mode := .plain, margin := start.column + 1 } (line + 1) 0
            else .error ⟨.openString, start⟩
          else .error ⟨.badEscape (String.ofList ['\\', c]), here⟩
    | .secondQuote | .dollar => go { s.push c with margin := 0 } line column
    | .plain =>
      let begun := if s.first.isNone then { s with first := here } else s
      if style.verbatim && c == '$' && rest.head? == some '\x7b' then done true
      else if isTooLong then tooLong
      else if style.verbatim && c == '\\' && rest.head? == some '$' then
        go { begun with mode := .dollar } line (column - 1)  -- the backslash takes no column
      else if c == style.quote then
        if rest.head? == some c then go { begun with mode := .secondQuote } line column else done false
      else if c == '\r' && rest.head? == some '\n' then go begun line column
      else if c == '\\' && !style.verbatim then go { begun with mode := .escape } line column
      else if c == '\n' then
        if style.verbatim then go (begun.push c) (line + 1) 0 else .error ⟨.openString, start⟩
      else if Text.isBlankChar c && column < s.margin then go begun line column
      else go { begun.push c with margin := 0 } line column

/-- The text behind an opening quote, or behind a block of a text; `start` is the place in front of it. -/
def scanText (style : TextStyle) (maxString : Nat) (start : Position) (c : Cursor) :
    Except SyntaxError ScannedText :=
  match scanTextFrom style maxString start {} c.line c.column c.rest with
  | .error e => .error e
  | .ok t =>
    if 0 < maxString && maxString < t.text.utf8ByteSize then .error ⟨.stringTooLong maxString, start⟩ else .ok t

/-- The rest of a text between hashes: a quote and as many hashes as stand in front of it end the text. -/
def scanHashedFrom (hashes : Nat) (text : List Char) (line column : Nat) :
    List Char → Option (List Char × Cursor)
  | [] => none
  | c :: rest =>
    if c == '"' && (rest.take hashes).length == hashes && (rest.take hashes).all (· == '#') then
      some (text.reverse, ⟨rest.drop hashes, line, column + 1 + hashes⟩)
    else if c == '\n' then scanHashedFrom hashes (c :: text) (line + 1) 0 rest
    else scanHashedFrom hashes (c :: text) line (column + 1) rest

def scanHashed (maxString : Nat) (start : Position) (c : Cursor) : Located × Cursor :=
  let more := c.rest.takeWhile (· == '#')
  let rest := c.rest.drop more.length
  let column := c.column + more.length
  let fail (fault : SyntaxFault) : Located × Cursor := (⟨.bad fault, start⟩, ⟨[], c.line, column⟩)
  match rest with
  | '"' :: rest =>
    match scanHashedFrom (more.length + 1) [] c.line (column + 1) rest with
    | none => fail .openString
    | some (text, c') =>
      let s := String.ofList text
      if 0 < maxString && maxString < s.utf8ByteSize then fail (.stringTooLong maxString)
      else (⟨.str s, start⟩, c')
  | d :: _ => fail (.unexpected d.toString)
  | [] => fail .openString

/-! ### Symbols -/

def note (text advice : String) : Token := .bad (.improper text ("'" ++ text ++ "' " ++ advice))

/-- The symbol at the front of a text, with its length.  `signs` tells whether a sign may stand here. -/
def symbolToken (signs : Bool) : List Char → Option (Token × Nat)
  | '\x7b' :: _ => some (.symbol .leftBrace, 1)
  | '\x7d' :: _ => some (.symbol .rightBrace, 1)
  | '(' :: ')' :: _ => some (.symbol .emptyParens, 2)
  | '(' :: '*' :: _ => some (pascalComment, 2)
  | '(' :: _ => some (.symbol .leftParen, 1)
  | ')' :: _ => some (.symbol .rightParen, 1)
  | '[' :: _ => some (.symbol .leftBracket, 1)
  | ']' :: _ => some (.symbol .rightBracket, 1)
  | '#' :: '\x7b' :: _ => some (.symbol .mapStart, 2)
  | '#' :: '!' :: _ => some (.reserved "#!", 1)
  | '#' :: ' ' :: '\x7b' :: _ =>
    some (.bad (.improper "#" "'#' is not a valid symbol. Should it be '#\x7b'?"), 3)
  | '#' :: _ => some (.reserved "#", 1)
  | '+' :: '=' :: _ => some (.assignment .add, 2)
  | '+' :: '+' :: _ => some (.reserved "++", 2)
  | '+' :: _ => some (if signs then .sign false else .operator .add, 1)
  | '-' :: '=' :: _ => some (.assignment .sub, 2)
  | '-' :: '>' :: _ => some (note "->" "is not a valid symbol. This is not C or C++!", 2)
  | '-' :: '-' :: _ => some (.reserved "--", 2)
  | '-' :: _ => some (if signs then .sign true else .operator .sub, 1)
  | '*' :: ')' :: _ => some (pascalComment, 2)
  | '*' :: '=' :: _ => some (.assignment .mul, 2)
  | '*' :: '*' :: '=' :: _ => some (.assignment .pow, 3)
  | '*' :: '*' :: _ => some (.operator .pow, 2)
  | '*' :: _ => some (.operator .mul, 1)
  | '/' :: '=' :: _ => some (.assignment .div, 2)
  | '/' :: _ => some (.operator .div, 1)
  | '%' :: '=' :: _ => some (.assignment .rem, 2)
  | '%' :: _ => some (.operator .rem, 1)
  | ';' :: _ => some (.symbol .semicolon, 1)
  | ',' :: _ => some (.symbol .comma, 1)
  | '.' :: '.' :: '.' :: _ => some (.reserved "...", 3)
  | '.' :: '.' :: '=' :: _ => some (.operator .rangeIncl, 3)
  | '.' :: '.' :: _ => some (.operator .range, 2)
  | '.' :: _ => some (.symbol .period, 1)
  | '=' :: '=' :: '=' :: _ =>
    some (note "===" "is not a valid operator. This is not JavaScript! Should it be '=='?", 3)
  | '=' :: '=' :: _ => some (.operator .eq, 2)
  | '=' :: '>' :: _ => some (.symbol .arrow, 2)
  | '=' :: _ => some (.symbol .assign, 1)
  | ':' :: ':' :: '<' :: _ =>
    some (.bad (.improper "::<" "'::<>' is not a valid symbol. This is not Rust! Should it be '::'?"), 3)
  | ':' :: ':' :: _ => some (.symbol .doubleColon, 2)
  | ':' :: '=' :: _ =>
    some (note ":=" "is not a valid assignment operator. This is not Go or Pascal! Should it be simply '='?", 2)
  | ':' :: ';' :: _ => some (note ":;" "is not a valid symbol. Should it be '::'?", 2)
  | ':' :: _ => some (.symbol .colon, 1)
  | '<' :: '=' :: _ => some (.operator .le, 2)
  | '<' :: '-' :: _ => some (note "<-" "is not a valid symbol. This is not Go! Should it be '<='?", 2)
  | '<' :: '<' :: '=' :: _ => some (.assignment .shl, 3)
  | '<' :: '<' :: _ => some (.operator .shl, 2)
  | '<' :: '|' :: _ => some (.reserved "<|", 2)
  | '<' :: _ => some (.operator .lt, 1)
  | '>' :: '=' :: _ => some (.operator .ge, 2)
  | '>' :: '>' :: '=' :: _ => some (.assignment .shr, 3)
  | '>' :: '>' :: _ => some (.operator .shr, 2)
  | '>' :: _ => some (.operator .gt, 1)
  | '!' :: 'i' :: 'n' :: rest =>
    if (rest.head?.map isNamePart).getD false then some (.symbol .not, 1) else some (.operator .notWithin, 3)
  | '!' :: '=' :: '=' :: _ =>
    some (note "!==" "is not a valid operator. This is not JavaScript! Should it be '!='?", 3)
  | '!' :: '=' :: _ => some (.operator .ne, 2)
  | '!' :: '.' :: _ => some (.reserved "!.", 2)
  | '!' :: _ => some (.symbol .not, 1)
  | '|' :: '|' :: _ => some (.operator .or, 2)
  | '|' :: '=' :: _ => some (.assignment .bor, 2)
  | '|' :: '>' :: _ => some (.reserved "|>", 2)
  | '|' :: _ => some (.operator .bor, 1)
  | '&' :: '&' :: _ => some (.operator .and, 2)
  | '&' :: '=' :: _ => some (.assignment .band, 2)
  | '&' :: _ => some (.operator .band, 1)
  | '^' :: '=' :: _ => some (.assignment .bxor, 2)
  | '^' :: _ => some (.operator .bxor, 1)
  | '~' :: _ => some (.reserved "~", 1)
  | '@' :: _ => some (.reserved "@", 1)
  | '$' :: _ => some (.reserved "$", 1)
  | '?' :: '.' :: _ => some (.symbol .optionalPeriod, 2)
  | '?' :: '?' :: _ => some (.operator .coalesce, 2)
  | '?' :: '[' :: _ => some (.symbol .optionalBracket, 2)
  | '?' :: _ => some (.reserved "?", 1)
  | _ => none
where
  pascalComment : Token :=
    .bad (.improper "(*" "'(* .. *)' is not a valid comment format. This is not Pascal! Should it be '/* .. */'?")

/-- Whether the language keeps a text for itself, be it a word or a symbol. -/
def isOwnSpelling (text : String) : Bool :=
  let isSymbol := match symbolToken false text.toList with
    | some (_, n) => n == text.length
    | none => false
  isSymbol || text == "_" || text == "in" || (Keyword.ofWord? text).isSome || Names.reservedWords.contains text

/-! ### Tokens -/

def ofText (t : Except SyntaxError ScannedText) (position : Position) : Located × Cursor :=
  match t with
  | .error e => (⟨.bad e.fault, e.position⟩, ⟨[], 1, 0⟩)
  | .ok t => (⟨if t.interpolated then .openStr t.text else .str t.text, position⟩, t.cursor)

/-- A line end directly behind the opening back quote does not belong to the text. -/
def dropFirstLineEnd (c : Cursor) : Cursor :=
  match c.rest with
  | '\r' :: '\n' :: rest => ⟨rest, c.line + 1, 0⟩
  | '\r' :: rest => ⟨rest, c.line + 1, 0⟩
  | '\n' :: rest => ⟨rest, c.line + 1, 0⟩
  | _ => c

def charToken (t : Except SyntaxError ScannedText) (position : Position) : Located × Cursor :=
  match t with
  | .error e => (⟨.bad e.fault, e.position⟩, ⟨[], 1, 0⟩)
  | .ok t =>
    match t.text.toList with
    | [c] => (⟨.char c, position⟩, t.cursor)
    | _ => (⟨.bad (.badCharacter t.text), position⟩, t.cursor)

/-- The next token of the code behind white space and comments. -/
def next (limits : Limits) (signs : Bool) (c : Cursor) : Located × Cursor :=
  let start := c.nextPosition
  match c.rest with
  | [] => (⟨.finish, start⟩, ⟨[], c.line, c.column + 1⟩)
  | ch :: rest =>
    let after : Cursor := ⟨rest, c.line, c.column + 1⟩
    if ch.isDigit then
      let (t, c') := scanNumber false ch after
      (⟨t, start⟩, c')
    else if isNameStart ch then
      let word := ch :: rest.takeWhile isNamePart
      (⟨wordToken limits (String.ofList word), start⟩, ⟨c.rest.drop word.length, c.line, c.column + word.length⟩)
    else if ch == '"' then ofText (scanText doubleQuoted limits.maxString start after) start
    else if ch == '`' then
      ofText (scanText backQuoted limits.maxString start (dropFirstLineEnd after)) start
    else if ch.toNat == 39 then
      if rest.head? == some ch then (⟨.bad (.badCharacter ""), start⟩, after)
      else charToken (scanText singleQuoted limits.maxString start after) start
    else
      match ch, rest with
      | '#', '"' :: _ => scanHashed limits.maxString start after
      | '#', '#' :: _ => scanHashed limits.maxString start after
      | '-', d :: rest' =>
        if signs && d.isDigit then
          let (t, c') := scanNumber true d ⟨rest', c.line, c.column + 2⟩
          (⟨t, start⟩, c')
        else symbol start c
      | _, _ => symbol start c
where
  symbol (start : Position) (c : Cursor) : Located × Cursor :=
    match symbolToken signs c.rest with
    | some (t, n) => (⟨t, start⟩, ⟨c.rest.drop n, c.line, c.column + n⟩)
    | none => (⟨.bad (.unexpected (String.ofList (c.rest.take 1))), start⟩, c)

/-- How many braces are open in each of the texts that hold the current block, the innermost text first. -/
def trackBraces (braces : List Nat) (t : Token) : List Nat × Bool :=
  match t, braces with
  | .openStr _, _ => (0 :: braces, false)
  | .symbol .leftBrace, n :: more => ((n + 1) :: more, false)
  | .symbol .mapStart, n :: more => ((n + 1) :: more, false)
  | .symbol .rightBrace, n :: more => if n ≤ 1 then (more, true) else ((n - 1) :: more, false)
  | _, _ => (braces, false)

/-- The rest of a text that holds a block, behind that block. -/
def continuedText (limits : Limits) (c : Cursor) : Located × Cursor :=
  let scanned := scanText { backQuoted with continued := true } limits.maxString c.position c
  ofText scanned (match scanned with | .ok s => s.first | .error e => e.position)

def tokensFrom (limits : Limits) : Nat → Bool → List Nat → Bool → Cursor → List Located
  | 0, _, _, _, _ => []
  | fuel + 1, signs, braces, inText, c =>
    let (t, c') := if inText then continuedText limits c else next limits signs (skip c)
    match t.token with
    | .finish | .bad _ => [t]
    | _ =>
      let (braces, inText) := trackBraces braces t.token
      t :: tokensFrom limits fuel t.token.beforeSign braces inText c'

/-- The tokens of a script. -/
def tokens (limits : Limits) (source : String) : List Located :=
  let chars := source.toList
  tokensFrom limits (chars.length + 2) true [] false ⟨chars, 1, 0⟩

end Sandscript.Lexer
