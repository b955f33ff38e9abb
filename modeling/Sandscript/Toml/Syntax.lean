import Sandscript.Toml.Token

/-!
# The lines of a settings file

Tokens become lines: table headers and assignments, with keys and values still in their written form.  The first
place where the tokens fit no line is reported.
-/

namespace Sandscript.Toml

/-- A key or a value other than a container, as it is written. -/
structure Written where
  kind : TokenKind
  span : Span
  chars : List Char
deriving Inhabited

def Written.ofToken (t : Token) : Written := ⟨t.kind, t.span, t.chars⟩

/-- Nothing, written at a place. -/
def Written.nothing (p : Nat) : Written := ⟨.atom, ⟨p, p⟩, []⟩

inductive Term where
  | scalar (w : Written)
  | list (span : Span) (items : List Term)
  | table (span : Span) (entries : List (List Written × Term))
deriving Inhabited

inductive Line where
  | header (ofTables : Bool) (span : Span) (keys : List Written)
  | assignment (keys : List Written) (value : Term)

abbrev Read := Except DecodeError

/-- Refuses what stands at a place. -/
def refuse {α : Type} (message : String) (p : Span) : Except DecodeError α := .error ⟨message, p⟩

/-- Where the next token starts. -/
def nextStart (eof : Nat) : List Token → Nat
  | [] => eof
  | t :: _ => t.start

def skipBlank : List Token → List Token
  | [] => []
  | t :: ts => if t.kind == .blank then ts else t :: ts

def skipLines (ts : List Token) : List Token :=
  ts.dropWhile fun t => t.kind == .blank || t.kind == .newline || t.kind == .comment

/-- The tokens that continue an unquoted value: points, and words behind blanks. -/
def takeWords : List Token → List Token × List Token
  | a :: b :: ts =>
    if a.kind == .dot || a.kind == .atom then
      let (w, r) := takeWords (b :: ts)
      (a :: w, r)
    else if a.kind == .blank && b.kind == .atom then
      let (w, r) := takeWords ts
      (a :: b :: w, r)
    else ([], a :: b :: ts)
  | [a] => if a.kind == .dot || a.kind == .atom then ([a], []) else ([], [a])
  | [] => ([], [])

def isString (k : TokenKind) : Bool :=
  k == .literal || k == .basic || k == .multilineLiteral || k == .multilineBasic

/-- Reads a key of one or more parts; a part that is missing is read as nothing. -/
def readKeys (eof : Nat) (read : List Written) : List Token → List Written × List Token
  | [] => ((Written.nothing eof :: read).reverse, [])
  | t :: ts =>
    if t.kind == .blank then readKeys eof read ts
    else if t.kind == .dot then readKeys eof (Written.nothing t.start :: read) ts
    else if t.kind == .atom || isString t.kind then
      let read := Written.ofToken t :: read
      match ts with
      | a :: b :: rest =>
        if a.kind == .dot then readKeys eof read (b :: rest)
        else if a.kind == .blank && b.kind == .dot then readKeys eof read rest
        else (read.reverse, ts)
      | [a] => if a.kind == .dot then readKeys eof read [] else (read.reverse, ts)
      | [] => (read.reverse, [])
    else ((Written.nothing t.start :: read).reverse, t :: ts)
termination_by ts => ts.length

mutual

def readTerm (eof : Nat) : Nat → List Token → Read (Term × List Token)
  | 0, ts => .ok (.scalar (.nothing (nextStart eof ts)), ts)
  | fuel + 1, ts =>
    match ts with
    | [] => .ok (.scalar (.nothing eof), [])
    | t :: rest =>
      match t.kind with
      | .comment | .comma | .newline => .ok (.scalar (.nothing t.start), ts)
      | .equals => refuse "extra `=`, expected nothing" t.span
      | .closeBrace => refuse "missing inline table opening, expected `\x7b`" ⟨t.start, t.start⟩
      | .closeBracket => refuse "missing array opening, expected `[`" ⟨t.start, t.start⟩
      | .openBracket => readList eof fuel t.start [] rest
      | .openBrace => readTable eof fuel t.start [] rest
      | .blank => readTerm eof fuel rest
      | .atom | .dot =>
        let (more, rest) := takeWords rest
        let chars := (t :: more).flatMap (·.chars)
        .ok (.scalar ⟨.atom, ⟨t.start, t.start + chars.length⟩, chars⟩, rest)
      | _ => .ok (.scalar (.ofToken t), rest)

def readList (eof : Nat) : Nat → Nat → List Term → List Token → Read (Term × List Token)
  | 0, start, _, _ => refuse "unclosed array, expected `]`" ⟨start, start⟩
  | fuel + 1, start, read, ts =>
    match skipLines ts with
    | [] => refuse "unclosed array, expected `]`" ⟨eof, eof⟩
    | t :: rest =>
      if t.kind == .closeBracket then .ok (.list ⟨start, t.stop⟩ read.reverse, rest)
      else if t.kind == .comma then refuse "extra comma in array, expected value" t.span
      else do
        let (v, ts) ← readTerm eof fuel (t :: rest)
        match skipLines ts with
        | [] => refuse "unclosed array, expected `]`" ⟨eof, eof⟩
        | u :: rest =>
          if u.kind == .comma then readList eof fuel start (v :: read) rest
          else if u.kind == .closeBracket then .ok (.list ⟨start, u.stop⟩ (v :: read).reverse, rest)
          else refuse "missing comma between array elements, expected `,`" ⟨u.start, u.start⟩

def readTable (eof : Nat) : Nat → Nat → List (List Written × Term) → List Token → Read (Term × List Token)
  | 0, start, _, _ => refuse "unclosed inline table, expected `\x7d`" ⟨start, start⟩
  | fuel + 1, start, read, ts =>
    match skipLines ts with
    | [] => refuse "unclosed inline table, expected `\x7d`" ⟨eof, eof⟩
    | t :: rest =>
      if t.kind == .closeBrace then .ok (.table ⟨start, t.stop⟩ read.reverse, rest)
      else if t.kind == .comma then refuse "extra comma in inline table, expected key" t.span
      else do
        let (keys, ts) := readKeys eof [] (t :: rest)
        match skipBlank ts with
        | [] => refuse "key with no value, expected `=`" ⟨eof, eof⟩
        | u :: rest =>
          if u.kind != .equals then refuse "key with no value, expected `=`" ⟨u.start, u.start⟩
          else do
            let (v, ts) ← readTerm eof fuel (skipBlank rest)
            match skipLines ts with
            | [] => refuse "unclosed inline table, expected `\x7d`" ⟨eof, eof⟩
            | w :: rest =>
              if w.kind == .comma then readTable eof fuel start ((keys, v) :: read) rest
              else if w.kind == .closeBrace then .ok (.table ⟨start, w.stop⟩ ((keys, v) :: read).reverse, rest)
              else refuse "missing comma between key-value pairs, expected `,`" ⟨w.start, w.start⟩

end

/-- Nothing but a comment may follow on a line. -/
def endLine (ts : List Token) : Read (List Token) :=
  match skipBlank ts with
  | [] => .ok []
  | t :: rest =>
    if t.kind == .newline then .ok rest
    else if t.kind == .comment then .ok (rest.dropWhile (·.kind == .newline))
    else refuse "unexpected key or value, expected newline, `#`" ⟨t.start, t.start⟩

/-- Reads a header behind its opening brackets, the first of which is at `start`. -/
def readHeader (eof start : Nat) (ofTables : Bool) (ts : List Token) : Read (Line × List Token) := do
  let (keys, ts) := readKeys eof [] ts
  let name := if ofTables then "unclosed array table" else "unclosed table"
  let line (stop : Nat) : Line := .header ofTables ⟨start, stop⟩ keys
  let closed (t : Token) (ts : List Token) : Read (Line × List Token) := do
    let ts ← endLine ts
    .ok (line t.stop, ts)
  match skipBlank ts with
  | t :: rest =>
    if t.kind == .closeBracket then
      if !ofTables then closed t rest
      else
        match rest with
        | u :: rest =>
          if u.kind == .closeBracket then closed u rest else refuse (name ++ ", expected `]`") ⟨t.stop, t.stop⟩
        | [] => refuse (name ++ ", expected `]`") ⟨t.stop, t.stop⟩
    else unclosed keys name line (t :: rest)
  | [] => unclosed keys name line []
where
  /-- A header without its closing bracket; if its key is missing too, the key is what will be reported. -/
  unclosed (keys : List Written) (name : String) (line : Nat → Line) (ts : List Token) : Read (Line × List Token) :=
    match keys.getLast? with
    | some k =>
      if k.span.start < k.span.stop then
        refuse (name ++ (if ofTables then ", expected `]]`" else ", expected `]`")) ⟨k.span.stop, k.span.stop⟩
      else .ok (line k.span.stop, ts.dropWhile (·.kind != .newline))
    | none => .ok (line eof, ts.dropWhile (·.kind != .newline))

def readAssignment (eof fuel : Nat) (ts : List Token) : Read (Line × List Token) := do
  let (keys, ts) := readKeys eof [] ts
  match skipBlank ts with
  | [] => refuse "key with no value, expected `=`" ⟨eof, eof⟩
  | t :: rest =>
    if t.kind != .equals then refuse "key with no value, expected `=`" ⟨t.start, t.start⟩
    else
      let (v, ts) ← readTerm eof fuel (skipBlank rest)
      let ts ← endLine ts
      .ok (.assignment keys v, ts)

def readLines (eof : Nat) : Nat → List Line → List Token → Read (List Line)
  | 0, read, _ => .ok read.reverse
  | fuel + 1, read, ts =>
    match ts with
    | [] => .ok read.reverse
    | t :: rest =>
      match t.kind with
      | .blank | .newline | .comment => readLines eof fuel read rest
      | .openBracket => do
        let (line, ts) ← match rest with
          | u :: more =>
            if u.kind == .openBracket then readHeader eof t.start true more else readHeader eof t.start false rest
          | [] => readHeader eof t.start false rest
        readLines eof fuel (line :: read) ts
      | .closeBracket => refuse "missing table open, expected `[`" ⟨t.start, t.start⟩
      | .comma | .openBrace | .closeBrace => refuse "invalid key-value pair, expected key" t.span
      | _ => do
        let (line, ts) ← readAssignment eof fuel ts
        readLines eof fuel (line :: read) ts

/-- A control character in a comment, or a carriage return that ends a line alone. -/
def badBlank? (t : Token) : Option DecodeError :=
  if t.kind == .comment then
    (t.chars.findIdx? fun c => (c.toNat < 0x20 && c != '\t') || c.toNat == 0x7F).map fun i =>
      ⟨"invalid comment character, expected printable characters", ⟨t.start + i, t.start + i⟩⟩
  else if t.kind == .newline && t.chars == ['\r'] then
    some ⟨"carriage return must be followed by newline, expected newline", ⟨t.stop, t.stop⟩⟩
  else none

/-- A text behind its byte order mark, if it has one, and where that is. -/
def behindMark : List Char → Nat × List Char
  | [] => (0, [])
  | c :: rest => if c.toNat = 0xFEFF then (1, rest) else (0, c :: rest)

/-- The lines of a text.  A byte order mark at its start is skipped.  Of two errors the one that comes first counts. -/
def lines (cs : List Char) : Read (List Line) :=
  let (start, body) := behindMark cs
  let ts := tokens start body
  match ts.findSome? badBlank?, readLines cs.length (2 * ts.length + 2) [] ts with
  | none, r => r
  | some e, .ok _ => .error e
  | some e, .error f => .error (if e.place.start ≤ f.place.start then e else f)

end Sandscript.Toml
