import Sandscript.Toml.Scalar

/-!
# Settings files

`read` turns a text into a map of data.  Tables are opened by headers and by dotted keys; neither may be defined
twice.  An error is shown with its line, and marks the characters it is about.
-/

namespace Sandscript.Toml

/-- How a table came to be. -/
inductive Origin where
  /-- As part of the path of a header. -/
  | path
  | header
  | dotted
deriving DecidableEq

inductive Node where
  /-- A value, with the word for its kind. -/
  | leaf (kind : String) (d : Datum)
  | table (origin : Origin) (span : Span) (entries : List (String × Node))
  | tables (span : Span) (items : List Node)

abbrev Entries := List (String × Node)

def duplicate {α : Type} (p : Span) : Except DecodeError α := .error ⟨"duplicate key", p⟩

/-- A value stands where a key goes on. -/
def noTable {α : Type} (kind : String) (p : Span) : Except DecodeError α :=
  .error ⟨"cannot extend value of type " ++ kind ++ " with a dotted key", p⟩

/-- Applies a change to the entries of the last table of a list. -/
def changeLast (f : Entries → Except DecodeError Entries) (p : Span) :
    List Node → Except DecodeError (List Node)
  | [] => duplicate p
  | [.table o s es] => do
    let es ← f es
    .ok [.table o s es]
  | [_] => duplicate p
  | n :: rest => do
    let rest ← changeLast f p rest
    .ok (n :: rest)

/-- Opens the table that a header at `span` names. -/
def openTable (ofTables : Bool) (span : Span) : List (String × Span) → Entries → Except DecodeError Entries
  | [], es => .ok es
  | [(k, p)], es =>
    match Fields.get? k es with
    | none =>
      let t := Node.table .header span []
      .ok (Fields.insert k (if ofTables then .tables span [t] else t) es)
    | some (.table .path _ inner) =>
      if ofTables then duplicate p else .ok (Fields.insert k (.table .header span inner) es)
    | some (.tables s items) =>
      if ofTables then .ok (Fields.insert k (.tables s (items ++ [.table .header span []])) es) else duplicate p
    | some _ => duplicate p
  | (k, p) :: keys, es =>
    match Fields.get? k es with
    | none => do
      let inner ← openTable ofTables span keys []
      .ok (Fields.insert k (.table .path p inner) es)
    | some (.table o s inner) => do
      let inner ← openTable ofTables span keys inner
      .ok (Fields.insert k (.table o s inner) es)
    | some (.tables s items) => do
      let items ← changeLast (openTable ofTables span keys) p items
      .ok (Fields.insert k (.tables s items) es)
    | some (.leaf kind _) => noTable kind p

/-- Applies a change to the entries of an open table. -/
def changeAt (f : Entries → Except DecodeError Entries) :
    List (String × Span) → Entries → Except DecodeError Entries
  | [], es => f es
  | (k, p) :: keys, es =>
    match Fields.get? k es with
    | some (.table o s inner) => do
      let inner ← changeAt f keys inner
      .ok (Fields.insert k (.table o s inner) es)
    | some (.tables s items) => do
      let items ← changeLast (changeAt f keys) p items
      .ok (Fields.insert k (.tables s items) es)
    | _ => duplicate p

/-- Adds a value under a key that may be dotted. -/
def assign (kind : String) (v : Datum) : List (String × Span) → Entries → Except DecodeError Entries
  | [], es => .ok es
  | [(k, p)], es => if Fields.contains k es then duplicate p else .ok (Fields.insert k (.leaf kind v) es)
  | (k, p) :: keys, es =>
    match Fields.get? k es with
    | none => do
      let inner ← assign kind v keys []
      .ok (Fields.insert k (.table .dotted p inner) es)
    | some (.table .dotted s inner) => do
      let inner ← assign kind v keys inner
      .ok (Fields.insert k (.table .dotted s inner) es)
    | some (.leaf kind' _) => noTable kind' p
    | some _ => duplicate p

def keysOf : List Written → Except DecodeError (List (String × Span))
  | [] => .ok []
  | w :: rest => do
    let k ← w.key
    let ks ← keysOf rest
    .ok ((k, w.span) :: ks)

mutual

def datumOfNode : Node → Datum
  | .leaf _ d => d
  | .table _ s es => .map s (datumsOfEntries es)
  | .tables s items => .seq s (datumsOfNodes items)

def datumsOfEntries : List (String × Node) → List (String × Datum)
  | [] => []
  | (k, n) :: rest => (k, datumOfNode n) :: datumsOfEntries rest

def datumsOfNodes : List Node → List Datum
  | [] => []
  | n :: rest => datumOfNode n :: datumsOfNodes rest

end

/-- The word for the kind of a value. -/
def kindOf : Term → Datum → String
  | .list _ _, _ => "array"
  | .table _ _, _ => "inline table"
  | .scalar _, d => match d with
    | .bool _ _ => "boolean"
    | .int _ _ => "integer"
    | .str _ _ => "string"
    | .other _ found => if found == "map" then "datetime" else "float"
    | _ => "value"

mutual

def datumOfTerm : Term → Except DecodeError Datum
  | .scalar w => w.value
  | .list s items => do
    let ds ← datumsOfTerms items
    .ok (.seq s ds)
  | .table s entries => do
    let es ← entriesOfTerms entries []
    .ok (.map s (datumsOfEntries es))

def datumsOfTerms : List Term → Except DecodeError (List Datum)
  | [] => .ok []
  | t :: rest => do
    let d ← datumOfTerm t
    let ds ← datumsOfTerms rest
    .ok (d :: ds)

def entriesOfTerms : List (List Written × Term) → Entries → Except DecodeError Entries
  | [], es => .ok es
  | (keys, t) :: rest, es => do
    let ks ← keysOf keys
    let v ← datumOfTerm t
    let es ← assign (kindOf t v) v ks es
    entriesOfTerms rest es

end

def build : List Line → List (String × Span) → Entries → Except DecodeError Entries
  | [], _, es => .ok es
  | .header ofTables span keys :: rest, _, es => do
    let ks ← keysOf keys
    let es ← openTable ofTables span ks es
    build rest ks es
  | .assignment keys t :: rest, current, es => do
    let ks ← keysOf keys
    let v ← datumOfTerm t
    let es ← changeAt (assign (kindOf t v) v ks) current es
    build rest current es

def read (text : String) : Except DecodeError Datum := do
  let cs := text.toList
  let ls ← lines cs
  let es ← build ls [] []
  .ok (.map ⟨0, cs.length⟩ (datumsOfEntries es))

/-! ### Showing errors -/

/-- The number of bytes of a text. -/
def size (cs : List Char) : Nat := (String.ofList cs).utf8ByteSize

/-- The line and the column of a place, both from zero.  The end of a text counts as the place behind its last
character.  A column is counted in characters, but in bytes where it is that of a character of several bytes. -/
def position (cs : List Char) (place : Nat) : Nat × Nat :=
  let inside := min place (cs.length - 1)
  let before := cs.take inside
  let ahead := before.reverse.takeWhile (· != '\n')
  let column := match cs[place]? with
    | some c => if 1 < c.utf8Size then size ahead else ahead.length
    | none => ahead.length
  (before.count '\n', column + (place - inside))

def nthLine (cs : List Char) (n : Nat) : List Char :=
  ((String.ofList cs).splitOn "\n")[n]?.getD "" |>.toList

/-- An error with the line it is about; marks stand below the characters it is about, one for each byte. -/
def showError (text : String) (e : DecodeError) : String :=
  let cs := text.toList
  let (line, column) := position cs e.place.start
  let number := toString (line + 1)
  let content := nthLine cs line
  let gutter := String.ofList (List.replicate (number.length + 1) ' ')
  let marked := (cs.drop e.place.start).take (e.place.stop - e.place.start)
  let marks := max 1 (min (size marked) (size content - column))
  "TOML parse error at line " ++ number ++ ", column " ++ toString (column + 1) ++ "\n" ++
    gutter ++ "|\n" ++
    number ++ " | " ++ String.ofList content ++ "\n" ++
    gutter ++ "|" ++ String.ofList (List.replicate (column + 1) ' ') ++ String.ofList (List.replicate marks '^') ++
    "\n" ++ e.message ++ "\n"

end Sandscript.Toml
