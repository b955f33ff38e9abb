import Sandscript.Json.Basic
import Sandscript.Numeric.Shortest
import Sandscript.Text.Quoted

/-!
# Data to be decoded

A datum is a value read from a document whose shape is still to be checked, with the place it was read from.  The
decoders here say what was found when the shape is wrong.  A structure may be given as a map, in which unknown keys are
ignored, or as a sequence of its fields in order.
-/

namespace Sandscript

/-- The characters from `start` up to `stop` of a document. -/
structure Span where
  start : Nat
  stop : Nat
deriving DecidableEq, Repr, Inhabited

structure DecodeError where
  message : String
  place : Span
deriving Repr, DecidableEq

inductive Datum where
  | null (place : Span)
  | bool (place : Span) (b : Bool)
  | int (place : Span) (n : Int)
  | str (place : Span) (s : String)
  | other (place : Span) (found : String)
  | seq (place : Span) (items : List Datum)
  | map (place : Span) (fields : List (String × Datum))
deriving Inhabited

namespace Datum

def place : Datum → Span
  | null p | bool p _ | int p _ | str p _ | other p _ | seq p _ | map p _ => p

/-- What was found, in the words of an error. -/
def found : Datum → String
  | null _ => "null"
  | bool _ b => "boolean `" ++ toString b ++ "`"
  | int _ n => "integer `" ++ toString n ++ "`"
  | str _ s => "string " ++ Text.quoted s
  | other _ f => f
  | seq _ _ => "sequence"
  | map _ _ => "map"

abbrev Decoded (α : Type) := Except DecodeError α

def misfit {α : Type} (d : Datum) (expected : String) : Decoded α :=
  .error ⟨"invalid type: " ++ d.found ++ ", expected " ++ expected, d.place⟩

def asBool : Datum → Decoded Bool
  | bool _ b => .ok b
  | d => d.misfit "a boolean"

def asString : Datum → Decoded String
  | str _ s => .ok s
  | d => d.misfit "a string"

/-- A number that fits in 64 bits without a sign. -/
def asWord (expected : String) (d : Datum) : Decoded UInt64 :=
  match d with
  | int p n =>
    if 0 ≤ n ∧ n < 2 ^ 64 then .ok (UInt64.ofNat n.toNat)
    else if -(2 ^ 63) ≤ n ∧ n < 0 then
      .error ⟨"invalid value: integer `" ++ toString n ++ "`, expected " ++ expected, p⟩
    else if -(2 ^ 127) ≤ n ∧ n < 2 ^ 127 then
      .error ⟨"invalid type: integer `" ++ toString n ++ "` as i128, expected " ++ expected, p⟩
    else if 0 ≤ n ∧ n < 2 ^ 128 then
      .error ⟨"invalid type: integer `" ++ toString n ++ "` as u128, expected " ++ expected, p⟩
    else .error ⟨"integer number overflowed", p⟩
  | d => d.misfit expected

def asList {α : Type} (item : Datum → Decoded α) : Datum → Decoded (List α)
  | seq _ items => items.mapM item
  | d => d.misfit "a sequence"

def asOption {α : Type} (some' : Datum → Decoded α) : Datum → Decoded (Option α)
  | null _ => .ok none
  | d => (some' d).map some

/-- The fields of a structure; a sequence gives them in the order of `names`. -/
def asFields (expected : String) (names : List String) : Datum → Decoded (List (String × Datum))
  | map _ fields => .ok fields
  | seq _ items => .ok (names.zip items)
  | d => d.misfit expected

/-- A sequence must not hold more items than a structure has fields. -/
def checkLength (names : List String) : Datum → Decoded Unit
  | seq p items =>
    if names.length < items.length then
      .error ⟨"invalid length " ++ toString items.length ++ ", expected fewer elements in array", p⟩
    else .ok ()
  | _ => .ok ()

/-- Chooses a variant by its name, given as a string or as the only key of a map. -/
def asVariant {α : Type} (named : String → Option α) (names : List String) (d : Datum) : Decoded α :=
  let choose (p : Span) (s : String) : Decoded α :=
    match named s with
    | some v => .ok v
    | none =>
      let quotedNames := names.map fun n => "`" ++ n ++ "`"
      let expected := match quotedNames with
        | [] => ""
        | [a] => a
        | [a, b] => a ++ " or " ++ b
        | ns => "one of " ++ ", ".intercalate ns
      .error ⟨"unknown variant `" ++ s ++ "`, expected " ++ expected, p⟩
  match d with
  | str p s => choose p s
  | map p [(k, v)] =>
    match choose p k, v with
    | .error e, _ => .error e
    | .ok a, null _ => .ok a
    | .ok _, v => v.misfit "unit"
  | map p _ => .error ⟨"invalid value: map, expected map with a single key", p⟩
  | d => d.misfit "string or map"

mutual

/-- A JSON value as a datum without a place. -/
def ofJson : Json → Datum
  | .null => null ⟨0, 0⟩
  | .bool b => bool ⟨0, 0⟩ b
  | .num (.int n _) => int ⟨0, 0⟩ n
  | .num (.float x _) => other ⟨0, 0⟩ ("floating point `" ++ FloatLayout.interchange.text x ++ "`")
  | .str s => str ⟨0, 0⟩ s
  | .arr items => seq ⟨0, 0⟩ (ofItems items)
  | .obj fields => map ⟨0, 0⟩ (ofFields fields)

def ofItems : List Json → List Datum
  | [] => []
  | v :: rest => ofJson v :: ofItems rest

def ofFields : List (String × Json) → List (String × Datum)
  | [] => []
  | (k, v) :: rest => (k, ofJson v) :: ofFields rest

end

end Datum

end Sandscript
