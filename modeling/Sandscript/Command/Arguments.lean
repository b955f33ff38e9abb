import Sandscript.Numeric.Rounding

/-!
# Command lines

A command line names a command with its operands and sets options.  Some options belong to all commands and may stand
before the command as well; what stands behind the command wins.  An option is set at most once on either side.
-/

namespace Sandscript

inductive Action where
  | validate (script : String)
  | apply (script records : String) (output : Option String) (strict : Bool)
  | policy
deriving DecidableEq, Repr

/-- A command line that makes sense. -/
structure Invocation where
  action : Action
  format : String
  policy : Option String
  timeoutMs : Option UInt64
  verbose : Bool
deriving DecidableEq, Repr

/-- Why a command line is not carried out. -/
inductive Diversion where
  | help
  | version
  | misuse
deriving DecidableEq, Repr

namespace Invocation

private inductive CommandName where
  | validate
  | apply
  | policy
deriving DecidableEq

private def CommandName.ofWord? : String → Option CommandName
  | "validate" => some .validate
  | "apply" => some .apply
  | "policy" => some .policy
  | _ => none

/-- How many operands a command takes. -/
private def CommandName.arity : CommandName → Nat
  | .validate => 1
  | .apply => 2
  | .policy => 0

private inductive OptionName where
  | verbose
  | format
  | policy
  | timeoutMs
  | output
  | strict
  | help
  | version
deriving DecidableEq

/-- Where a word stands: before the command or behind it. -/
private abbrev Place := Option CommandName

namespace OptionName

private def table : List (OptionName × String × Option Char) :=
  [(verbose, "verbose", some 'v'), (format, "format", none), (policy, "policy", none),
   (timeoutMs, "timeout-ms", none), (output, "output", some 'o'), (strict, "strict", none), (help, "help", some 'h'),
   (version, "version", some 'V')]

private def admitted (place : Place) : OptionName → Bool
  | output | strict => place == some .apply
  | version => place.isNone
  | _ => true

private def takesValue : OptionName → Bool
  | format | policy | timeoutMs | output => true
  | _ => false

private def ofLong? (place : Place) (name : String) : Option OptionName :=
  (table.find? fun (o, long, _) => long == name && o.admitted place).map (·.1)

private def ofShort? (place : Place) (c : Char) : Option OptionName :=
  (table.find? fun (o, _, short) => short == some c && o.admitted place).map (·.1)

end OptionName

/-- A count of milliseconds. -/
private def readMs? (s : String) : Option UInt64 :=
  let ds := match s.toList with
    | '+' :: rest => rest
    | cs => cs
  if ds.isEmpty || !ds.all Char.isDigit then none
  else
    let n := Numeric.ofDigits ds
    if n < 2 ^ 64 then some (UInt64.ofNat n) else none

/-- What was set on one side of the command. -/
private structure Settings where
  verbose : Bool := false
  format : Option String := none
  policy : Option String := none
  timeoutMs : Option UInt64 := none
  output : Option String := none
  strict : Bool := false

private abbrev Reading (α : Type) := Except Diversion α

namespace Settings

/-- A path, which is not empty. -/
private def path (value : String) : Reading String := if value.isEmpty then .error .misuse else .ok value

private def once {α : Type} (old : Option α) : Reading Unit := if old.isSome then .error .misuse else .ok ()

private def raiseFlag (s : Settings) : OptionName → Reading Settings
  | .help => .error .help
  | .version => .error .version
  | .verbose => if s.verbose then .error .misuse else .ok { s with verbose := true }
  | .strict => if s.strict then .error .misuse else .ok { s with strict := true }
  | _ => .error .misuse

private def give (s : Settings) (value : String) : OptionName → Reading Settings
  | .format => do
    once s.format
    .ok { s with format := some value }
  | .policy => do
    once s.policy
    .ok { s with policy := some (← path value) }
  | .output => do
    once s.output
    .ok { s with output := some (← path value) }
  | .timeoutMs => do
    once s.timeoutMs
    match readMs? value with
    | some ms => .ok { s with timeoutMs := some ms }
    | none => .error .misuse
  | _ => .error .misuse

end Settings

/-- Looks like an option, so it is not the value of one. -/
private def isOption (w : String) : Bool :=
  match w.toList with
  | '-' :: _ :: _ => true
  | _ => false

/-- An option that waits for its value, if the word held one without value. -/
private abbrev Pending := Option OptionName

/-- A word of the form `--name` or `--name=value`. -/
private def readLong (place : Place) (s : Settings) (cs : List Char) : Reading (Settings × Pending) :=
  let name := String.ofList (cs.takeWhile (· != '='))
  match OptionName.ofLong? place name, cs.dropWhile (· != '=') with
  | none, _ => .error .misuse
  | some o, [] => if o.takesValue then .ok (s, some o) else (s.raiseFlag o).map (·, none)
  | some o, _ :: value => if o.takesValue then (s.give (String.ofList value) o).map (·, none) else .error .misuse

/-- A word of the form `-abc`.  An option that takes a value takes the rest of the word. -/
private def readShort (place : Place) (s : Settings) : List Char → Reading (Settings × Pending)
  | [] => .ok (s, none)
  | c :: rest =>
    match OptionName.ofShort? place c with
    | none => .error .misuse
    | some o =>
      if o.takesValue then
        match rest with
        | [] => .ok (s, some o)
        | '=' :: value => (s.give (String.ofList value) o).map (·, none)
        | value => (s.give (String.ofList value) o).map (·, none)
      else
        match s.raiseFlag o with
        | .ok s => readShort place s rest
        | .error e => .error e

private structure Progress where
  /-- The settings before the command, once it was named. -/
  outer : Settings := {}
  place : Place := none
  settings : Settings := {}
  /-- The operands in reverse. -/
  operands : List String := []
  pending : Pending := none
  /-- Behind `--` every word is an operand. -/
  operandsOnly : Bool := false

private def operand (p : Progress) (w : String) : Reading Progress :=
  match p.place with
  | some c =>
    if p.operands.length < c.arity && !w.isEmpty then .ok { p with operands := w :: p.operands } else .error .misuse
  | none =>
    match if p.operandsOnly then none else CommandName.ofWord? w with
    | some c => .ok { p with outer := p.settings, place := some c, settings := {} }
    | none => .error .misuse

private def word (p : Progress) (w : String) : Reading Progress :=
  match p.pending with
  | some o =>
    if isOption w then .error .misuse else (p.settings.give w o).map ({ p with settings := ·, pending := none })
  | none =>
    if p.operandsOnly then operand p w
    else
      match w.toList with
      | ['-', '-'] => .ok { p with operandsOnly := true }
      | '-' :: '-' :: cs => (readLong p.place p.settings cs).map fun (s, o) => { p with settings := s, pending := o }
      | '-' :: c :: cs =>
        (readShort p.place p.settings (c :: cs)).map fun (s, o) => { p with settings := s, pending := o }
      | _ => operand p w

private def requested (p : Progress) : Reading Action :=
  match p.place, p.operands.reverse with
  | some .validate, [script] => .ok (.validate script)
  | some .apply, [script, records] => .ok (.apply script records p.settings.output p.settings.strict)
  | some .policy, [] => .ok .policy
  | _, _ => .error .misuse

/-- The words behind `help`, which may name a command. -/
private def helpFor : List String → Diversion
  | [] => .help
  | [w] => if w == "help" || (CommandName.ofWord? w).isSome then .help else .misuse
  | _ => .misuse

private def words (p : Progress) : List String → Reading Progress
  | [] => if p.pending.isSome then .error .misuse else .ok p
  | w :: rest =>
    if w == "help" && p.place.isNone && p.pending.isNone && !p.operandsOnly then .error (helpFor rest)
    else
      match word p w with
      | .ok p => words p rest
      | .error e => .error e

def defaultFormat : String := "pretty"

/-- Reads a command line; `policyVariable` is the policy file that the environment names. -/
def ofArguments (policyVariable : Option String) (args : List String) : Except Diversion Invocation := do
  let p ← words {} args
  let action ← requested p
  if policyVariable == some "" then .error .misuse
  else
    .ok { action
          format := (p.settings.format <|> p.outer.format).getD defaultFormat
          policy := p.settings.policy <|> p.outer.policy <|> policyVariable
          timeoutMs := p.settings.timeoutMs <|> p.outer.timeoutMs
          verbose := p.settings.verbose || p.outer.verbose }

end Invocation

end Sandscript
