import Sandscript.Trace.Basic
import Sandscript.Fields

/-!
# What changed in a record

The difference of two records lists the fields that differ, in ascending order.  The identifier is never among them.
-/

namespace Sandscript

/-- Two optional values are the same if both are absent or both are present and equal. -/
def sameField : Option Json → Option Json → Bool
  | none, none => true
  | some a, some b => a.eqv b
  | _, _ => false

namespace Record

/-- The fields to compare, in ascending order and each once: those that are tracked, or all fields of both. -/
def comparedFields (tracked : Option (List String)) (before after : Record) : List String :=
  let names := match tracked with
    | some names => names
    | none => Fields.keys before ++ Fields.keys after
  Fields.keys (Fields.ofPairs (names.map (·, ())))

/-- The change of one field, if it differs. -/
def change? (before after : Record) (field : String) : Option FieldChange :=
  let old := Fields.get? field before
  let new := Fields.get? field after
  if sameField old new then none else some ⟨field, old, new⟩

def diff (policy : Policy) (before after : Record) : List FieldChange :=
  ((comparedFields policy.trackedFields before after).filter (· != policy.identifierField)).filterMap
    (change? before after)

end Record

end Sandscript
