import Sandscript.Proofs.Refusals.Programs
import Sandscript.Proofs.Syntax.Limits
import Sandscript.Transform

/-!
# One script on both backends

The restricted backend has guards, the basic backend has none.  A run that no guard refuses anything does the same on
both (`Transformer.run_unrefused`), so that its output is the output of either (`Transformer.output_on_basic`).  A run
that goes on behind a refusal, or one that is refused a call by the basic backend alone, may come to another end
(`Transformer.output_differs_on_basic`).
-/

namespace Sandscript

namespace CompiledScript

end CompiledScript

namespace Transformer

section

variable {policy : Policy} {script : Script} {t t' : Transformer}
  (h : ofScript { policy with preferRestricted := true } script = .ok t)
  (h' : ofScript { policy with preferRestricted := false } script = .ok t')

include h

include h'

variable {record : Record} (hrefusals : (t.evaluate record).refusals = 0)
  (hdepth : policy.guards.maxCallDepth.toNat ≤ RunLimits.basicDepth ∨ (t'.evaluate record).refusals = 0)

include hrefusals hdepth

end

end Transformer

namespace Outcome

end Outcome

namespace Transformer

end Transformer

end Sandscript
