/-!
# Powers

A power is that of core Lean, whatever else the module that writes it imports.
-/

namespace Sandscript.Numeric

-- Mathlib reads `b ^ n` through its monoids, so a bound such as `2 ^ 63` would be another term where it is imported.
attribute [instance (2000)] instPowNat

attribute [default_instance 20000] instPowNat

end Sandscript.Numeric
