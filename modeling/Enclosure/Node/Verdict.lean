/-!
# Verdicts

What is here:

* `Verdict`: whether a text is well formed and, if not, why.
-/

set_option autoImplicit false

namespace Enclosure

/-- Whether a text is well formed; if it is not, `error` says why. -/
structure Verdict where
  valid : Bool
  error : String := ""
deriving Repr, DecidableEq

end Enclosure
