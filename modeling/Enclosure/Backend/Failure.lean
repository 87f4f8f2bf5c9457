import Enclosure.Json.Value

/-!
# Failures

What is here:

* `Failure`: why a back end has no nodes to report.
* `Failure.isForeign`: whether a failure is none that a search or a check expects.
-/

set_option autoImplicit false

namespace Enclosure

/-- Why a back end has no nodes to report. -/
inductive Failure where
  /-- The text does not have the form that the grammar asks for. -/
  | unparsable (message : Codes) (line : Json)
  /-- The back end could not be used at all. -/
  | unavailable (message : Codes)
  /-- A failure of the same family that says no more than that. -/
  | unspecific (message : Codes)
  /-- A failure of another family, with its kind. -/
  | foreign (kind : String) (message : Codes)
deriving Inhabited

namespace Failure

/-- What a failure says. -/
def message : Failure → Codes
  | unparsable m _ => m
  | unavailable m => m
  | unspecific m => m
  | foreign _ m => m

/-- Whether a failure is none that a search or a check expects. -/
def isForeign : Failure → Bool
  | foreign _ _ => true
  | _ => false

/-- A record that could not be made. -/
def invalid (message : String) : Failure := foreign "ValidationError" (Codes.ofString message)

end Failure
end Enclosure
