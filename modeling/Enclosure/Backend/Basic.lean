import Enclosure.Backend.Trace
import Enclosure.Node.Basic

/-!
# Back ends

A back end turns a text into nodes.  It may answer the same text differently from one call to the
next, so it is told how often it has been asked before.

What is here:

* `Backend`: a name, and an answer for each call.
* `Backend.ask`: one call.
* `Backend.IsStable`: the answer depends on the text alone.
-/

set_option autoImplicit false

namespace Enclosure

/-- Something that turns a text into nodes. -/
structure Backend where
  name : String
  /-- The answer to a text after so many earlier calls. -/
  answer : Nat → Codes → Traced (Except Failure (List Node))

namespace Backend

/-- Ask for the nodes of a text. -/
def ask (b : Backend) (earlier : Nat) (source : Codes) : Traced (Except Failure (List Node)) := do
  let _ ← (⟨(), [.asked]⟩ : Traced Unit)
  b.answer earlier source

/-- The answer depends on the text alone. -/
def IsStable (b : Backend) : Prop :=
  ∀ (m n : Nat) (source : Codes), b.answer m source = b.answer n source

end Backend
end Enclosure
