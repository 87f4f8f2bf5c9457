import Enclosure.Encoding.Fault
import Enclosure.Number.Shortest

/-!
# Starting another program

What is here:

* `Seconds`: a time limit, whole or with a fraction.
* `Launch`: a request to start a program.
* `Ending`: how a program ended, or why it did not start.
-/

set_option autoImplicit false

namespace Enclosure

/-- A time limit. -/
inductive Seconds where
  | whole (n : Int)
  | real (x : Binary64)
deriving Repr, DecidableEq

/-- A time limit as text. -/
def Seconds.text : Seconds → String
  | whole n => toString n
  | real x => x.text

/-- A request to start a program that reads its input to the end. -/
structure Launch where
  program : String
  input : Bytes
  timeout : Option Seconds
deriving Repr, DecidableEq

/-- How a program ended, or why it did not start. -/
inductive Ending where
  /-- It ran to its end. -/
  | exited (status : Int) (output diagnostics : Bytes)
  /-- It was still running when its time was over. -/
  | timedOut
  /-- There is no such program. -/
  | notFound
  /-- The system refused to start it. -/
  | refused (reason : String)
  /-- The attempt failed in another way. -/
  | failed (kind message : String)

end Enclosure
