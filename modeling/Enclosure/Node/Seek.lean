import Enclosure.Backend.Failure
import Enclosure.Node.Select

/-!
# Walking along nodes

A search walks along the nodes once and keeps the best one so far.  To ask a node without lines for
its width is a mistake, so a node is passed over before it is asked if it does not contain the range
or is of another kind.

What is here:

* `Node.width`: the width of a node that has to have one.
* `pass` and `seek`: one node of the walk, and the walk along all of them.
-/

set_option autoImplicit false

namespace Enclosure

/-- The width of a node; to ask for that of a node without lines is a mistake. -/
def Node.width (n : Node) : Except Failure Int :=
  match n.width? with
  | some w => .ok w
  | none => .error (.foreign "ValueError" (Codes.ofString n.spanless))

/-- One node of the walk.  It is passed over if it does not contain the range or if it is of another
kind, and only then asked for its width. -/
def pass (range : LineRange) (mode : Mode) (kinds : Kinds) (best : Option (Node × Int)) (n : Node) :
    Except Failure (Option (Node × Int)) :=
  if !n.contains range then .ok best
  else if !admits kinds n.kind then .ok best
  else n.width.map fun w => mode.better best (n, w)

/-- The walk along all nodes. -/
def seek (nodes : List Node) (range : LineRange) (mode : Mode) (kinds : Kinds) :
    Except Failure (Option Node) :=
  if range.isEmpty then .ok none
  else (nodes.foldlM (pass range mode kinds) none).map fun best => best.map Prod.fst

end Enclosure
