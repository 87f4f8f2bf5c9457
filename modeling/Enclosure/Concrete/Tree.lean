import Enclosure.Tree

/-!
# Concrete trees

A concrete tree covers every character that a construct is written with.  Its nodes know where they
start and stop, as a byte offset and as a row with a column counted in bytes.  Besides the
constructs themselves it has nodes for single marks, which carry no name of their own, and nodes
for text that fits nowhere or that is missing.

What is here:

* `Point` and `Span`: places in a text.
* `Label`: what is known about one node.
* `Tree`: a label with the trees below it.
-/

set_option autoImplicit false

namespace Enclosure.Concrete

/-- A place between two characters; rows and columns count from zero. -/
structure Point where
  row : Nat
  column : Nat
deriving Repr, DecidableEq, Inhabited

/-- From one place to another, with the byte offsets of both. -/
structure Span where
  start : Point
  stop : Point
  startByte : Nat
  stopByte : Nat
deriving Repr, DecidableEq, Inhabited

/-- The part of a node that names it: its kind, and the bytes it consists of. -/
structure Naming where
  kind : String
  startByte : Nat
  stopByte : Nat
deriving Repr, DecidableEq

/-- What is known about one node. -/
structure Label where
  kind : String
  span : Span
  /-- Constructs are named; single marks and reserved words are not. -/
  named : Bool := true
  /-- The node holds text that fits nowhere. -/
  isError : Bool := false
  /-- The node stands for something that is not there. -/
  isMissing : Bool := false
  /-- There is an error in the node or below it. -/
  hasError : Bool := false
  /-- What the construct calls itself. -/
  naming : Option Naming := none
deriving Repr, DecidableEq, Inhabited

/-- A concrete tree. -/
abbrev Tree := Enclosure.Tree Label

namespace Tree

/-- The kind of the root. -/
def kind (t : Tree) : String := t.label.kind

/-- A tree without anything below it. -/
def leaf (kind : String) (span : Span) (named : Bool) : Tree :=
  .node { kind := kind, span := span, named := named } []

/-- Trees that may stand between any two tokens: comments and continuation marks. -/
def isExtra (t : Tree) : Bool := t.kind == "comment" || t.kind == "line_continuation"

end Tree
end Enclosure.Concrete
