import Enclosure.Concrete.Repair

/-!
# Reading a whole text

`Concrete.read` turns a text into a tree.  A text that cannot be read to its end still gives a tree:
one with a node for what is wrong with it first.

What is here:

* `Concrete.read`: the tree of a text.
-/

set_option autoImplicit false

namespace Enclosure.Concrete

/-- The start of a text. -/
def Cursor.start (text : List Char) : Cursor := { rest := text, point := ⟨0, 0⟩, byte := 0 }

/-- How many repairs are looked ahead. -/
def repairsAhead : Nat := 3

/-- A node that says what is wrong at a place. -/
def Repair.node (r : Repair) : Tree :=
  let span : Span := ⟨r.place, r.place, r.byte, r.byte⟩
  match r.missing with
  | some kind => .node { kind := kind, span := span, isMissing := true, hasError := true } []
  | none => .node { kind := "ERROR", span := span, isError := true, hasError := true } []

/-- What is wrong with a text as a whole: it starts with something that leads nowhere. -/
def Repair.ofWhole (text : Cursor) : Repair :=
  let r := (Scanner.startingAt text).next {}
  let span := match r.extras with
    | [] => r.span
    | t :: _ => t.label.span
  { place := span.start, byte := span.startByte, cost := 0 }

/-- The tree of a text. -/
def read (text : List Char) : Tree :=
  let start := Cursor.start text
  match readFrom start with
  | .ok b =>
    .node
      { kind := "module"
        span := ⟨⟨0, 0⟩, b.scanner.cursor.point, 0, b.scanner.cursor.byte⟩ } b.heap.reverse
  | .error _ =>
    let fault := ((repair? repairsAhead start).getD (Repair.ofWhole start)).node
    .node { kind := "module", span := fault.label.span, hasError := true } [fault]

end Enclosure.Concrete
