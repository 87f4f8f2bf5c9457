import Enclosure.Concrete.Tree
import Enclosure.Encoding.Utf8
import Enclosure.Node.Basic

/-!
# Outlines of concrete trees

Which nodes of a concrete tree are worth reporting, on which lines they stand, and what is wrong
with a tree that holds an error.

What is here:

* `Concrete.lineSpan`: the lines of a node; one that stops at the very start of a line does not
  reach it.
* `Label.nameIn`: the name of a node, with `Label.nameIn_eq_some_iff`.
* `Tree.firstError?`: the first node that is an error or that is missing.
* `Tree.firstLegacy?`: the first statement of a form that is no longer in use.
* `Tree.outline`: the named nodes.
-/

set_option autoImplicit false

namespace Enclosure.Concrete

/-- The first and the last line of a span. -/
def lineSpan (s : Span) : Nat × Nat :=
  if s.stop.column = 0 ∧ s.start.row < s.stop.row then (s.start.row + 1, s.stop.row)
  else (s.start.row + 1, s.stop.row + 1)

/-- The bytes from one offset to another. -/
def bytesBetween (start stop : Nat) (bytes : Bytes) : Bytes := (bytes.take stop).drop start

/-- The name of a node, if it is an identifier. -/
def Label.nameIn (l : Label) (bytes : Bytes) : Option String :=
  match l.naming with
  | none => none
  | some n =>
    if n.kind = "identifier" then
      some (String.ofList (Utf8.decodeReplacing (bytesBetween n.startByte n.stopByte bytes)))
    else none

/-- **What a node is called**: it has a name exactly if its name is an identifier, and then that is
what the bytes of the identifier say. -/
theorem Label.nameIn_eq_some_iff {l : Label} {bytes : Bytes} {name : String} :
    l.nameIn bytes = some name ↔ ∃ start stop, l.naming = some ⟨"identifier", start, stop⟩ ∧
      name = String.ofList (Utf8.decodeReplacing ((bytes.take stop).drop start)) := by
  rw [nameIn]
  cases l.naming with
  | none => simp
  | some n =>
    obtain ⟨kind, start, stop⟩ := n
    by_cases hkind : kind = "identifier"
    · simp only [hkind, if_true, bytesBetween, Option.some.injEq, Naming.mk.injEq, true_and]
      exact ⟨fun h => ⟨start, stop, ⟨rfl, rfl⟩, h.symm⟩, fun ⟨_, _, ⟨hs, ht⟩, h⟩ => by rw [h, hs, ht]⟩
    · simp [hkind]

/-- The node of a label. -/
def Label.node (l : Label) (bytes : Bytes) : Node :=
  let lines := lineSpan l.span
  { kind := l.kind, firstLine := some lines.1, lastLine := some lines.2, name := l.nameIn bytes }

/-- Statements that are no longer in use. -/
def Label.isLegacy (l : Label) : Bool := l.kind = "print_statement" || l.kind = "exec_statement"

/-- Whether there is something wrong with the node itself. -/
def Label.isFault (l : Label) : Bool := l.isError || l.isMissing

namespace Tree

/-- The first fault among trees that are still to be visited; below a node that is said to hold no
error none is looked for. -/
def firstFault? : List Tree → Option Label
  | [] => none
  | .node l below :: rest =>
    if l.isFault then some l
    else if l.hasError then firstFault? (below ++ rest)
    else firstFault? rest
termination_by ts => Tree.sizeAll ts
decreasing_by all_goals simp only [Tree.sizeAll_append, Tree.sizeAll, Tree.size]; omega

/-- The first node that is an error or that is missing. -/
def firstError? (t : Tree) : Option Label := firstFault? [t]

/-- The first statement of a form that is no longer in use. -/
def firstLegacy? (t : Tree) : Option Label := (Tree.visit [t]).find? (·.isLegacy)

/-- The root without lines, and the named nodes below it. -/
def outline (t : Tree) (bytes : Bytes) : List Node :=
  { kind := t.kind } ::
    ((Tree.visit t.children).filter (·.named)).map fun l => l.node bytes

end Tree
end Enclosure.Concrete
