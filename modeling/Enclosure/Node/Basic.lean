import Enclosure.Node.Range

/-!
# Nodes

What is left of a syntax tree once only kinds, lines and names matter.  A node may have no place in
the text; then it has no first or no last line, and it contains nothing.

What is here:

* `Node`: the kind of a construct, its lines and its name.
* `Node.contains`: whether all lines of a range belong to a node.
* `Context`: a node with a place, as an answer reports it.
* `Context.IsOf`: what a context says of its node, with `Node.context?_eq_some_iff`.
-/

set_option autoImplicit false

namespace Enclosure

/-- A construct without the tree around it. -/
structure Node where
  kind : String
  firstLine : Option Int := none
  lastLine : Option Int := none
  name : Option String := none
deriving Repr, DecidableEq

/-- A construct with a place in the text. -/
structure Context where
  kind : String
  firstLine : Int
  lastLine : Int
  name : Option String := none
deriving Repr, DecidableEq

/-- A context says of a node of which kind it is, on which lines it stands, and what it is called. -/
structure Context.IsOf (c : Context) (n : Node) : Prop where
  kind : c.kind = n.kind
  firstLine : n.firstLine = some c.firstLine
  lastLine : n.lastLine = some c.lastLine
  name : c.name = n.name

namespace Node

/-- The first and the last line, if the node has both. -/
def span? (n : Node) : Option (Int × Int) :=
  match n.firstLine, n.lastLine with
  | some first, some last => some (first, last)
  | _, _ => none

/-- How far apart the lines of the node are. -/
def width? (n : Node) : Option Int := n.span?.map fun s => s.2 - s.1

/-- Whether all lines of a range belong to the node. -/
def contains (n : Node) (r : LineRange) : Bool :=
  match n.span? with
  | some (first, last) => first ≤ r.start && r.stop ≤ last
  | none => false

/-- The node as an answer reports it. -/
def context? (n : Node) : Option Context :=
  n.span?.map fun s => { kind := n.kind, firstLine := s.1, lastLine := s.2, name := n.name }

/-- Why a node has no width. -/
def spanless (n : Node) : String := s!"Node {n.kind} has no line span"

theorem contains_eq_true_iff (n : Node) (r : LineRange) :
    n.contains r = true ↔
      ∃ first last, n.span? = some (first, last) ∧ first ≤ r.start ∧ r.stop ≤ last := by
  unfold contains
  cases h : n.span? with
  | none => simp
  | some s =>
    simp only [Bool.and_eq_true, decide_eq_true_eq]
    constructor
    · rintro ⟨h1, h2⟩
      exact ⟨s.1, s.2, rfl, h1, h2⟩
    · rintro ⟨first, last, hs, h1, h2⟩
      cases hs
      exact ⟨h1, h2⟩

/-- The context of a node, if it has one, is the one that says what the node is. -/
theorem context?_eq_some_iff {n : Node} {c : Context} : n.context? = some c ↔ c.IsOf n := by
  obtain ⟨kind, firstLine, lastLine, name⟩ := n
  obtain ⟨kind', first, last, name'⟩ := c
  constructor
  · intro h
    cases firstLine <;> cases lastLine <;> simp [context?, span?] at h
    obtain ⟨rfl, rfl, rfl, rfl⟩ := h
    exact ⟨rfl, rfl, rfl, rfl⟩
  · rintro ⟨rfl, rfl, rfl, rfl⟩
    rfl

/-- A node that contains something has a width. -/
theorem exists_width?_of_contains {n : Node} {r : LineRange} (h : n.contains r = true) :
    ∃ w, n.width? = some w := by
  obtain ⟨first, last, hs, -, -⟩ := (contains_eq_true_iff n r).mp h
  exact ⟨last - first, by simp [width?, hs]⟩

end Node
end Enclosure
