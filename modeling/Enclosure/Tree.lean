/-!
# Trees

A tree has a label at each node and the trees below it in order.  Nothing here depends on what the
labels say, so that the trees of one back end and of the other share their shape, their order and
the way they are walked through.

What is here:

* `Tree`: a label with the trees below it.
* `Tree.preorder`: every label, each before those below it.
* `Tree.visit`: the same order from a list of trees that are still to be visited.
* `Walk`: a visit turn by turn, with a stack.
-/

set_option autoImplicit false

namespace Enclosure

/-- A label, and the trees below it. -/
inductive Tree (α : Type) where
  | node (label : α) (children : List (Tree α))
deriving Repr, Inhabited

variable {α : Type}

namespace Tree

/-- The label of the root. -/
def label : Tree α → α
  | node l _ => l

/-- The trees below the root. -/
def children : Tree α → List (Tree α)
  | node _ ts => ts

mutual

/-- The labels of a tree, each before those below it. -/
def preorder : Tree α → List α
  | node l ts => l :: preorderAll ts

/-- The labels of some trees, one tree after the other. -/
def preorderAll : List (Tree α) → List α
  | [] => []
  | t :: ts => preorder t ++ preorderAll ts

end

mutual

/-- How many nodes a tree has. -/
def size : Tree α → Nat
  | node _ ts => sizeAll ts + 1

/-- How many nodes some trees have. -/
def sizeAll : List (Tree α) → Nat
  | [] => 0
  | t :: ts => size t + sizeAll ts

end

theorem sizeAll_append (ss ts : List (Tree α)) :
    sizeAll (ss ++ ts) = sizeAll ss + sizeAll ts := by
  induction ss with
  | nil => simp [sizeAll]
  | cons s ss ih => simp only [List.cons_append, sizeAll, ih]; omega

/-- The labels of the trees that are still to be visited: the root of the first one comes next, and
then what is below it. -/
def visit : List (Tree α) → List α
  | [] => []
  | node l below :: rest => l :: visit (below ++ rest)
termination_by ts => sizeAll ts
decreasing_by simp only [sizeAll_append, sizeAll, size]; omega

mutual

/-- How many levels of nodes a tree has, counting only those that `counts` says. -/
def depth (counts : α → Bool) : Tree α → Nat
  | node l ts => (if counts l then 1 else 0) + depthAll counts ts

/-- The deepest of some trees. -/
def depthAll (counts : α → Bool) : List (Tree α) → Nat
  | [] => 0
  | t :: ts => max (depth counts t) (depthAll counts ts)

end

end Tree

/-- A visit on its way: the labels that have been listed, and the stack, whose top is its last
element. -/
structure Walk (α : Type) where
  listed : List α
  stack : List (Tree α)

namespace Walk

/-- A visit before its first turn. -/
def start (t : Tree α) : Walk α := ⟨[], [t]⟩

/-- One turn.  Nothing happens once the stack is empty. -/
def turn (w : Walk α) : Walk α :=
  match w.stack.getLast? with
  | none => w
  | some (.node l below) => ⟨w.listed ++ [l], w.stack.dropLast ++ below.reverse⟩

end Walk
end Enclosure
