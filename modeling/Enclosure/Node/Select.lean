import Enclosure.Node.Basic

/-!
# Choosing a node

Of the nodes around a range a search wants the widest or the narrowest one.  Nodes that are equally
wide are told apart by their order: the first one counts, and that is the outermost one when the
nodes come from a tree in the order of its text.

What is here:

* `Mode`: what a search prefers.
* `Mode.choose`: the first best element of a list.
* `select`: the node that a search finds.
-/

set_option autoImplicit false

namespace Enclosure

/-- What a search prefers. -/
inductive Mode where
  | largest
  | smallest
deriving Repr, DecidableEq, Inhabited

/-- The kinds a search is limited to, if it is limited at all. -/
abbrev Kinds := Option (List String)

namespace Mode

/-- The word for a mode. -/
def text : Mode → String
  | largest => "largest"
  | smallest => "smallest"

/-- The mode that a word stands for. -/
def ofText? (s : String) : Option Mode :=
  if s = "largest" then some largest else if s = "smallest" then some smallest else none

/-- Whether a width is better than another one. -/
def prefers (mode : Mode) (new old : Int) : Bool :=
  match mode with
  | largest => old < new
  | smallest => new < old

/-- Keep the better one of two elements and, of equally good ones, the earlier one. -/
def better {α : Type} (mode : Mode) (best : Option (α × Int)) (next : α × Int) : Option (α × Int) :=
  match best with
  | none => some next
  | some held => if mode.prefers next.2 held.2 then some next else some held

/-- The first best one of the elements that have a width. -/
def choose {α : Type} (mode : Mode) (width : α → Option Int) (xs : List α) : Option α :=
  ((xs.filterMap fun x => (width x).map fun w => (x, w)).foldl mode.better none).map Prod.fst

end Mode

/-- Whether a search may look at nodes of a kind. -/
def admits (kinds : Kinds) (kind : String) : Bool :=
  match kinds with
  | none => true
  | some ks => ks.contains kind

/-- The width of a node, if it contains the range and is of a kind that is looked for. -/
def Node.eligibleWidth? (range : LineRange) (kinds : Kinds) (n : Node) : Option Int :=
  if n.contains range && admits kinds n.kind then n.width? else none

/-- Choose among elements that carry a node. -/
def selectBy {α : Type} (node : α → Node) (xs : List α) (range : LineRange) (mode : Mode)
    (kinds : Kinds) : Option α :=
  if range.isEmpty then none else mode.choose (fun x => (node x).eligibleWidth? range kinds) xs

/-- The node that a search finds. -/
def select (nodes : List Node) (range : LineRange) (mode : Mode) (kinds : Kinds) : Option Node :=
  selectBy id nodes range mode kinds

end Enclosure
