import Enclosure.Concrete.Builder

/-!
# Stretches that can be left out

Where a reader cannot go on, something in front of that place may be too much, or something after
it, or both.  A stretch that is left out starts between two parts of what has been read and ends
before some lexeme that comes later.

What is here:

* `Part`: one of the things that have been read, as one piece.
* `Stack.parts`: the parts of the statements that are being read.
* `Cut`: a place where a stretch may start.
* `Stop`: a lexeme before which a stretch may end.
-/

set_option autoImplicit false

namespace Enclosure.Concrete

/-! ## Where a stretch starts -/

/-- One of the things that have been read: a tree, or all statements of a block before the one that
is being read. -/
structure Part where
  kind : String
  /-- It is no mark and no reserved word. -/
  named : Bool
  start : Point
  byte : Nat
  /-- How many trees it consists of. -/
  trees : Nat := 1
  /-- It is made up of statements. -/
  statements : Bool := false

namespace Part

/-- A tree as a part; extras are none. -/
def ofTree? (t : Tree) : Option Part :=
  if t.isExtra then none
  else
    some
      { kind := t.kind
        named := t.label.named
        start := t.label.span.start
        byte := t.label.span.startByte }

/-- The statements of a block, last one first, as a part. -/
def ofStatements? (ts : List Tree) : Option Part :=
  match (ts.filterMap ofTree?).getLast? with
  | none => none
  | some first =>
    some { first with kind := "", named := true, trees := ts.length, statements := true }

/-- Whether the parts, last one first, are an opening parenthesis that something with a name stands
before. -/
def openArguments : List Part → Bool
  | p :: q :: _ => !p.named && p.kind == "(" && q.named
  | _ => false

end Part

/-- Put parts in front of the first of some lists. -/
def joinFirst (ps : List Part) : List (List Part) → List (List Part)
  | [] => [ps]
  | qs :: rest => (ps ++ qs) :: rest

/-- The parts of what was put aside: one list for each statement that is being read, innermost
statement first; in each list the last part comes first. -/
def partsAside : List Aside → List (List Part)
  | [] => [[]]
  | a :: outer =>
    if a.beforeStatement then
      match outer with
      | [] => [[]]
      | _ => [] :: joinFirst (Part.ofStatements? a.trees).toList (partsAside outer)
    else joinFirst (a.trees.filterMap Part.ofTree?) (partsAside outer)

/-- The parts of the statements that are being read, innermost statement first; in each list the
last part comes first. -/
def Stack.parts (s : Stack) : List (List Part) :=
  joinFirst (s.heap.filterMap Part.ofTree?) (partsAside s.asides)

/-- A place where a stretch may start. -/
structure Cut where
  place : Point
  byte : Nat
  /-- The offset up to which the text is kept. -/
  kept : Nat
  /-- How many trees are left out from here up to the end of what has been read. -/
  trees : Nat
  /-- What stands before, last part first. -/
  before : List Part

/-- The places where a stretch may start, nearest first: before each part that is no block. -/
def cutsFrom (trees : Nat) : List Part → List Cut
  | [] => []
  | p :: ps =>
    let rest := cutsFrom (trees + p.trees) ps
    if p.statements then rest
    else
      { place := p.start, byte := p.byte, kept := p.byte, trees := trees + p.trees, before := ps }
        :: rest

/-- Whether a stretch that starts here is better left out than one that starts earlier at the same
cost: what stands before has to go on anyway. -/
def Cut.isFirm (c : Cut) : Bool :=
  match c.before with
  | [] => false
  | p :: ps => !p.named || (p.kind == "identifier" && Part.openArguments ps)

/-! ## Where a stretch ends -/

/-- A lexeme before which a stretch may end. -/
structure Stop where
  lexeme : Scanned
  /-- What it costs to leave out the lexemes before it. -/
  cost : Nat
  /-- Where the last lexeme before it ends. -/
  last : Point
  lastByte : Nat
  /-- How many deeper levels of indentation have been left out. -/
  levels : Nat := 0

/-- What is wanted where anything may come. -/
def anything : Wanted := { indent := true, dedent := true, close := true, quote := true }

/-- The cost of each tree or lexeme that is left out. -/
def treeCost : Nat := 100

/-- The cost of each stretch, whatever its length. -/
def stretchCost : Nat := 500

/-- The cost of each line end that is left out. -/
def rowCost : Nat := 30

/-- The lexemes from one on before which a stretch may end, up to the end of the text or of the
block. -/
def stopsFrom : Nat → Stop → List Stop
  | 0, s => [s]
  | n + 1, s =>
    let r := s.lexeme
    let next (cost levels : Nat) : List Stop :=
      s :: stopsFrom n
        { lexeme := r.after.next anything
          cost := s.cost + cost
          last := r.span.stop
          lastByte := r.span.stopByte
          levels := levels }
    match r.lexeme with
    | .finish => [s]
    | .dedent => if s.levels = 0 then [s] else next 0 (s.levels - 1)
    | .indent _ => next 0 (s.levels + 1)
    | .stray => next (stretchCost + 1) s.levels
    | _ => next treeCost s.levels

end Enclosure.Concrete
