import Enclosure.Concrete.Lexeme

/-!
# Building a concrete tree

A reader takes lexemes one after the other and puts leaves on a heap.  When a construct is complete
the leaves and trees that belong to it are taken off the heap again and become one tree.  Comments
and continuation marks in front of its first lexeme stay outside.

A lexeme is asked for with what is wanted at that place; the answer is kept until it is taken.

What is here:

* `Aside` and `Stack`: what has been read and is not part of a finished construct yet.
* `Builder` and `Blocked`: the state of a reader, and where it cannot go on.
* `Step`: one step of reading.
* `peek`, `take`, `need`: look at lexemes and take them.
* `opened`, `reopened`, `closed`, `left`, `wrap`, `grow`: make trees.
-/

set_option autoImplicit false

namespace Enclosure.Concrete

/-- Trees that were put aside when a construct started. -/
structure Aside where
  /-- The trees, last one first. -/
  trees : List Tree
  /-- What has been started is a statement, and the trees are those before it. -/
  beforeStatement : Bool := false

/-- What has been read and is not part of a finished construct yet. -/
structure Stack where
  /-- Finished trees of the construct that is being read, last one first. -/
  heap : List Tree := []
  /-- What was put aside, innermost first. -/
  asides : List Aside := []

/-- The state of a reader. -/
structure Builder extends Stack where
  scanner : Scanner
  /-- The next lexeme, as it looks with what was wanted. -/
  ahead : Option (Wanted × Scanned) := none
  /-- Where the last lexeme or extra ends. -/
  last : Point := ⟨0, 0⟩
  lastByte : Nat := 0
  /-- The stack as it was right after a lexeme was taken for the last time. -/
  taken : Stack := {}

/-- Where a reader cannot go on: the lexeme it has no use for, and its state. -/
structure Blocked where
  lexeme : Scanned
  builder : Builder

/-- The offset of the lexeme. -/
def Blocked.byte (e : Blocked) : Nat := e.lexeme.span.startByte

/-- One step of reading. -/
abbrev Step := StateT Builder (Except Blocked)

/-- The text cannot go on like this. -/
def stuckAt {α : Type} (r : Scanned) : Step α := fun b => .error { lexeme := r, builder := b }

/-- The next lexeme. -/
def peek (w : Wanted) : Step Scanned := do
  let b ← get
  match b.ahead with
  | some (w', r) =>
    if w' = w then return r
    else
      let r := b.scanner.next w
      set { b with ahead := some (w, r) }
      return r
  | none =>
    let r := b.scanner.next w
    set { b with ahead := some (w, r) }
    return r

/-- Take a lexeme that leaves nothing in the tree but the extras before it. -/
def pass (r : Scanned) : Step Unit :=
  modify fun b =>
    let last := match r.extras.getLast? with
      | some t => (t.label.span.stop, t.label.span.stopByte)
      | none => (b.last, b.lastByte)
    { b with
      scanner := r.after
      ahead := none
      heap := r.extras.reverse ++ b.heap
      last := last.1
      lastByte := last.2 }

/-- Take a lexeme and put a leaf for it on the heap. -/
def take (r : Scanned) (kind : String) (named : Bool) : Step Unit := do
  pass r
  modify fun b =>
    let heap := Tree.leaf kind r.span named :: b.heap
    { b with
      heap := heap
      last := r.span.stop
      lastByte := r.span.stopByte
      taken := { heap := heap, asides := b.asides } }

/-- Take a mark or a reserved word. -/
def takePlain (r : Scanned) : Step Unit :=
  match r.lexeme with
  | .mark m => take r m false
  | .word t => take r t false
  | _ => stuckAt r

/-- Whether a lexeme is a certain mark. -/
def Scanned.isMark (r : Scanned) (m : String) : Bool := r.lexeme == .mark m

/-- Whether a lexeme is a certain word. -/
def Scanned.isWord (r : Scanned) (t : String) : Bool := r.lexeme == .word t

/-- Take a certain mark. -/
def needMark (w : Wanted) (m : String) : Step Unit := do
  let r ← peek w
  if r.isMark m then takePlain r else stuckAt r

/-- Take a certain word. -/
def needWord (w : Wanted) (t : String) : Step Unit := do
  let r ← peek w
  if r.isWord t then takePlain r else stuckAt r

/-- Try one way of reading and, where it does not lead anywhere, another. -/
def orElse {α : Type} (a b : Step α) : Step α := fun s =>
  match a s with
  | .ok r => .ok r
  | .error e =>
    match b s with
    | .ok r => .ok r
    | .error e' => .error (if e.byte ≤ e'.byte then e' else e)

/-- Start a construct: what was on the heap is put aside. -/
def opened : Step Unit :=
  modify fun b => { b with heap := [], asides := { trees := b.heap } :: b.asides }

/-- Start a statement of a block or of the whole text. -/
def openedStatement : Step Unit :=
  modify fun b =>
    { b with heap := [], asides := { trees := b.heap, beforeStatement := true } :: b.asides }

/-- Start a construct whose first part is the tree on top of the heap. -/
def reopened : Step Unit :=
  modify fun b => { b with heap := b.heap.take 1, asides := { trees := b.heap.drop 1 } :: b.asides }

/-- End a construct: what is on the heap lies on top of what was put aside. -/
def left : Step Unit :=
  modify fun b =>
    match b.asides with
    | [] => b
    | aside :: outer => { b with heap := b.heap ++ aside.trees, asides := outer }

/-- The part of a construct that names it. -/
def namingOf (children : List Tree) : Option Naming :=
  match children.find? (fun t => t.label.named && !t.isExtra) with
  | some t => some ⟨t.kind, t.label.span.startByte, t.label.span.stopByte⟩
  | none => none

/-- The constructs that name themselves by their first part. -/
def namesItself (kind : String) : Bool :=
  ["function_definition", "class_definition", "keyword_argument", "default_parameter",
    "typed_default_parameter", "named_expression"].contains kind

/-- Make what is on the heap the parts of one tree.  Extras before its first part stay outside. -/
def gathered (kind : String) : Step Unit :=
  modify fun b =>
    let parts := b.heap.reverse
    let extras := parts.takeWhile Tree.isExtra
    match parts.dropWhile Tree.isExtra with
    | [] => b
    | first :: others =>
      let label : Label :=
        { kind := kind
          span := ⟨first.label.span.start, b.last, first.label.span.startByte, b.lastByte⟩
          naming := if namesItself kind then namingOf (first :: others) else none }
      { b with heap := .node label (first :: others) :: extras.reverse }

/-- Make all that is on the heap the parts of one tree that starts at a certain place. -/
def gatheredFrom (kind : String) (start : Span) : Step Unit :=
  modify fun b =>
    let label : Label :=
      { kind := kind
        span := ⟨start.start, b.last, start.startByte, b.lastByte⟩ }
    { b with heap := [.node label b.heap.reverse] }

/-- Complete a construct: what is on the heap becomes its parts. -/
def closed (kind : String) : Step Unit := do
  gathered kind
  left

/-- A construct. -/
def wrap (kind : String) (body : Step Unit) : Step Unit := do
  opened
  body
  closed kind

/-- A construct whose first part has been read already. -/
def grow (kind : String) (body : Step Unit) : Step Unit := do
  reopened
  body
  closed kind

/-- A construct without any text, at the place of a lexeme. -/
def empty (kind : String) (r : Scanned) : Step Unit :=
  modify fun b =>
    { b with
      heap := Tree.leaf kind ⟨r.span.start, r.span.start, r.span.startByte, r.span.startByte⟩ true
        :: b.heap }

/-- The kind of the tree on top of the heap. -/
def topKind : Step String := do
  match (← get).heap with
  | t :: _ => return t.kind
  | [] => return ""

/-- Replace the tree on top of the heap, if that is possible. -/
def retop (f : Tree → Option Tree) (r : Scanned) : Step Unit := do
  let b ← get
  match b.heap with
  | t :: rest =>
    match f t with
    | some t => set { b with heap := t :: rest }
    | none => stuckAt r
  | [] => stuckAt r

end Enclosure.Concrete
