import Enclosure.Abstract.Read
import Enclosure.Backend.Abstract
import Enclosure.Backend.Concrete

/-!
# From a text to its abstract tree

What is here:

* `Phrase.tree`: the tree of a phrase that has been read.
* `Abstract.readSource`: the tree of a text, or why there is none.
-/

set_option autoImplicit false

namespace Enclosure

/-- Whether constructs of a kind introduce a name. -/
def Phrase.introducesName (kind : String) : Bool :=
  ["FunctionDef", "AsyncFunctionDef", "ClassDef", "alias", "ExceptHandler", "MatchAs",
    "MatchStar"].contains kind

/-- The label of a phrase. -/
def Phrase.treeLabel (kind : String) (lines : Option (Nat × Nat)) (word : String) :
    Abstract.Label where
  kind := kind
  first := match lines with
    | some l => .int l.1
    | none => .null
  last := match lines with
    | some l => .int l.2
    | none => .null
  name := if introducesName kind && word != "" then .ofString word else .null

mutual

/-- The tree of a phrase. -/
def Phrase.tree : Phrase → Abstract.Tree
  | .mk kind lines word parts => .node (treeLabel kind lines word) (trees parts)

/-- The trees of phrases. -/
def Phrase.trees : List Phrase → List Abstract.Tree
  | [] => []
  | p :: ps => p.tree :: trees ps

end

namespace Abstract

/-- How many levels a tree may have; uses and operators are no levels of their own. -/
def maxDepth : Nat := 2960

/-- Kinds of nodes that only mark a use or an operator. -/
def markKinds : List String :=
  ["Load", "Store", "Del", "And", "Or", "Add", "Sub", "Mult", "MatMult", "Div", "Mod", "Pow",
    "LShift", "RShift", "BitOr", "BitXor", "BitAnd", "FloorDiv", "Invert", "Not", "UAdd", "USub",
    "Eq", "NotEq", "Lt", "LtE", "Gt", "GtE", "Is", "IsNot", "In", "NotIn"]

/-- Whether a node is a level of its own. -/
def Label.isLevel (l : Label) : Bool := !markKinds.contains l.kind

/-- A complaint as a fault; the text that is read has no name. -/
def Complaint.fault (c : Complaint) : Fault :=
  .malformed (Codes.ofString s!"{c.message} (<unknown>, line {c.line})") (.int c.line)

/-- The tree of a text, or why there is none. -/
def readSource (source : Codes) : Except Fault Tree :=
  match source.toChars? with
  | none => .error (.unreadable (Codes.ofString ((Codes.encodeFault? source).getD "")))
  | some cs =>
    if cs.contains '\x00' then
      .error (.unreadable (Codes.ofString "source code string cannot contain null bytes"))
    else
      match read cs with
      | .error (.mistake c) => .error (Complaint.fault c)
      | .error .tooDeep => .error (.tooDeep "MemoryError" [])
      | .ok phrase =>
        let tree := phrase.tree
        if maxDepth < tree.depth Label.isLevel then
          .error (.tooDeep "RecursionError"
            (Codes.ofString "maximum recursion depth exceeded during ast construction"))
        else .ok tree

end Abstract
end Enclosure
