import Enclosure.Abstract.Tree
import Enclosure.Backend.Basic
import Enclosure.Field.Record

/-!
# The back end for abstract trees

The text is read in the same process.  Every node of the tree is reported, in the order of the
text; those without a place in the text have no lines.

What is here:

* `Abstract.Fault`: why a text has no abstract tree.
* `Backend.abstract`: the back end.
-/

set_option autoImplicit false

namespace Enclosure

namespace Abstract

/-- Why a text has no abstract tree. -/
inductive Fault where
  /-- It is not well formed. -/
  | malformed (message : Codes) (line : Json)
  /-- It is nothing that can be read. -/
  | unreadable (message : Codes)
  /-- It nests too deep. -/
  | tooDeep (kind : String) (message : Codes)
  /-- The reader failed in another way. -/
  | foreign (kind : String) (message : Codes)

/-- How the back end reports a fault. -/
def Fault.failure : Fault → Failure
  | malformed message line => .unparsable message line
  | unreadable message => .unparsable message .null
  | tooDeep kind _ =>
    .unparsable (Codes.ofString s!"source is too deeply nested to parse: {kind}") .null
  | foreign kind message => .foreign kind message

/-- A name, if it is a text. -/
def Label.nameText (l : Label) : Json :=
  match l.name with
  | .text s => .text s
  | _ => .null

/-- The node of a label. -/
def Label.node (l : Label) : Checked Node :=
  Node.check (.ofString l.kind) l.first l.last l.nameText

/-- The nodes of labels; the first label that has none counts. -/
def nodesOf : List Label → Checked (List Node)
  | [] => .ok []
  | l :: ls =>
    match l.node with
    | .error fs => .error fs
    | .ok n =>
      match nodesOf ls with
      | .error fs => .error fs
      | .ok ns => .ok (n :: ns)

/-- The nodes of a tree. -/
def Tree.nodes (t : Tree) : Checked (List Node) := nodesOf (Tree.visit [t])

end Abstract

/-- The back end for abstract trees, around a reader of texts. -/
def Backend.abstract (read : Codes → Except Abstract.Fault Abstract.Tree) : Backend where
  name := "ast"
  answer _ source :=
    pure <|
      match read source with
      | .error fault => .error fault.failure
      | .ok tree =>
        match tree.nodes with
        | .ok nodes => .ok nodes
        | .error fs => .error (.invalid (faultsMessage fs))

end Enclosure
