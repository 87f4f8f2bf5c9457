import Enclosure.Backend.Basic
import Enclosure.Backend.Outline
import Enclosure.Text.Newline
import Enclosure.Text.Quoted

/-!
# The back end for concrete trees

A concrete tree exists for every text; a text is refused because of what the tree holds: an error,
or a statement of a form that is no longer in use.  The reader starts a new row at each line feed
only, so all other line ends are replaced first.

What is here:

* `Codes.encodeFault?`: why a text has no bytes.
* `Concrete.nodesOf`: the nodes of a tree, or what is wrong with it.
* `Backend.concrete`: the back end.
-/

set_option autoImplicit false

namespace Enclosure

/-- Why a text has no bytes: surrogates are not characters. -/
def Codes.encodeFault? (xs : Codes) : Option String :=
  match xs.surrogateRun? with
  | none => none
  | some (place, count) =>
    let what :=
      if count = 1 then
        let shown := "\\u" ++ Text.hexLower 4 (((xs.drop place).head?.map (·.val)).getD 0)
        s!"character '{shown}' in position {place}"
      else s!"characters in position {place}-{place + count - 1}"
    some s!"'utf-8' codec can't encode {what}: surrogates not allowed"

namespace Concrete

/-- The place of a node in words, counted from one. -/
def Point.text (p : Point) : String := s!"line {p.row + 1}, column {p.column + 1}"

/-- What is wrong with a node. -/
def Label.complaint (l : Label) : String :=
  let place := l.span.start.text
  if l.isMissing then s!"missing '{l.kind}' at {place}" else s!"invalid syntax at {place}"

/-- The word that a statement of an old form starts with. -/
def Label.legacyWord (l : Label) : String :=
  if l.kind.endsWith "_statement" then (l.kind.dropEnd 10).toString else l.kind

/-- A text is refused at the line of a node. -/
def refusal (message : String) (l : Label) : Failure :=
  .unparsable (Codes.ofString message) (.int (l.span.start.row + 1))

/-- The nodes of a tree, or what is wrong with it. -/
def nodesOf (t : Tree) (bytes : Bytes) : Except Failure (List Node) :=
  if t.label.hasError then
    match t.firstError? with
    | none => .error (.unparsable (Codes.ofString "invalid syntax") .null)
    | some l => .error (refusal l.complaint l)
  else
    match t.firstLegacy? with
    | some l =>
      .error (refusal s!"Python 2 {l.legacyWord} statement at {l.span.start.text}" l)
    | none => .ok (t.outline bytes)

end Concrete

/-- The back end for concrete trees, around a reader of texts. -/
def Backend.concrete (read : List Char → Concrete.Tree) : Backend where
  name := "tree-sitter"
  answer _ source :=
    let text := Text.lineFeedsOnly source
    match text.toChars? with
    | none =>
      let cause := (Codes.encodeFault? text).getD ""
      pure (.error (.unparsable (Codes.ofString s!"source is not valid UTF-8: {cause}") .null))
    | some cs => ⟨Concrete.nodesOf (read cs) (Utf8.encode text), [.handed cs]⟩

end Enclosure
