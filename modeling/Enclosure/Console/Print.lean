import Enclosure.Console.Markup
import Enclosure.Console.Wrap

/-!
# Writing a text with tags

A text with tags is laid out without them.  Then every style is looked up that is left somewhere: a
style whose part of the text has been left out in laying it out is not, and neither is a style without
any text, unless the text has stayed in one piece.  Words that ask for no style are passed over, but a
number in them that cannot be read keeps the text from being written.

What is here:

* `Markup.Span.isLeft`: whether a part of a text is left when the text has been laid out.
* `Markup.Span.fault?`: what is wrong with a style.
* `Markup.Seen.fault?`: the first style that something is wrong with.
* `print`: a text with tags as it is written.
-/

set_option autoImplicit false

namespace Enclosure.Console

namespace Markup

/-- Whether a cell is in a part of the text. -/
def Span.covers (s : Span) (c : Cell) : Bool := s.start ≤ c.place && c.place < s.stop

/-- Whether a part of a text is left when the text has been laid out.  A text in one row that has no
tabs has not been taken apart, and then an empty part is left as well, as far as the row goes. -/
def Span.isLeft (cs : List Char) (rows : List (List Cell)) (s : Span) : Bool :=
  match rows with
  | [row] =>
    if cs.contains '\t' then row.any s.covers else charsOf row == cs || s.start < row.length
  | rows => rows.any (·.any s.covers)

/-- What is wrong with the words for a style, beyond asking for none. -/
def Span.fault? (s : Span) : Option NumberFault :=
  match Style.ofWords (Style.words s.style) with
  | .error (.number fault) => some fault
  | _ => none

/-- The parts of a text in the order in which they begin; of those that begin in the same place, the one
that has been switched off last comes first. -/
def Seen.inOrder (s : Seen) : List Span :=
  s.spans.reverse.mergeSort fun a b => a.start ≤ b.start

/-- The first style that something is wrong with, among those that are left in some rows. -/
def Seen.fault? (s : Seen) (rows : List (List Cell)) : Option NumberFault :=
  (s.inOrder.filter (·.isLeft s.chars rows)).findSome? Span.fault?

end Markup

/-- A text with tags as it is written, on lines of some width or without breaking lines. -/
def print (values : Markup.Values) (width : Option Nat) (cs : List Char) :
    Except Markup.Refusal String :=
  match Markup.show values cs with
  | .error refusal => .error refusal
  | .ok seen =>
    let rows := rows width seen.chars
    match seen.fault? rows with
    | some fault => .error (.number fault)
    | none => .ok (written (rows.map charsOf))

end Enclosure.Console
