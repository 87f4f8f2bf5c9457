import Enclosure.Text.CodePoint

/-!
# Line ends

A carriage return, a line feed and the two of them in a row each end a line.  A text whose lines all end
in one line feed is made in one pass over the text, or by replacing first the pairs and then the
carriage returns that are left.

What is here:

* `Text.oneNewline`: every line end as one line feed, in one pass.
* `Text.replace`: a text with a pattern replaced.
* `Text.lineFeedsOnly`: every line end as one line feed, by replacing.
-/

set_option autoImplicit false

namespace Enclosure.Text

/-- The code of a line feed. -/
def lineFeed : CodePoint := ⟨10, by decide⟩

/-- The code of a carriage return. -/
def carriageReturn : CodePoint := ⟨13, by decide⟩

/-- Every line end as one line feed: a carriage return ends a line, and a line feed that comes right
after it belongs to it. -/
def oneNewline : Codes → Codes
  | [] => []
  | x :: xs =>
    if x = carriageReturn then
      match xs with
      | y :: ys => if y = lineFeed then lineFeed :: oneNewline ys else lineFeed :: oneNewline (y :: ys)
      | [] => [lineFeed]
    else x :: oneNewline xs

/-- Replace a pattern, which is its first code point and the `others` after it, wherever it occurs
behind the next `skip` code points, and leave these out. -/
def replaceFrom (first : CodePoint) (others new : Codes) : Nat → Codes → Codes
  | _, [] => []
  | skip + 1, _ :: xs => replaceFrom first others new skip xs
  | 0, x :: xs =>
    if x = first ∧ others.isPrefixOf xs then new ++ replaceFrom first others new others.length xs
    else x :: replaceFrom first others new 0 xs

/-- Replace a pattern wherever it occurs, from left to right. -/
def replace (first : CodePoint) (others new : Codes) : Codes → Codes :=
  replaceFrom first others new 0

/-- Every line end as one line feed: first the pairs, and then the carriage returns that are left. -/
def lineFeedsOnly (source : Codes) : Codes :=
  replace carriageReturn [] [lineFeed] (replace carriageReturn [lineFeed] [lineFeed] source)

end Enclosure.Text
