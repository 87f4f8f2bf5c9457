/-!
# Tokens

A source text is read as a sequence of tokens.  What the grammar asks of a token is the class it
belongs to and the lines it covers; what a diagnosis asks besides is how many brackets are open
where the token ends.

What is here:

* `Token`, with `Token.sort`: the spelling for a keyword or a punctuation mark, and one of the
  class names `NAME`, `NUMBER`, `STRING`, `NEWLINE`, `INDENT`, `DEDENT`, `ENDMARKER` otherwise.
* `Token.isLayout`: the tokens that stand for white space and carry no text of a construct.
* `Bracket`: an opening bracket together with the line it stands on.
-/

set_option autoImplicit false

namespace Enclosure

/-- One token of a source text. -/
structure Token where
  /-- The class of the token: its own spelling for keywords and punctuation. -/
  sort : String
  /-- The text of the token. -/
  text : String
  /-- The line the token starts on, counted from one. -/
  line : Nat
  /-- The line the token ends on. -/
  lastLine : Nat
  /-- How many brackets are open after the token. -/
  depth : Nat
deriving Inhabited, Repr

namespace Token

/-- Layout tokens do not count when the last line of a construct is looked for. -/
def isLayout (t : Token) : Bool :=
  t.sort == "NEWLINE" || t.sort == "INDENT" || t.sort == "DEDENT" || t.sort == "ENDMARKER"

/-- The reserved words.  A name spelled like one of them is a token of that spelling. -/
def reserved : List String :=
  ["if", "in", "is", "or", "as", "and", "def", "del", "for", "not", "try", "elif", "else", "from",
    "None", "pass", "True", "with", "async", "await", "break", "class", "False", "raise", "while",
    "yield", "assert", "except", "global", "import", "lambda", "return", "finally", "continue",
    "nonlocal"]

/-- Words that are reserved only where the grammar asks for them. -/
def soft : List String := ["_", "case", "match"]

end Token

/-- An opening bracket that is still open. -/
structure Bracket where
  mark : Char
  line : Nat
deriving Inhabited, Repr, DecidableEq

/-- The closing bracket that answers an opening one. -/
def Bracket.closes (b : Bracket) (c : Char) : Bool :=
  (b.mark == '(' && c == ')') || (b.mark == '[' && c == ']') || (b.mark == '\x7b' && c == '\x7d')

end Enclosure
