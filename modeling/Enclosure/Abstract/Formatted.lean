import Enclosure.Abstract.Escape
import Enclosure.Grammar.Basic

/-!
# Formatted string literals

A formatted literal alternates plain text with expressions in braces.  The end of an expression is
found by counting brackets and quotes; the expression itself is then read by the grammar, as if it
stood in parentheses.  After it may come a conversion and a format, and the format may hold
expressions again, one level deep.

What is here:

* `Formatted.Scene`: the literal that is read, and the pieces found so far.
* `Formatted.literal`: the plain text up to the next expression.
* `Formatted.expression`: the characters of one expression.
* `Formatted.pieces`: a whole literal, or the format of an expression.
-/

set_option autoImplicit false

namespace Enclosure.Formatted

/-- What stays the same within one formatted literal. -/
structure Scene where
  /-- The lines of the first and the last literal that are read as one. -/
  lines : Nat × Nat
  /-- Backslashes stand for themselves. -/
  raw : Bool
  /-- Read the characters of an expression, given the line it starts on. -/
  embedded : List Char → Nat → Except Refusal Phrase
  /-- The line that objections are reported for. -/
  reached : Nat

/-- Pieces found so far, last one first, and whether plain text has come after the last of them. -/
structure Pieces where
  found : List Phrase
  text : Bool

/-- Nothing found yet. -/
def Pieces.empty : Pieces := ⟨[], false⟩

/-- A piece of plain text. -/
def textPiece (lines : Nat × Nat) : Phrase := .mk "Constant" (some lines) "" []

/-- More plain text. -/
def Pieces.addText (p : Pieces) (any : Bool) : Pieces := { p with text := p.text || any }

/-- One more expression. -/
def Pieces.addExpression (p : Pieces) (lines : Nat × Nat) (e : Phrase) : Pieces :=
  { found := e :: (if p.text then textPiece lines :: p.found else p.found), text := false }

/-- All pieces in order. -/
def Pieces.close (p : Pieces) (lines : Nat × Nat) : List Phrase :=
  (if p.text then textPiece lines :: p.found else p.found).reverse

/-- Object in the words given. -/
def Scene.object {α : Type} (s : Scene) (message : String) : Except Refusal α :=
  Enclosure.object s.reached message

/-- Where plain text ends: its characters, last one first, what follows, and whether more plain text
follows directly because a doubled brace was taken. -/
structure LiteralEnd where
  taken : List Char
  rest : List Char
  again : Bool

/-- Take characters up to and with a closing brace. -/
def throughBrace (taken : List Char) : List Char → List Char × List Char
  | [] => (taken, [])
  | '\x7d' :: cs => ('\x7d' :: taken, cs)
  | c :: cs => throughBrace (c :: taken) cs

/-- Plain text from here on. -/
def literal (raw top : Bool) : Nat → List Char → List Char → Except String LiteralEnd
  | 0, taken, cs => .ok ⟨taken, cs, false⟩
  | _ + 1, taken, [] => .ok ⟨taken, [], false⟩
  | fuel + 1, taken, c :: cs =>
    if !raw && c == '\\' then
      match cs with
      | [] => .ok ⟨c :: taken, [], false⟩
      | 'N' :: '\x7b' :: more =>
        let (taken, rest) := throughBrace ('\x7b' :: 'N' :: c :: taken) more
        literal raw top fuel taken rest
      | 'N' :: d :: more => literal raw top fuel (d :: 'N' :: c :: taken) more
      | d :: more =>
        if d == '\x7b' || d == '\x7d' then brace (c :: taken) d more
        else literal raw top fuel (d :: c :: taken) more
    else if c == '\x7b' || c == '\x7d' then brace taken c cs
    else literal raw top fuel (c :: taken) cs
where
  /-- A brace: a doubled one stands for itself, unless it is inside a format. -/
  brace (taken : List Char) (c : Char) (cs : List Char) : Except String LiteralEnd :=
    if top then
      match cs with
      | d :: more =>
        if d == c then .ok ⟨c :: taken, more, true⟩
        else if c == '\x7d' then .error "f-string: single '\x7d' is not allowed"
        else .ok ⟨taken, c :: cs, false⟩
      | [] =>
        if c == '\x7d' then .error "f-string: single '\x7d' is not allowed"
        else .ok ⟨taken, c :: cs, false⟩
    else .ok ⟨taken, c :: cs, false⟩

/-- The opening bracket that a closing one answers. -/
def opening (c : Char) : Char :=
  if c == ')' then '(' else if c == ']' then '[' else '\x7b'

/-- The characters of an expression, last one first, and what follows it.  `quote` is the quote of
the string literal the place is inside of, with whether it is a long one; `brackets` are open. -/
def expression (taken : List Char) (quote : Option (Char × Bool)) (brackets : List Char) :
    List Char → Except String (List Char × List Char)
  | [] =>
    if quote.isSome then .error "f-string: unterminated string"
    else match brackets with
      | b :: _ => .error s!"f-string: unmatched '{b}'"
      | [] => .error "f-string: expecting '\x7d'"
  | c :: cs =>
    if c == '\\' then .error "f-string expression part cannot include a backslash"
    else match quote with
    | some (q, long) =>
      if c == q then
        if long then
          match cs with
          | a :: b :: rest =>
            if a == q && b == q then expression (b :: a :: c :: taken) none brackets rest
            else expression (c :: taken) quote brackets (a :: b :: rest)
          | [a] => expression (c :: taken) quote brackets [a]
          | [] => expression (c :: taken) quote brackets []
        else expression (c :: taken) none brackets cs
      else expression (c :: taken) quote brackets cs
    | none =>
      if c == '\'' || c == '"' then
        match cs with
        | a :: b :: rest =>
          if a == c && b == c then expression (b :: a :: c :: taken) (some (c, true)) brackets rest
          else expression (c :: taken) (some (c, false)) brackets (a :: b :: rest)
        | [a] => expression (c :: taken) (some (c, false)) brackets [a]
        | [] => expression (c :: taken) (some (c, false)) brackets []
      else if c == '[' || c == '\x7b' || c == '(' then
        if brackets.length ≥ 200 then .error "f-string: too many nested parenthesis"
        else expression (c :: taken) none (c :: brackets) cs
      else if c == '#' then .error "f-string expression part cannot include '#'"
      else if brackets.isEmpty && (c == '!' || c == ':' || c == '\x7d' || c == '=' || c == '<' ||
          c == '>') then
        match cs with
        | [] => if c == '<' || c == '>' then expression (c :: taken) none brackets [] else .ok (taken, [c])
        | d :: rest =>
          if d == '=' && (c == '!' || c == '=' || c == '<' || c == '>') then
            expression (d :: c :: taken) none brackets rest
          else if c == '<' || c == '>' then expression (c :: taken) none brackets (d :: rest)
          else .ok (taken, c :: d :: rest)
      else if c == ']' || c == '\x7d' || c == ')' then
        match brackets with
        | [] => .error s!"f-string: unmatched '{c}'"
        | b :: outer =>
          if b == opening c then expression (c :: taken) none outer cs
          else .error
            s!"f-string: closing parenthesis '{c}' does not match opening parenthesis '{b}'"
      else expression (c :: taken) none brackets cs
termination_by cs => cs.length

/-- How many line ends there are among some characters. -/
def lineEnds (cs : List Char) : Nat := (cs.filter (· == '\n')).length

/-- Blanks within an expression. -/
def isBlank (c : Char) : Bool := c == ' ' || c == '\t' || c == '\n' || c == '\x0c'

/-- Blanks after an equals sign. -/
def isSpace (c : Char) : Bool := isBlank c || c == '\x0b' || c == '\r'

/-- Run a step whose objections are mere words. -/
def Scene.lift {α : Type} (s : Scene) : Except String α → Except Refusal α
  | .ok a => .ok a
  | .error message => s.object message

/-- Read a formatted literal, or at a `level` above zero the format of an expression: the pieces,
what follows, and the line it follows on. -/
def pieces (s : Scene) : Nat → Nat → Nat → Pieces → List Char →
    Except Refusal (Pieces × List Char × Nat)
  | 0, _, line, found, cs => .ok (found, cs, line)
  | fuel + 1, level, line, found, cs => do
    let plain ← s.lift (literal s.raw (level == 0) (cs.length + 1) [] cs)
    let line := line + lineEnds plain.taken
    let any ← if s.raw then pure (!plain.taken.isEmpty) else s.lift (Escape.check plain.taken.reverse)
    let found := found.addText any
    if plain.again then pieces s fuel level line found plain.rest
    else
      match plain.rest with
      | [] => if level == 0 then .ok (found, [], line) else s.object "f-string: expecting '\x7d'"
      | c :: cs =>
        if c == '\x7d' then .ok (found, c :: cs, line)
        else if level ≥ 2 then s.object "f-string: expressions nested too deeply"
        else
          let (taken, rest) ← s.lift (expression [] none [] cs)
          let blank := taken.all isBlank
          match rest with
          | [] => s.object "f-string: expecting '\x7d'"
          | e :: after =>
            if blank then
              if e == '\x7d' then s.object "f-string: empty expression not allowed"
              else s.object s!"f-string: expression required before '{e}'"
            else
              let value ← s.embedded taken.reverse line
              let line := line + lineEnds taken
              -- An equals sign shows the text of the expression too.
              let shown := e == '='
              let blanks := if shown then after.takeWhile isSpace else []
              let rest := if shown then after.dropWhile isSpace else rest
              let line := line + lineEnds blanks
              let found := found.addText shown
              let rest ← match rest with
                | [] => s.object "f-string: expecting '\x7d'"
                | '!' :: [] => s.object "f-string: expecting '\x7d'"
                | '!' :: k :: rest =>
                  if k == 's' || k == 'r' || k == 'a' then pure rest
                  else s.object (s!"f-string: invalid conversion character: " ++
                    "expected 's', 'r', or 'a'")
                | _ => pure rest
              let (format, rest, line) ← match rest with
                | [':'] => s.object "f-string: expecting '\x7d'"
                | ':' :: rest => do
                  let (inner, rest, line) ← pieces s fuel (level + 1) line .empty rest
                  pure ([Phrase.mk "JoinedStr" (some s.lines) "" (inner.close s.lines)], rest, line)
                | _ => pure ([], rest, line)
              match rest with
              | '\x7d' :: rest =>
                let piece := Phrase.mk "FormattedValue" (some s.lines) "" (value :: format)
                pieces s fuel level line (found.addExpression s.lines piece) rest
              | _ => s.object "f-string: expecting '\x7d'"

end Enclosure.Formatted
