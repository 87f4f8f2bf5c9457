import Enclosure.Concrete.Tree
import Enclosure.Text.Identifier

/-!
# Lexemes of the concrete grammar

What counts as the next lexeme depends on what a reader can use at that place: an end of line
matters only where a statement may end, deeper indentation only where a block may start, and inside
a string literal everything is different.  So a lexeme is asked for with what is wanted.

White space, comments and continuation marks may stand before any lexeme.  The latter two are kept
as leaves of the tree.

What is here:

* `Cursor`: a place in a text, and the text from there on.
* `Quotes`: the quotes of a string literal, and how its text is to be read.
* `Lexeme`: the kinds of lexeme.
* `Wanted`: what the reader can use.
* `Scanner`: the cursor, the open levels of indentation and the open string literals.
* `Scanner.next`, `Scanner.nextInString`, `Scanner.nextInFormat`: the next lexeme.
-/

set_option autoImplicit false

namespace Enclosure.Concrete

/-- A place in a text, and the text from there on. -/
structure Cursor where
  rest : List Char
  point : Point
  byte : Nat
deriving Inhabited

namespace Cursor

/-- Step over one character. -/
def step (c : Cursor) : Cursor :=
  match c.rest with
  | [] => c
  | '\n' :: cs => { rest := cs, point := ⟨c.point.row + 1, 0⟩, byte := c.byte + 1 }
  | x :: cs =>
    { rest := cs
      point := ⟨c.point.row, c.point.column + x.utf8Size⟩
      byte := c.byte + x.utf8Size }

/-- Step over some characters. -/
def steps : Nat → Cursor → Cursor
  | 0, c => c
  | n + 1, c => steps n c.step

/-- Step over characters of a class; the characters are given too. -/
def spanOf (p : Char → Bool) : List Char → Cursor → List Char × Cursor
  | [], c => ([], c)
  | x :: xs, c =>
    if p x then
      let (taken, c) := spanOf p xs c.step
      (x :: taken, c)
    else ([], c)

/-- Step over the characters of a class that come next. -/
def takeWhile (p : Char → Bool) (c : Cursor) : List Char × Cursor := spanOf p c.rest c

/-- The place from one cursor to another. -/
def spanTo (a b : Cursor) : Span := ⟨a.point, b.point, a.byte, b.byte⟩

end Cursor

/-- The quotes of a string literal, and how its text is to be read. -/
structure Quotes where
  mark : Char
  long : Bool := false
  /-- Braces enclose expressions. -/
  formatted : Bool := false
  /-- Backslashes stand for themselves. -/
  raw : Bool := false
  /-- The literal is a sequence of bytes. -/
  bytes : Bool := false
deriving DecidableEq, Inhabited

/-- The kinds of lexeme. -/
inductive Lexeme where
  | word (text : String)
  | integer
  | float
  | mark (text : String)
  /-- How the value in a replacement field is converted. -/
  | conversion
  | quoteOpen (q : Quotes)
  | quoteClose
  /-- A stretch of the text of a string literal. -/
  | content
  /-- A brace written twice. -/
  | doubledBrace
  | escape
  /-- A backslash that starts no escape. -/
  | loneBackslash
  /-- A stretch of a format. -/
  | formatText
  | newline
  | indent (width : Nat)
  | dedent
  | finish
  /-- Nothing that the reader could use. -/
  | stray
deriving DecidableEq, Inhabited

/-- What the reader can use. -/
structure Wanted where
  /-- The end of a line. -/
  newline : Bool := false
  /-- A deeper level of indentation. -/
  indent : Bool := false
  /-- The end of a level of indentation. -/
  dedent : Bool := false
  /-- A closing bracket. -/
  close : Bool := false
  /-- The start of a string literal. -/
  quote : Bool := false
deriving DecidableEq

/-- Where the scanner stands. -/
structure Scanner where
  cursor : Cursor
  /-- The widths of the open levels of indentation, innermost first. -/
  indents : List Nat := [0]
  /-- The quotes of the open string literals, innermost first. -/
  quotes : List Quotes := []
  /-- The last quotes passed opened a literal with replacement fields. -/
  inFormatted : Bool := false
  /-- Whether nothing but extras has been read. -/
  untouched : Bool := true
  /-- The length of the whole text, which bounds every loop. -/
  size : Nat
deriving Inhabited

/-- A lexeme, with the extras before it, where it lies and the scanner after it. -/
structure Scanned where
  extras : List Tree
  lexeme : Lexeme
  span : Span
  after : Scanner

namespace Scanner

/-! ## Layout -/

/-- How the white space before a lexeme measures. -/
structure Layout where
  cursor : Cursor
  /-- A line ended in it. -/
  lineEnded : Bool
  /-- The width of the white space on its last line. -/
  width : Nat
  /-- The width before the first comment that has a line for itself. -/
  firstComment : Option Nat
  /-- It stops at something that no layout can follow. -/
  blocked : Bool

/-- Measure the white space up to the next lexeme.  Comments on lines of their own count as white
space where `layoutWanted`; after that the text has to go on with a lexeme. -/
def measure (layoutWanted : Bool) : Nat → Layout → Layout
  | 0, l => l
  | fuel + 1, l =>
    match l.cursor.rest with
    | [] => { l with width := 0, lineEnded := true }
    | '\n' :: _ =>
      measure layoutWanted fuel { l with cursor := l.cursor.step, lineEnded := true, width := 0 }
    | ' ' :: _ => measure layoutWanted fuel { l with cursor := l.cursor.step, width := l.width + 1 }
    | '\t' :: _ => measure layoutWanted fuel { l with cursor := l.cursor.step, width := l.width + 8 }
    | '\r' :: _ | '\x0c' :: _ =>
      measure layoutWanted fuel { l with cursor := l.cursor.step, width := 0 }
    | '#' :: _ =>
      if layoutWanted then
        if l.lineEnded then
          let past := (l.cursor.takeWhile (fun c => c != '\n' && c != '\x00')).2
          measure layoutWanted fuel
            { l with
              cursor := past.step
              width := 0
              firstComment := some (l.firstComment.getD l.width) }
        else { l with blocked := true }
      else l
    | '\\' :: cs =>
      match cs with
      | [] => measure layoutWanted fuel { l with cursor := l.cursor.step }
      | '\n' :: _ => measure layoutWanted fuel { l with cursor := l.cursor.step.step }
      | '\r' :: '\n' :: _ => measure layoutWanted fuel { l with cursor := l.cursor.step.step.step }
      | ['\r'] => measure layoutWanted fuel { l with cursor := l.cursor.step.step }
      | _ => { l with blocked := true }
    | _ => l

/-- White space that is passed over before a lexeme. -/
def isBlank (c : Char) : Bool :=
  c == ' ' || (9 ≤ c.toNat && c.toNat ≤ 13) || c == '\ufeff' || c == '\u2060' || c == '\u200b'

/-! ## Plain lexemes -/

/-- Characters that may continue a word. -/
def isWordChar (c : Char) : Bool :=
  Text.isNameChar c || c == '\u200c' || c == '\u200d' || c == '\u30fb' || c == '\uff65'

/-- The letters that may stand before a quote. -/
def addLetter (q : Quotes) (c : Char) : Option Quotes :=
  match c with
  | 'f' | 'F' | 't' | 'T' => some { q with formatted := true }
  | 'r' | 'R' => some { q with raw := true }
  | 'b' | 'B' => some { q with bytes := true }
  | 'u' | 'U' => some q
  | _ => none

/-- The start of a string literal: its quotes and how many characters they take. -/
def quoteOpening (q : Quotes) (n : Nat) : List Char → Option (Quotes × Nat)
  | c :: cs =>
    if c == '\'' || c == '"' then
      let q := { q with mark := c }
      match cs with
      | d :: e :: _ => if d == c && e == c then some ({ q with long := true }, n + 3) else some (q, n + 1)
      | _ => some (q, n + 1)
    else if c == '\x60' then some ({ q with mark := c }, n + 1)
    else
      match addLetter q c with
      | some q => quoteOpening q (n + 1) cs
      | none => none
  | [] => none

/-- ASCII digits. -/
def isDigit (c : Char) : Bool := '0' ≤ c && c ≤ '9'

/-- Digits of a base, each of which may follow an underscore; how many characters that are. -/
def radixDigits (p : Char → Bool) (n : Nat) : List Char → Nat
  | '_' :: c :: cs => if p c then radixDigits p (n + 2) cs else n
  | c :: cs => if p c then radixDigits p (n + 1) cs else n
  | [] => n

/-- Runs of digits, each of which may end in one underscore; how many characters that are. -/
def digitRuns (n : Nat) : List Char → Nat
  | c :: cs =>
    if isDigit c then
      match cs with
      | '_' :: ds => digitRuns (n + 2) ds
      | ds => digitRuns (n + 1) ds
    else n
  | [] => n

/-- An exponent; how many characters it takes, or nothing. -/
def exponentLength : List Char → Nat
  | c :: cs =>
    if c == 'e' || c == 'E' then
      match cs with
      | s :: ds =>
        if s == '+' || s == '-' then
          let n := digitRuns 0 ds
          if n == 0 then 0 else n + 2
        else
          let n := digitRuns 0 cs
          if n == 0 then 0 else n + 1
      | [] => 0
    else 0
  | [] => 0

/-- One character of a set may follow. -/
def optionalOne (p : Char → Bool) (n : Nat) (cs : List Char) : Nat :=
  match cs.drop n with
  | c :: _ => if p c then n + 1 else n
  | [] => n

/-- Whether a character is the letter of imaginary numbers. -/
def isImaginary (c : Char) : Bool := c == 'j' || c == 'J'

/-- Whether a character is the letter of long numbers. -/
def isLong (c : Char) : Bool := c == 'l' || c == 'L'

/-- A number: what it is and how many characters it takes. -/
def number (cs : List Char) : Lexeme × Nat :=
  let radix (p : Char → Bool) : Lexeme × Nat :=
    let n := radixDigits p 0 (cs.drop 2)
    if n == 0 then (.integer, 1) else (.integer, optionalOne isLong (n + 2) cs)
  match cs with
  | '0' :: 'x' :: _ | '0' :: 'X' :: _ =>
    radix fun c => isDigit c || ('a' ≤ c && c ≤ 'f') || ('A' ≤ c && c ≤ 'F')
  | '0' :: 'o' :: _ | '0' :: 'O' :: _ => radix fun c => '0' ≤ c && c ≤ '7'
  | '0' :: 'b' :: _ | '0' :: 'B' :: _ => radix fun c => c == '0' || c == '1'
  | _ =>
    let whole := digitRuns 0 cs
    match cs.drop whole with
    | '.' :: ds =>
      let n := whole + 1 + digitRuns 0 ds
      let n := n + exponentLength (cs.drop n)
      (.float, optionalOne isImaginary n cs)
    | ds =>
      match exponentLength ds with
      | 0 => (.integer, optionalOne (fun c => isImaginary c || isLong c) whole cs)
      | e => (.float, optionalOne isImaginary (whole + e) cs)

/-- Marks of three characters. -/
def longMarks : List (List Char) :=
  ["...", "**=", "//=", ">>=", "<<="].map String.toList

/-- Marks of two characters. -/
def doubleMarks : List (List Char) :=
  ["**", "//", ">>", "<<", "<=", ">=", "==", "!=", "<>", "->", ":=", "+=", "-=", "*=", "/=", "%=",
    "@=", "&=", "|=", "^="].map String.toList

/-- Marks of one character. -/
def singleMarks : List Char := "()[]\x7b\x7d,;:.+-*/%@&|^~<>=".toList

/-- The mark that comes next. -/
def markOf (cs : List Char) : Option (List Char) :=
  if longMarks.contains (cs.take 3) then some (cs.take 3)
  else if doubleMarks.contains (cs.take 2) then some (cs.take 2)
  else
    match cs with
    | c :: _ => if singleMarks.contains c then some [c] else none
    | [] => none

/-- A lexeme of so many characters. -/
def scanned (s : Scanner) (extras : List Tree) (lexeme : Lexeme) (c : Cursor) (n : Nat) : Scanned :=
  let past := c.steps n
  { extras := extras.reverse
    lexeme := lexeme
    span := c.spanTo past
    after := { s with cursor := past, untouched := false } }

/-- The plain lexeme that comes next where white space has been passed over. -/
def plain (s : Scanner) (extras : List Tree) (c : Cursor) : Scanned :=
  match c.rest with
  | [] => scanned s extras .finish c 0
  | x :: cs =>
    if Text.isNameStart x then
      let (text, past) := c.takeWhile isWordChar
      { extras := extras.reverse
        lexeme := .word (String.ofList text)
        span := c.spanTo past
        after := { s with cursor := past, untouched := false } }
    else if isDigit x || (x == '.' && (match cs with | d :: _ => isDigit d | [] => false)) then
      let (lexeme, n) := number c.rest
      scanned s extras lexeme c n
    else
      match markOf c.rest with
      | some m => scanned s extras (.mark (String.ofList m)) c m.length
      | none =>
        match x, cs with
        | '!', y :: _ =>
          if 'a' ≤ y && y ≤ 'z' then scanned s extras .conversion c 2
          else scanned s extras .stray c 1
        | _, _ => scanned s extras .stray c 1

/-- A lexeme without any text, in front of the white space. -/
def layoutLexeme (s : Scanner) (extras : List Tree) (lexeme : Lexeme) (indents : List Nat) :
    Scanned :=
  { extras := extras.reverse
    lexeme := lexeme
    span := s.cursor.spanTo s.cursor
    after := { s with indents := indents } }

/-- The change of indentation or the end of a line that the white space stands for, if it is
wanted.  The end of a level of indentation is seen even where it is not wanted, unless an end of
line, a closing bracket or a string literal could come here. -/
def layout? (w : Wanted) (s : Scanner) (extras : List Tree) (l : Layout) : Option Scanned :=
  if l.blocked || !l.lineEnded then none
  else
    let quoteNext := match l.cursor.rest with
      | c :: _ => c == '\'' || c == '"' || c == '\x60'
      | [] => false
    let newline := if w.newline then some (layoutLexeme s extras .newline s.indents) else none
    match s.indents with
    | [] => newline
    | current :: outer =>
      if w.indent && current < l.width then
        some (layoutLexeme s extras (.indent l.width) (l.width :: s.indents))
      else if (w.dedent || (!w.newline && !(w.quote && quoteNext) && !w.close)) &&
          l.width < current && !s.inFormatted &&
          (match l.firstComment with | some n => n < current | none => true) then
        some (layoutLexeme s extras .dedent outer)
      else newline

/-- The next lexeme outside string literals. -/
def nextFrom (w : Wanted) : Nat → Scanner → List Tree → Scanned
  | 0, s, extras => scanned s extras .stray s.cursor 0
  | fuel + 1, s, extras =>
    let l := measure (w.newline || w.indent || w.dedent) (s.size + 2)
      { cursor := s.cursor, lineEnded := false, width := 0, firstComment := none, blocked := false }
    match layout? w s extras l with
    | some r => r
    | none =>
      let opening :=
        if w.quote && !l.blocked && l.firstComment.isNone then quoteOpening { mark := '"' } 0 l.cursor.rest
        else none
      match opening with
      | some (q, n) =>
        let r := scanned s extras (.quoteOpen q) l.cursor n
        { r with after := { r.after with quotes := q :: s.quotes, inFormatted := q.formatted } }
      | none =>
        let c := (s.cursor.takeWhile isBlank).2
        let extra (kind : String) (past : Cursor) : Scanned :=
          nextFrom w fuel { s with cursor := past } (Tree.leaf kind (c.spanTo past) true :: extras)
        match c.rest with
        | '#' :: _ => extra "comment" (c.takeWhile (fun x => x != '\n' && x != '\x00')).2
        | '\\' :: '\n' :: _ => extra "line_continuation" c.step.step
        | ['\\'] =>
          if s.untouched then extra "line_continuation" c.step else scanned s extras .stray c 1
        | _ => plain s extras c

/-- The next lexeme outside string literals. -/
def next (w : Wanted) (s : Scanner) : Scanned := nextFrom w (s.size + 2) s []

/-! ## Inside string literals -/

/-- How many characters an escape takes, or nothing if the backslash starts none. -/
def escapeLength (cs : List Char) : Nat :=
  let hex (c : Char) : Bool := isDigit c || ('a' ≤ c && c ≤ 'f') || ('A' ≤ c && c ≤ 'F')
  let fixed (n : Nat) (ds : List Char) : Nat :=
    if (ds.take n).length == n && (ds.take n).all hex then n + 2 else 0
  match cs with
  | '\\' :: 'u' :: ds => fixed 4 ds
  | '\\' :: 'U' :: ds => fixed 8 ds
  | '\\' :: 'x' :: ds => fixed 2 ds
  | '\\' :: 'N' :: '\x7b' :: ds =>
    let name := ds.takeWhile (· != '\x7d')
    if name.isEmpty || name.length == ds.length then 0 else name.length + 4
  | '\\' :: '\n' :: _ => 2
  | '\\' :: '\r' :: '\n' :: _ => 3
  | '\\' :: d :: ds =>
    if isDigit d then 1 + (((d :: ds).take 3).takeWhile isDigit).length
    else if "'\"abfrntv\\".toList.contains d then 2
    else 0
  | _ => 0

/-- Where a stretch of text in a string literal ends: the cursor there, or nothing if the literal
is broken off. -/
def contentEnd (q : Quotes) (some? : Bool) : Nat → Cursor → Option (Bool × Cursor)
  | 0, _ => none
  | fuel + 1, c =>
    match c.rest with
    | [] => none
    | x :: cs =>
      if x == '\x00' then none
      else if q.formatted && (x == '\x7b' || x == '\x7d') then some (some?, c)
      else if x == '\\' then
        if q.raw then
          match cs with
          | y :: ys =>
            if y == q.mark || y == '\\' then
              match ys with
              | '\n' :: _ => contentEnd q some? fuel c.step.step.step
              | _ => contentEnd q some? fuel c.step.step
            else if y == '\n' then contentEnd q some? fuel c.step.step
            else contentEnd q some? fuel c.step
          | [] => contentEnd q some? fuel c.step
        else if q.bytes then
          match cs with
          | y :: _ =>
            if y == 'N' || y == 'u' || y == 'U' then
              contentEnd q true fuel c.step.step.step
            else some (some?, c)
          | [] => some (some?, c)
        else some (some?, c)
      else if x == q.mark then
        if q.long then
          match cs with
          | y :: z :: _ =>
            if y == q.mark && z == q.mark then some (some?, c)
            else if y == q.mark then some (true, c.step.step)
            else some (true, c.step)
          | [y] => if y == q.mark then some (true, c.step.step) else some (true, c.step)
          | [] => some (true, c.step)
        else some (some?, c)
      else if x == '\n' && some? && !q.long then none
      else contentEnd q true fuel c.step

/-- The next lexeme where the text of a string literal may go on. -/
def nextInString (s : Scanner) : Scanned :=
  let c := s.cursor
  match s.quotes with
  | [] => scanned s [] .stray c 0
  | q :: outer =>
    let brace? : Option Scanned :=
      if q.formatted then
        match c.rest with
        | '\x7b' :: '\x7b' :: _ | '\x7d' :: '\x7d' :: _ => some (scanned s [] .doubledBrace c 2)
        | '\x7b' :: _ => some (scanned s [] (.mark "\x7b") c 1)
        | '\x7d' :: _ => some (scanned s [] .stray c 1)
        | _ => none
      else none
    match brace? with
    | some r => r
    | none =>
      match contentEnd q false (s.size + 2) c with
      | none => scanned s [] .stray c 0
      | some (true, past) =>
        { extras := []
          lexeme := .content
          span := c.spanTo past
          after := { s with cursor := past } }
      | some (false, past) =>
        if past.rest.head? == some q.mark then
          let past := past.steps (if q.long then 3 else 1)
          { extras := []
            lexeme := .quoteClose
            span := c.spanTo past
            after := { s with cursor := past, quotes := outer, inFormatted := false } }
        else
          match escapeLength c.rest with
          | 0 => scanned s [] .loneBackslash c 1
          | n => scanned s [] .escape c n

/-- The next lexeme where a format may go on. -/
def nextInFormat (s : Scanner) : Scanned :=
  let c := s.cursor
  match c.rest with
  | '\x7b' :: _ => scanned s [] (.mark "\x7b") c 1
  | '\x7d' :: _ => scanned s [] (.mark "\x7d") c 1
  | '\n' :: _ => scanned s [] .stray c 0
  | [] => scanned s [] .stray c 0
  | _ =>
    let past := (c.takeWhile (fun x => x != '\x7b' && x != '\x7d' && x != '\n' && x != '\x00')).2
    { extras := []
      lexeme := .formatText
      span := c.spanTo past
      after := { s with cursor := past } }

end Scanner
end Enclosure.Concrete
