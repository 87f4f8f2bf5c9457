import Enclosure.Token.Basic
import Enclosure.Token.Number
import Enclosure.Text.Identifier
import Enclosure.Text.Printable
import Enclosure.Text.Hex

/-!
# From a text to tokens

`Lexer.run` cuts a text into tokens.  Line structure is part of the language, so besides names,
numbers, strings and punctuation there are tokens for the end of a logical line and for a change
of indentation; inside brackets neither is produced.

Reading never goes back.  When the text cannot be cut any further the result keeps the tokens found
so far together with the reason, because a grammar may object to those tokens first.

What is here:

* `LexFault`: why a text cannot be cut any further.
* `Lexed`: the tokens, and the fault with the brackets open at that place, if there is one.
* `Lexer.run`: the tokens of a text.
-/

set_option autoImplicit false

namespace Enclosure

/-- Why the scanner stopped before the end of the text. -/
inductive LexFault where
  /-- A sequence of characters that is no token, with the objection in words. -/
  | objection (message : String) (line : Nat)
  /-- The text ended inside brackets or after a continuation mark. -/
  | unfinished (line : Nat)
  /-- A line is indented less than the one before, and as much as none of the lines around it. -/
  | unalignedDedent (line : Nat)
  /-- The indentation of a line depends on how wide a tab is. -/
  | mixedTabs (line : Nat)
  /-- More than a hundred levels of indentation. -/
  | tooManyIndents (line : Nat)
  /-- Something stands after a continuation mark on its line. -/
  | strayContinuation (line : Nat)
deriving Repr

/-- The line a fault belongs to. -/
def LexFault.line : LexFault → Nat
  | .objection _ l | .unfinished l | .unalignedDedent l | .mixedTabs l | .tooManyIndents l
  | .strayContinuation l => l

/-- The tokens of a text, and why there are no more of them when the text did not end. -/
structure Lexed where
  tokens : Array Token
  fault : Option (LexFault × List Bracket)

namespace Lexer

/-- The deepest nesting of brackets. -/
def maxBrackets : Nat := 200

/-- The deepest indentation, the outermost level included. -/
def maxIndents : Nat := 100

/-- What the scanner knows between two tokens. -/
structure State where
  /-- The characters left. -/
  rest : List Char
  /-- How many line ends have been passed. -/
  passed : Nat
  /-- Whether the next character starts a line. -/
  fresh : Bool
  /-- The open levels of indentation, innermost first, each measured with wide and narrow tabs. -/
  indents : List (Nat × Nat)
  /-- Brackets that are open, innermost first. -/
  brackets : List Bracket
  /-- Tokens found, last one last. -/
  tokens : Array Token

/-- The line the next character stands on; at the end of the text, the last line. -/
def State.line (s : State) : Nat :=
  if s.rest.isEmpty then s.passed else s.passed + 1

/-- Add a token of one line. -/
def State.emit (s : State) (sort text : String) : State :=
  { s with tokens := s.tokens.push ⟨sort, text, s.line, s.line, s.brackets.length⟩ }

/-- Stop with a fault. -/
def State.stop (s : State) (f : LexFault) : Lexed := ⟨s.tokens, some (f, s.brackets)⟩

/-- How the start of a line measures. -/
structure Margin where
  rest : List Char
  passed : Nat
  wide : Nat
  narrow : Nat

/-- Why the start of a line cannot be measured. -/
inductive MarginFault where
  | strayContinuation | unfinished

/-- Measure the white space a line starts with.  A tab goes to the next multiple of eight and, in
the narrow measure, counts as one.  Where a continuation mark splits the white space, what stands
before the first one counts. -/
def margin (passed wide narrow kept : Nat) : List Char → Except (MarginFault × Nat) Margin
  | ' ' :: cs => margin passed (wide + 1) (narrow + 1) kept cs
  | '\t' :: cs => margin passed ((wide / 8 + 1) * 8) (narrow + 1) kept cs
  | '\x0c' :: cs => margin passed 0 0 kept cs
  | '\\' :: '\n' :: [] => .error (.unfinished, passed + 1)
  | '\\' :: '\n' :: cs => margin (passed + 1) wide narrow (if kept = 0 then wide else kept) cs
  | '\\' :: _ => .error (.strayContinuation, passed + 1)
  | cs => .ok
    { rest := cs
      passed := passed
      wide := if kept = 0 then wide else kept
      narrow := if kept = 0 then narrow else kept }

/-- Leave the levels of indentation that are deeper than a column; how many were left. -/
def closeLevels (column : Nat) : List (Nat × Nat) → Nat × List (Nat × Nat)
  | [] => (0, [])
  | [base] => (0, [base])
  | level :: levels =>
    if column < level.1 then
      let (n, left) := closeLevels column levels
      (n + 1, left)
    else (0, level :: levels)

/-- Drop characters up to the end of the line. -/
def toLineEnd : List Char → List Char
  | [] => []
  | '\n' :: cs => '\n' :: cs
  | _ :: cs => toLineEnd cs

/-- Drop blanks within a line. -/
def skipBlanks : List Char → List Char
  | c :: cs => if c == ' ' || c == '\t' || c == '\x0c' then skipBlanks cs else c :: cs
  | [] => []

/-- The letters seen so far that may stand before a quote. -/
structure QuoteLetters where
  b : Bool
  r : Bool
  u : Bool
  f : Bool

/-- One more letter before a quote, unless no string literal starts that way. -/
def QuoteLetters.add (l : QuoteLetters) (c : Char) : Option QuoteLetters :=
  if !(l.b || l.u || l.f) && (c == 'b' || c == 'B') then some { l with b := true }
  else if !(l.b || l.u || l.r || l.f) && (c == 'u' || c == 'U') then some { l with u := true }
  else if !(l.r || l.u) && (c == 'r' || c == 'R') then some { l with r := true }
  else if !(l.f || l.b || l.u) && (c == 'f' || c == 'F') then some { l with f := true }
  else none

/-- The letters a string literal starts with, when the text starts with a string literal: the
letters taken, the quote, and what follows it. -/
def quoteLetters (l : QuoteLetters) (taken : List Char) :
    List Char → Option (List Char × Char × List Char)
  | [] => none
  | c :: cs =>
    if c == '"' || c == '\'' then some (taken, c, cs)
    else (l.add c).bind fun l => quoteLetters l (c :: taken) cs

/-- The characters of a name. -/
def word (taken : List Char) : List Char → Reading
  | [] => ⟨taken, []⟩
  | c :: cs => if isWordChar c then word (c :: taken) cs else ⟨taken, c :: cs⟩

/-- The body of a string literal after its opening quotes: what is taken up to the closing quotes,
what is left, and how many line ends were passed; the line where the search ended when it is not
closed.  `run` counts the quotes that stand directly before. -/
def stringBody (quote : Char) (long : Bool) (run passed : Nat) (taken : List Char) :
    List Char → Except Nat (Reading × Nat)
  | [] => .error passed
  | '\\' :: c :: cs =>
    stringBody quote long 0 (if c == '\n' then passed + 1 else passed) (c :: '\\' :: taken) cs
  | c :: cs =>
    if c == quote then
      if run + 1 = (if long then 3 else 1) then .ok (⟨c :: taken, cs⟩, passed)
      else stringBody quote long (run + 1) passed (c :: taken) cs
    else if c == '\n' then
      if long then stringBody quote long 0 (passed + 1) (c :: taken) cs else .error (passed + 1)
    else stringBody quote long 0 passed (c :: taken) cs

/-- Punctuation of three characters. -/
def triples : List String := ["**=", "//=", ">>=", "<<=", "..."]

/-- Punctuation of two characters. -/
def pairs : List String :=
  ["!=", "%=", "&=", "**", "*=", "+=", "-=", "->", "//", "/=", ":=", "<<", "<=", "<>", "==", ">=",
    ">>", "@=", "^=", "|="]

/-- The longest punctuation mark the text starts with, other than a single character. -/
def longMark (c : Char) : List Char → Option (String × List Char)
  | d :: e :: cs =>
    let three := String.ofList [c, d, e]
    let two := String.ofList [c, d]
    if triples.contains three then some (three, cs)
    else if pairs.contains two then some (two, e :: cs) else none
  | [d] =>
    let two := String.ofList [c, d]
    if pairs.contains two then some (two, []) else none
  | [] => none

/-- The objection to a character that no token contains. -/
def strangeCharacter (c : Char) : String :=
  if isPrintable c then s!"invalid character '{c}' (U+{Text.hexUpper 4 c.toNat})"
  else s!"invalid non-printable character U+{Text.hexUpper 4 c.toNat}"

/-- One token at a place that is not the start of a line; `.inl` when scanning ends. -/
def token (s : State) : Lexed ⊕ State :=
  match skipBlanks s.rest with
  | [] =>
    let s := { s with rest := [] }
    if s.brackets.isEmpty then .inl ⟨(s.emit "ENDMARKER" "").tokens, none⟩
    else .inl (s.stop (.unfinished s.line))
  | c :: cs =>
    let s := { s with rest := c :: cs }
    if c == '#' then .inr { s with rest := toLineEnd cs }
    else if c == '\n' then
      let s := if s.brackets.isEmpty then s.emit "NEWLINE" "" else s
      .inr { s with rest := cs, passed := s.passed + 1, fresh := true }
    else match quoteLetters ⟨false, false, false, false⟩ [] (c :: cs) with
    | some (taken, quote, cs) => string s (quote :: taken) quote cs
    | none =>
      if isWordStart c then
        let r := word [c] cs
        let text := r.text
        match Text.identifierFault? text with
        | some d => .inl (s.stop (.objection (strangeCharacter d) s.line))
        | none =>
          let sort := if Token.reserved.contains text then text else "NAME"
          .inr { s.emit sort text with rest := r.rest }
      else if c == '.' && startsWithDigit cs then number s (Numeral.fraction ⟨[c], cs⟩)
      else if c.isDigit then number s (Numeral.read c cs)
      else if c == '\\' then continuation s cs
      else match longMark c cs with
      | some (mark, cs) => .inr { s.emit mark mark with rest := cs }
      | none => mark s c cs
where
  startsWithDigit : List Char → Bool
    | d :: _ => d.isDigit
    | [] => false
  number (s : State) : Except String Reading → Lexed ⊕ State
    | .ok r => .inr { s.emit "NUMBER" r.text with rest := r.rest }
    | .error message => .inl (s.stop (.objection message s.line))
  continuation (s : State) : List Char → Lexed ⊕ State
    | '\n' :: [] => .inl (s.stop (.unfinished s.line))
    | '\n' :: cs => .inr { s with rest := cs, passed := s.passed + 1 }
    | _ => .inl (s.stop (.strayContinuation s.line))
  string (s : State) (taken : List Char) (quote : Char) (cs : List Char) : Lexed ⊕ State :=
    let first := s.line
    match cs with
    | a :: rest =>
      if a == quote then
        match rest with
        | b :: more =>
          if b == quote then close s first "unterminated triple-quoted string literal"
              (stringBody quote true 0 s.passed (b :: a :: taken) more)
          else close s first "" (.ok (⟨a :: taken, rest⟩, s.passed))
        | [] => close s first "" (.ok (⟨a :: taken, rest⟩, s.passed))
      else close s first "unterminated string literal" (stringBody quote false 0 s.passed taken cs)
    | [] => close s first "unterminated string literal" (.error first)
  close (s : State) (first : Nat) (objection : String) :
      Except Nat (Reading × Nat) → Lexed ⊕ State
    | .ok (r, passed) =>
      let t : Token := ⟨"STRING", r.text, first, passed + 1, s.brackets.length⟩
      .inr { s with rest := r.rest, passed := passed, tokens := s.tokens.push t }
    | .error last => .inl (s.stop (.objection s!"{objection} (detected at line {last})" first))
  mark (s : State) (c : Char) (cs : List Char) : Lexed ⊕ State :=
    let text := c.toString
    if c == '(' || c == '[' || c == '\x7b' then
      if s.brackets.length ≥ maxBrackets then
        .inl (s.stop (.objection "too many nested parentheses" s.line))
      else
        let s := { s with brackets := ⟨c, s.line⟩ :: s.brackets }
        .inr { s.emit text text with rest := cs }
    else if c == ')' || c == ']' || c == '\x7d' then
      match s.brackets with
      | [] => .inl (s.stop (.objection s!"unmatched '{c}'" s.line))
      | b :: bs =>
        let s := { s with brackets := bs }
        if b.closes c then .inr { s.emit text text with rest := cs }
        else
          let against := s!"closing parenthesis '{c}' does not match opening parenthesis '{b.mark}'"
          let place := if b.line = s.line then "" else s!" on line {b.line}"
          .inl (s.stop (.objection (against ++ place) s.line))
    else if isPrintable c then .inr { s.emit text text with rest := cs }
    else .inl (s.stop (.objection (strangeCharacter c) s.line))

/-- Take up the start of a line: blank lines and comments are passed over, a change of indentation
becomes tokens. -/
def lineStart (s : State) : Lexed ⊕ State :=
  match margin s.passed 0 0 0 s.rest with
  | .error (.strayContinuation, line) => .inl (s.stop (.strayContinuation line))
  | .error (.unfinished, line) => .inl (s.stop (.unfinished line))
  | .ok m =>
    let s := { s with rest := m.rest, passed := m.passed, fresh := false }
    match m.rest with
    | '#' :: cs => .inr (skipLine s (toLineEnd cs))
    | '\n' :: cs => .inr (skipLine s ('\n' :: cs))
    | _ =>
      if !s.brackets.isEmpty then .inr s
      else match s.indents with
      | [] => .inr s
      | (wide, narrow) :: outer =>
        if m.wide = wide then
          if m.narrow = narrow then .inr s else .inl (s.stop (.mixedTabs s.line))
        else if wide < m.wide then
          if s.indents.length ≥ maxIndents then .inl (s.stop (.tooManyIndents s.line))
          else if m.narrow ≤ narrow then .inl (s.stop (.mixedTabs s.line))
          else .inr ({ s with indents := (m.wide, m.narrow) :: s.indents }.emit "INDENT" "")
        else
          let (n, levels) := closeLevels m.wide ((wide, narrow) :: outer)
          match levels with
          | (w, k) :: _ =>
            if m.wide ≠ w then .inl (s.stop (.unalignedDedent s.line))
            else if m.narrow ≠ k then .inl (s.stop (.mixedTabs s.line))
            else .inr (n.repeat (fun s => s.emit "DEDENT" "") { s with indents := levels })
          | [] => .inr s
where
  skipLine (s : State) : List Char → State
    | '\n' :: cs => { s with rest := cs, passed := s.passed + 1, fresh := true }
    | cs => { s with rest := cs, fresh := true }

/-- Scan until the text or the fuel ends. -/
def scan : Nat → State → Lexed
  | 0, s => ⟨s.tokens, none⟩
  | fuel + 1, s =>
    match if s.fresh then lineStart s else token s with
    | .inl done => done
    | .inr s => scan fuel s

/-- Line ends in one form, and one at the end of the text.  A text that ends in a carriage return
with its line feed gets one more line end than it has. -/
def withLineEnds : List Char → List Char
  | [] => ['\n']
  | ['\r', '\n'] => ['\n', '\n']
  | ['\r'] => ['\n']
  | ['\n'] => ['\n']
  | '\r' :: '\n' :: cs => '\n' :: withLineEnds cs
  | '\r' :: cs => '\n' :: withLineEnds cs
  | [c] => [c, '\n']
  | c :: cs => c :: withLineEnds cs

/-- The tokens of a text whose first line has the number `first`.  Every step takes a character or
ends a line or the text, so there are fewer steps than twice the characters. -/
def run (text : List Char) (first : Nat) : Lexed :=
  let cs := withLineEnds text
  scan (2 * cs.length + 8)
    { rest := cs, passed := first - 1, fresh := true, indents := [(0, 0)], brackets := []
      tokens := #[] }

end Lexer
end Enclosure
