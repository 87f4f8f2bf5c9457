import Enclosure.Abstract.Statement
import Enclosure.Abstract.Expression
import Enclosure.Abstract.Parameter
import Enclosure.Abstract.Pattern
import Enclosure.Abstract.Target
import Enclosure.Abstract.Mistake
import Enclosure.Grammar.Match

/-!
# Reading abstract syntax

A text is read in at most two rounds.  The first round looks for the construct alone; if there is
none, the second one also tries the rules that describe mistakes.  A text that both rounds refuse
without a diagnosis is called invalid at the furthest token of the first round.

Whatever was found to be wrong, a mistake of the scanner further down in the text is reported
instead, since it usually is the cause: a quote that was not closed, or a bracket.

What is here:

* `Rule.body` and `grammar`: all rules together.
* `read`: the phrase for a text.
-/

set_option autoImplicit false

namespace Enclosure.Abstract

/-- The body of any rule. -/
def Rule.body : Rule → RuleBody Rule
  | .statement r => r.body
  | .expression r => r.body
  | .parameter r => r.body
  | .pattern r => r.body
  | .target r => r.body
  | .mistake r => r.body

/-- The abstract grammar. -/
def grammar : Grammar Rule := { body := Rule.body, number := Rule.number }

/-- A bracket that is never closed. -/
def neverClosed (b : Bracket) : Complaint :=
  { message := s!"'{b.mark}' was never closed", line := b.line }

/-- What the scanner's fault is called when the grammar asks for the token that is missing. -/
def scannerComplaint (fault : LexFault) (brackets : List Bracket) : Complaint :=
  match fault with
  | .objection message line => { message := message, line := line, settled := true }
  | .unfinished line =>
    match brackets with
    | b :: _ => neverClosed b
    | [] => { message := "unexpected EOF while parsing", line := line }
  | .unalignedDedent line =>
    { message := "unindent does not match any outer indentation level", line := line }
  | .mixedTabs line =>
    { message := "inconsistent use of tabs and spaces in indentation", line := line }
  | .tooManyIndents line => { message := "too many levels of indentation", line := line }
  | .strayContinuation line =>
    { message := "unexpected character after line continuation character", line := line }

/-- The complaint about the rest of the text, if there is one that goes before `c`; the grammar has
looked at tokens up to the line `seen`. -/
def restComplaint (l : Lexed) (seen : Nat) (c : Complaint) : Complaint :=
  match l.fault with
  | none => c
  | some (.objection message line, _) => { message := message, line := line, settled := true }
  | some (_, b :: _) => if b.line < seen then neverClosed b else c
  | some (_, []) => c

/-- The line of the last token looked at. -/
def lineReached (l : Lexed) (reached : Nat) : Nat :=
  (l.tokens[reached - 1]?.map Token.line).getD 0

/-- One round of reading: the outcome, and how far tokens have been looked at. -/
def round (c : Setting Rule) (start : StatementRule) (mistakes : Bool) (reached : Nat) : Outcome :=
  Grammar.matchRule c (Grammar.fuelFor c) mistakes 0 (.statement start) (Grammar.start reached)

/-- What to say about a text that is wrong in a way no rule describes: `first` is how far the first
round went, `second` how far the second one did. -/
def plainComplaint (l : Lexed) (first second : Nat) : Complaint :=
  match l.tokens[first - 1]? with
  | none => { message := "invalid syntax", line := 1 }
  | some t =>
    if t.sort == "INDENT" then { message := "unexpected indent", line := lineReached l second }
    else if t.sort == "DEDENT" then { message := "unexpected unindent", line := lineReached l second }
    else restComplaint l (lineReached l second) { message := "invalid syntax", line := t.line }

/-- What to say when a round was halted. -/
def haltRefusal (l : Lexed) : Halt → Refusal
  | .outOfTokens =>
    match l.fault with
    | some (fault, brackets) => .mistake (scannerComplaint fault brackets)
    | none => .mistake { message := "invalid syntax", line := lineReached l l.tokens.size }
  | .refused .tooDeep _ => .tooDeep
  | .refused (.mistake c) reached => .mistake (restComplaint l (lineReached l reached) c)

/-- Read tokens as the given construct. -/
def readTokens (embedded : List Char → Nat → Except Refusal Phrase) (l : Lexed)
    (start : StatementRule) : Except Refusal Phrase :=
  let c : Setting Rule := { grammar := grammar, tokens := l.tokens, embedded := embedded }
  match round c start false 0 with
  | .found v _ => .ok ((v.phrases.head?).getD (Phrase.mark ""))
  | .halted h => .error (haltRefusal l h)
  | .missed p =>
    match round c start true p.reached with
    | .halted h => .error (haltRefusal l h)
    | .found _ q => .error (.mistake (plainComplaint l p.reached q.reached))
    | .missed q => .error (.mistake (plainComplaint l p.reached q.reached))

/-- A complaint about text inside a string literal. -/
def embeddedComplaint (c : Complaint) : Complaint :=
  { c with message := if c.settled then c.message else "f-string: " ++ c.message, settled := true }

/-- Read an expression that stands inside a string literal; such expressions may hold string
literals again, `fuel` of them inside each other. -/
def readEmbedded : Nat → List Char → Nat → Except Refusal Phrase
  | 0, _, line => object line "f-string: expressions nested too deeply"
  | fuel + 1, cs, line =>
    match readTokens (readEmbedded fuel) (Lexer.run ('(' :: cs ++ [')']) line) .embedded with
    | .ok p => .ok p
    | .error (.mistake c) => .error (.mistake (embeddedComplaint c))
    | .error .tooDeep => .error .tooDeep

/-- Read a whole text. -/
def read (text : List Char) : Except Refusal Phrase :=
  readTokens (readEmbedded (text.length + 1)) (Lexer.run text 1) .file

end Enclosure.Abstract
