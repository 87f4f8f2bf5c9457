import Enclosure.Concrete.Cut
import Enclosure.Concrete.Statement

/-!
# Repairs

A text that cannot be read to its end is put right by repairs: a mark or a name that is missing is
put in, or a stretch of lexemes is left out.  Each repair has a cost, which grows with what is left
out, and the reader has to get past the place where it could not go on.  What is wrong with the text
is said by the cheapest way to put it right.

Repairs are looked for within the statement of the outermost level that cannot be read.  A repair
that leaves more to repair costs that too.

What is here:

* `Repair`: where something is wrong, what is missing there, and the cost.
* `Candidate`: a repair with the text that it leads to.
* `repair?`: the cheapest repair of a text.
-/

set_option autoImplicit false

namespace Enclosure.Concrete

/-- What is done at one place of a text. -/
structure Repair where
  /-- What is put in; nothing, if a stretch is left out. -/
  missing : Option String := none
  place : Point
  byte : Nat
  cost : Nat

/-! ## Texts with something left out -/

/-- The characters of a text up to a number of bytes. -/
def charsUpTo : List Char → Nat → List Char
  | [], _ => []
  | c :: cs, n => if c.utf8Size ≤ n then c :: charsUpTo cs (n - c.utf8Size) else []

/-- The characters of a text from a number of bytes on. -/
def charsFrom : List Char → Nat → List Char
  | [], _ => []
  | c :: cs, n => if n = 0 then c :: cs else charsFrom cs (n - c.utf8Size)

/-- The cursor at an offset. -/
def Cursor.seek (byte : Nat) : Nat → Cursor → Cursor
  | 0, c => c
  | n + 1, c => if c.byte < byte then seek byte n c.step else c

/-- The text up to one offset, something else, and the text from another offset on. -/
def Cursor.splice (c : Cursor) (stop : Nat) (between : List Char) (start : Nat) : Cursor :=
  { c with
    rest := charsUpTo c.rest (stop - c.byte) ++ between ++ charsFrom c.rest (start - c.byte) }

/-- A scanner at a place of a text, outside every statement. -/
def Scanner.startingAt (c : Cursor) : Scanner := { cursor := c, size := c.rest.length }

/-- Read statements from a place to the end of the text. -/
def readFrom (c : Cursor) : Except Blocked Builder :=
  match (statements (fuelFor c.rest.length) false).run { scanner := Scanner.startingAt c } with
  | .ok (_, b) => .ok b
  | .error e => .error e

/-- How many characters after a repair have a say in whether the text can go on there. -/
def nearby : Nat := 400

/-- How many characters after a repair have a say in what else is wrong. -/
def faraway : Nat := 4000

/-- The text up to an offset. -/
def Cursor.upTo (byte : Nat) (c : Cursor) : Cursor :=
  { c with rest := charsUpTo c.rest (byte - c.byte) }

/-- Whether a text can be read up to a lexeme at an offset, with the lexeme. -/
def readsPast (c : Cursor) (byte : Nat) : Bool :=
  match readFrom (c.upTo (byte + nearby)) with
  | .ok _ => true
  | .error e => byte < e.byte

/-! ## Where the reader is -/

/-- Where a reader could not go on, and what can be done about it. -/
structure Site where
  /-- The start of the statement of the outermost level. -/
  start : Cursor
  /-- The lexemes before which a stretch may end. -/
  stops : List Stop
  /-- The parts of the statements that are being read, innermost first. -/
  parts : List (List Part)
  /-- An operand could come. -/
  operandWanted : Bool

/-- Lexemes that end the constructs before them, even where they are of no use.  A colon does not:
what it belongs to is still open. -/
def Lexeme.mayFollow : Lexeme → Bool
  | .mark m => m != ":"
  | _ => false

/-- How many lexemes are left out at most. -/
def maxStops : Nat := 40

/-- How many parts are left out at most. -/
def maxParts : Nat := 16

/-- The site of a place where a reader could not go on. -/
def Blocked.site (e : Blocked) (text : Cursor) : Site :=
  let b := e.builder
  let stale := e.lexeme.span.startByte < b.scanner.cursor.byte || e.lexeme.lexeme == .stray
  let first := if stale then b.scanner.next anything else e.lexeme
  let parts := (if first.lexeme.mayFollow then b.toStack else b.taken).parts
  let start := match parts.getLast?.bind (·.getLast?) with
    | some p => p.byte
    | none => first.span.startByte
  { start := text.seek start (text.rest.length + 1)
    stops := stopsFrom maxStops { lexeme := first, cost := 0, last := b.last, lastByte := b.lastByte }
    parts := parts
    operandWanted := match b.ahead with | some (w, _) => w.quote | none => false }

namespace Site

/-- The places where a stretch may start, nearest first; the nearest of all is right where the
reader could not go on. -/
def cuts (s : Site) : List Cut :=
  let here : List Cut := match s.stops with
    | [] => []
    | stop :: _ =>
      let span := stop.lexeme.span
      let kept := match s.parts with
        | (_ :: _) :: _ => stop.lastByte
        | _ => span.startByte
      [{ place := span.start
         byte := span.startByte
         kept := kept
         trees := 0
         before := s.parts.flatten }]
  here ++ cutsFrom 0 (s.parts.flatten.take maxParts)

/-- The place where the innermost statement starts. -/
def blockCut? (s : Site) : Option Cut :=
  match s.parts with
  | [] => none
  | ps :: _ => (cutsFrom 0 ps).getLast?

/-- The place where the outermost statement starts, unless that is too far. -/
def textCut? (s : Site) : Option Cut :=
  if s.parts.flatten.length ≤ maxParts then s.cuts.getLast? else none

end Site

/-! ## Repairs to choose from -/

/-- A repair, with the text that it leads to; there is none where a block or the text ends. -/
structure Candidate where
  repair : Repair
  /-- Preferred to one that costs the same and was found before. -/
  isFirm : Bool := false
  text : Option Cursor := none

/-- What it costs to leave out what lies between a cut and a stop. -/
def stretchCostOf (c : Cut) (s : Stop) : Nat :=
  stretchCost + (s.lastByte - c.byte) + rowCost * (s.last.row - c.place.row) +
    treeCost * c.trees + s.cost

/-- The candidate that leaves out what lies between a cut and a stop. -/
def Candidate.ofStretch (c : Cut) (s : Stop) (text : Option Cursor) : Candidate :=
  { repair := { place := c.place, byte := c.byte, cost := stretchCostOf c s }
    isFirm := c.isFirm
    text := text }

/-- A name as long as a reserved word; where a reserved word is of no use it counts as a name. -/
def nameLike (t : String) : List Char := List.replicate t.length '_'

/-- The nearest cut from which the text can go on with a stop, at less than some cost. -/
def nearest? (site : Site) (isFirst : Bool) (bound : Nat) (s : Stop) : List Cut → Option Candidate
  | [] => none
  | c :: cs =>
    if bound < stretchCostOf c s then none
    else
      let (word, start) : List Char × Nat := match s.lexeme.lexeme, isFirst with
        | .word t, true =>
          if Token.reserved.contains t then (nameLike t, s.lexeme.span.stopByte)
          else ([], s.lexeme.span.startByte)
        | _, _ => ([], s.lexeme.span.startByte)
      let text := site.start.splice c.kept (' ' :: word) start
      if readsPast text (c.kept + 1) then
        some (Candidate.ofStretch c s (some (text.upTo (c.kept + faraway))))
      else nearest? site isFirst bound s cs

/-- The candidate for a stretch that ends before a stop. -/
def Site.leaveOut? (site : Site) (isFirst : Bool) (bound : Nat) (s : Stop) : Option Candidate :=
  match s.lexeme.lexeme with
  | .finish => site.textCut?.map fun c => Candidate.ofStretch c s none
  | .dedent =>
    if s.levels = 0 then site.blockCut?.map fun c => Candidate.ofStretch c s none else none
  | .indent _ | .stray => none
  | _ =>
    nearest? site isFirst bound s (if isFirst then site.cuts.drop 1 else site.cuts)

/-- What may be put in, as it is called and as it is written. -/
def insertions (site : Site) (l : Lexeme) : List (String × List Char) :=
  let inArguments := inList site.parts.flatten
  let bindsName := match l with
    | .mark m => m == ":=" || (inArguments && (m == ":" || m == "="))
    | _ => false
  let name := if site.operandWanted && !bindsName then [("identifier", ['_'])] else []
  name ++ [(")", [')']), ("]", [']']), ("\x7d", ['\x7d'])]
where
  inList : List Part → Bool
    | [] => false
    | p :: ps => if p.named || p.kind == "," then inList ps else Part.openArguments (p :: ps)

/-- The cost of what is put in. -/
def missingCost : Nat := 610

/-- The first thing that can be put in so that the text goes on. -/
def Site.putIn? (site : Site) : Option Candidate :=
  match site.stops with
  | [] => none
  | s :: _ =>
    match s.lexeme.lexeme with
    | .finish | .dedent | .stray => none
    | l =>
      (insertions site l).findSome? fun (name, written) =>
        let between := ' ' :: written ++ [' ']
        let text := site.start.splice s.lastByte between s.lexeme.span.startByte
        if readsPast text (s.lastByte + between.length) then
          some
            { repair :=
                { missing := some name, place := s.last, byte := s.lastByte, cost := missingCost }
              text := some (text.upTo (s.lastByte + faraway)) }
        else none

/-! ## The cheapest repair -/

/-- A candidate with what else there is to repair.  A later repair that starts earlier takes this
one in. -/
def Candidate.settle (rest : Cursor → Option Repair) (c : Candidate) : Repair :=
  match c.text.bind rest with
  | none => c.repair
  | some r =>
    if r.byte < c.repair.byte then { r with cost := r.cost + c.repair.cost }
    else { c.repair with cost := c.repair.cost + r.cost }

/-- The better one of a repair and a candidate that was found later. -/
def better (rest : Cursor → Option Repair) (best : Option Repair) (c : Candidate) : Repair :=
  match best with
  | none => c.settle rest
  | some r =>
    if r.cost < c.repair.cost then r
    else
      let found := c.settle rest
      if found.cost < r.cost || (found.cost = r.cost && c.isFirm) then found else r

/-- The best one of a repair and the stretches that end before some stops. -/
def bestStretch (rest : Cursor → Option Repair) (site : Site) :
    Bool → Option Repair → List Stop → Option Repair
  | _, best, [] => best
  | isFirst, best, s :: ss =>
    let bound := match best with
      | some r => r.cost
      | none => 1000000
    if bound < stretchCost + s.cost then best
    else
      let best := match site.leaveOut? isFirst bound s with
        | some c => some (better rest best c)
        | none => best
      if s.lexeme.lexeme == .dedent && isFirst then best
      else bestStretch rest site false best ss

/-- The cheapest repair of a text, looking so many repairs ahead; nothing, if the text can be read
or if no repair was found. -/
def repair? : Nat → Cursor → Option Repair
  | 0, _ => none
  | ahead + 1, text =>
    match readFrom text with
    | .ok _ => none
    | .error e =>
      let site := e.site text
      let put := site.putIn?.map (better (repair? ahead) none)
      bestStretch (repair? ahead) site true put site.stops

end Enclosure.Concrete
