import Enclosure.Console.Width
import Enclosure.Text.Blank

/-!
# Lines of a terminal

A line that is longer than the terminal is wide is broken in front of a word; a word that is longer
than a line is broken anywhere.  White space that ends a line stays as far as there is room for it.
Characters keep their places while they are laid out, so that it can be told what has become of a part
of a text.

What is here:

* `Cell`: a character with its place.
* `expandTabs`: a line without tabs.
* `crop`: as much of a line as there is room for.
* `wrapLine`: the lines that a line is broken into.
* `rows`: the lines that a text is laid out in, with and without breaking lines.
* `written`: lines as they are written.
-/

set_option autoImplicit false

namespace Enclosure.Console

/-- How wide the terminal is. -/
def terminalWidth : Nat := 80

/-- Every so many columns there is a stop for tabs. -/
def tabStop : Nat := 8

/-- A character with its place in the text that it is from. -/
structure Cell where
  char : Char
  place : Nat
deriving Repr, DecidableEq

/-- The characters of a text with their places. -/
def cellsOf (cs : List Char) : List Cell := cs.zipIdx.map fun (c, place) => ⟨c, place⟩

/-- The characters of cells. -/
def charsOf (cells : List Cell) : List Char := cells.map Cell.char

/-- A line without tabs that starts in a column; the blanks for a tab are in its place. -/
def expandTabsFrom (column : Nat) : List Cell → List Cell
  | [] => []
  | c :: cs =>
    if c.char = '\t' then
      let gap := tabStop - column % tabStop
      List.replicate gap { c with char := ' ' } ++ expandTabsFrom (column + gap) cs
    else c :: expandTabsFrom (column + charWidth c.char) cs

/-- A line without tabs. -/
def expandTabs (line : List Cell) : List Cell := expandTabsFrom 0 line

/-- As much of a line as there is room for; half of a wide character is shown as a blank. -/
def crop (room : Nat) : List Cell → List Cell
  | [] => []
  | c :: cs =>
    if charWidth c.char ≤ room then c :: crop (room - charWidth c.char) cs
    else if room = 0 then [] else [{ c with char := ' ' }]

/-- Whether a cell is blank. -/
def Cell.isBlank (c : Cell) : Bool := Text.isBlank c.char

/-- A line cut in front of every character that ends white space. -/
def cutWords : List Cell → List (List Cell)
  | [] => []
  | c :: cs =>
    match cutWords cs with
    | [] => [[c]]
    | word :: words =>
      if c.isBlank && !(word.take 1).any Cell.isBlank then [c] :: word :: words
      else (c :: word) :: words

/-- The words of a line: each takes the white space after it, the first one also that before it. -/
def lineWords (line : List Cell) : List (List Cell) :=
  match cutWords (line.dropWhile Cell.isBlank) with
  | [] => []
  | word :: words => (line.takeWhile Cell.isBlank ++ word) :: words

/-- A word broken into parts that fit, where some columns of the first part are taken already. -/
def chopFrom (width taken : Nat) : List Cell → List (List Cell)
  | [] => [[]]
  | c :: cs =>
    if taken + charWidth c.char > width then
      match chopFrom width (charWidth c.char) cs with
      | part :: parts => [] :: (c :: part) :: parts
      | [] => [[], [c]]
    else
      match chopFrom width (taken + charWidth c.char) cs with
      | part :: parts => (c :: part) :: parts
      | [] => [[c]]

/-- A line that is being filled: the lines before it and its own cells, both last one first. -/
structure Filling where
  full : List (List Cell) := []
  line : List Cell := []
  /-- How many columns are taken. -/
  taken : Nat := 0

/-- Start a new line, unless nothing has been written yet. -/
def Filling.break (f : Filling) : Filling :=
  if f.full.isEmpty && f.line.isEmpty then f
  else { full := f.line.reverse :: f.full, line := [], taken := 0 }

/-- Write cells. -/
def Filling.write (f : Filling) (cs : List Cell) : Filling :=
  { f with line := cs.reverse ++ f.line, taken := f.taken + textWidth (charsOf cs) }

/-- Write a word, on a new line if there is no room for it. -/
def Filling.add (width : Nat) (f : Filling) (word : List Cell) : Filling :=
  let needed := textWidth (Text.trimEnd (charsOf word))
  if f.taken + needed ≤ width then f.write word
  else if width < needed then
    (chopFrom width 0 word).foldl (fun f part => f.break.write part) f
  else f.break.write word

/-- A line without the white space that there is no room for. -/
def trimOverhang (width : Nat) (line : List Cell) : List Cell :=
  let overhang := line.length - width
  let blanks := (line.reverse.takeWhile Cell.isBlank).length
  line.take (line.length - min overhang blanks)

/-- The lines that a line is broken into. -/
def wrapLine (width : Nat) (line : List Cell) : List (List Cell) :=
  let words := lineWords line
  let filled := words.foldl (Filling.add width) {}
  let lines := if words.isEmpty then [line] else (filled.line.reverse :: filled.full).reverse
  lines.map fun l => crop width (trimOverhang width l)

/-- The lines of a text. -/
def textLines (cells : List Cell) : List (List Cell) := cells.splitOnP (·.char == '\n')

/-- The lines that a text is laid out in; without a width no line is broken. -/
def rows (width : Option Nat) (cs : List Char) : List (List Cell) :=
  let lines := (textLines (cellsOf cs)).map expandTabs
  match width with
  | some width => lines.flatMap (wrapLine width)
  | none => lines

/-- Lines as they are written. -/
def written (lines : List (List Char)) : String :=
  String.join (lines.map fun l => String.ofList l ++ "\n")

end Enclosure.Console
