import Enclosure.Console.Wrap

/-!
# Tables

A table with a heading and a frame.  Columns are as wide as their cells; if that is more than the
terminal has room for, the widest columns give way first, and cells that have become too long are cut
off with an ellipsis.

What is here:

* `shares`: how much of an excess some columns take over.
* `narrow`: widths that there is room for.
* `table`: a table with one row.
-/

set_option autoImplicit false

namespace Enclosure.Console

/-- The quotient of two numbers rounded to the nearest number, a half to the even one. -/
def nearestQuotient (a b : Nat) : Nat :=
  let q := a / b
  let r := a % b
  if 2 * r < b then q else if b < 2 * r then q + 1 else q + q % 2

/-- Widths after columns of one width have taken over an excess, none of them more than `most`;
`count` of these columns are left. -/
def shares (widest most : Nat) (excess count : Nat) : List Nat → List Nat
  | [] => []
  | w :: ws =>
    if w = widest then
      let share := min most (nearestQuotient excess count)
      (w - share) :: shares widest most (excess - share) (count - 1) ws
    else w :: shares widest most excess count ws

/-- One step of making room: the widest columns give way, at most down to the next width. -/
def narrowOnce (excess : Nat) (widths : List Nat) : List Nat :=
  let widest := widths.foldl max 0
  let second := (widths.filter (· ≠ widest)).foldl max 0
  shares widest (min excess (widest - second)) excess (widths.count widest) widths

/-- The sum of some widths. -/
def total (widths : List Nat) : Nat := widths.foldr (· + ·) 0

/-- Widths that there is room for. -/
def narrowWithin (room : Nat) : Nat → List Nat → List Nat
  | 0, widths => widths
  | fuel + 1, widths =>
    if total widths ≤ room then widths
    else narrowWithin room fuel (narrowOnce (total widths - room) widths)

/-- Widths that there is room for; every step takes away at least one column. -/
def narrow (room : Nat) (widths : List Nat) : List Nat := narrowWithin room (total widths) widths

/-- A cell of exactly some width. -/
def cell (width : Nat) (cs : List Char) : List Char :=
  let shown :=
    if width < textWidth cs then charsOf (crop (width - 1) (cellsOf cs)) ++ ['…'] else cs
  shown ++ List.replicate (width - textWidth shown) ' '

/-- A line of a frame: its ends, what stands between columns, and what fills them. -/
def rule (first between last fill : Char) (widths : List Nat) : List Char :=
  first :: (List.intercalate [between] (widths.map fun w => List.replicate w fill)) ++ [last]

/-- A line with cells. -/
def cellLine (side between : Char) (widths : List Nat) (cells : List (List Char)) : List Char :=
  let padded := widths.zip cells |>.map fun (w, cs) => ' ' :: cell (w - 2) cs ++ [' ']
  side :: List.intercalate [between] padded ++ [side]

/-- The width that a column asks for, with a blank on both sides. -/
def columnWidth (head body : List Char) : Nat := max (textWidth head) (textWidth body) + 2

/-- A table with a heading and one row. -/
def table (head row : List (List Char)) : String :=
  let wanted := (head.zip row).map fun (h, c) => columnWidth h c
  let widths := narrow (terminalWidth - (wanted.length + 1)) wanted
  written
    [rule '┏' '┳' '┓' '━' widths,
      cellLine '┃' '┃' widths head,
      rule '┡' '╇' '┩' '━' widths,
      cellLine '│' '│' widths row,
      rule '└' '┴' '┘' '─' widths]

end Enclosure.Console
