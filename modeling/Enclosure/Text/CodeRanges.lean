import Enclosure.Text.Hex

/-!
# Sets of code points

A property of characters is kept as the sorted list of the ranges that have it, written the way the
character database writes ranges: hexadecimal, with a hyphen between the ends, separated by blanks.

What is here:

* `CodeRanges.ofText`: the ranges that a text of this form names.
* `CodeRanges.contains`: whether a code point lies in one of the ranges, by bisection.
-/

set_option autoImplicit false

namespace Enclosure.Text

/-- Ranges of code points in ascending order, both ends included. -/
abbrev CodeRanges := Array (Nat × Nat)

namespace CodeRanges

/-- Read ranges: `low` is the lower end once a hyphen has been seen, `n` the number being read. -/
def readFrom (ranges : CodeRanges) (low : Option Nat) (n : Nat) (any : Bool) :
    List Char → CodeRanges
  | [] => close
  | c :: cs =>
    match hexValue? c with
    | some d => readFrom ranges low (16 * n + d) true cs
    | none =>
      if c == '-' then readFrom ranges (some n) 0 false cs
      else readFrom close none 0 false cs
where
  close : CodeRanges := if any then ranges.push (low.getD n, n) else ranges

/-- The ranges named by a text. -/
def ofText (text : String) : CodeRanges := readFrom #[] none 0 false text.toList

/-- Bisection between two positions of the table. -/
def search (ranges : CodeRanges) (x : Nat) : Nat → Nat → Nat → Bool
  | 0, _, _ => false
  | fuel + 1, lo, hi =>
    if hi ≤ lo then false
    else
      let mid := (lo + hi) / 2
      match ranges[mid]? with
      | none => false
      | some (a, b) =>
        if x < a then search ranges x fuel lo mid
        else if b < x then search ranges x fuel (mid + 1) hi
        else true

/-- Whether a code point lies in one of the ranges. -/
def contains (ranges : CodeRanges) (x : Nat) : Bool :=
  search ranges x (ranges.size + 1) 0 ranges.size

end CodeRanges
end Enclosure.Text
