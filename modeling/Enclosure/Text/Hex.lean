/-!
# Hexadecimal text

Numbers written in base sixteen, in both directions.

What is here:

* `Text.hexLower` and `Text.hexUpper`: the digits of a number, padded with zeros to a least width.
* `Text.hexValue?`: the value of one hexadecimal digit.
-/

set_option autoImplicit false

namespace Enclosure.Text

/-- The digits of `n` in base sixteen, most significant first, at least one of them. -/
def hexDigits (n : Nat) : List Nat :=
  if n < 16 then [n] else hexDigits (n / 16) ++ [n % 16]
termination_by n
decreasing_by omega

/-- The character of a digit below sixteen, with `a` for ten. -/
def digitChar (ten : Char) (d : Nat) : Char :=
  if d < 10 then Char.ofNat (48 + d) else Char.ofNat (ten.toNat + d - 10)

/-- Zeros in front up to a width. -/
def padLeft (width : Nat) (fill : Char) (cs : List Char) : List Char :=
  List.replicate (width - cs.length) fill ++ cs

/-- The number in lower-case digits, at least `width` of them. -/
def hexLower (width n : Nat) : String :=
  String.ofList (padLeft width '0' ((hexDigits n).map (digitChar 'a')))

/-- The number in upper-case digits, at least `width` of them. -/
def hexUpper (width n : Nat) : String :=
  String.ofList (padLeft width '0' ((hexDigits n).map (digitChar 'A')))

/-- The value of a hexadecimal digit of either case. -/
def hexValue? (c : Char) : Option Nat :=
  if '0' ≤ c && c ≤ '9' then some (c.toNat - 48)
  else if 'a' ≤ c && c ≤ 'f' then some (c.toNat - 87)
  else if 'A' ≤ c && c ≤ 'F' then some (c.toNat - 55)
  else none

end Enclosure.Text
