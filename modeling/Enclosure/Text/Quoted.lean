import Enclosure.Text.CodePoint
import Enclosure.Text.Hex
import Enclosure.Text.Printable

/-!
# Quoted text

A text in quotes, on one line and without anything that cannot be seen.  Single quotes are used
unless the text holds a single quote and no double one.

What is here:

* `Codes.quoted`: a text that may hold surrogates, in quotes.
* `Text.quoted`: a text in quotes.
-/

set_option autoImplicit false

namespace Enclosure

/-- How one code point is written inside quotes. -/
def CodePoint.escaped (quote : Nat) (x : CodePoint) : String :=
  let n := x.val
  if n == 0x5c then "\\\\"
  else if n == quote then "\\" ++ String.singleton (Char.ofNat n)
  else if n == 10 then "\\n"
  else if n == 13 then "\\r"
  else if n == 9 then "\\t"
  else if Text.isPrintableCode n then String.singleton (Char.ofNat n)
  else if n < 0x100 then "\\x" ++ Text.hexLower 2 n
  else if n < 0x10000 then "\\u" ++ Text.hexLower 4 n
  else "\\U" ++ Text.hexLower 8 n

/-- A text in quotes. -/
def Codes.quoted (xs : Codes) : String :=
  let has (n : Nat) : Bool := xs.any (·.val == n)
  let quote : Nat := if has 0x27 && !has 0x22 then 0x22 else 0x27
  let mark := String.singleton (Char.ofNat quote)
  mark ++ String.join (xs.map (·.escaped quote)) ++ mark

/-- A text in quotes. -/
def Text.quoted (s : String) : String := (Codes.ofString s).quoted

end Enclosure
