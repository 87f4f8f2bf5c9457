/-!
# Blanks

The characters that count as white space at the ends of a text, and cutting them off.

What is here:

* `isBlank`: whether a character counts as white space.
* `trim`: a text without the white space at its ends.
-/

set_option autoImplicit false

namespace Enclosure.Text

/-- Whether a code point counts as white space. -/
def isBlankCode (n : Nat) : Bool :=
  (9 ≤ n && n ≤ 13) || (28 ≤ n && n ≤ 32) || n == 0x85 || n == 0xa0 || n == 0x1680 ||
    (0x2000 ≤ n && n ≤ 0x200a) || n == 0x2028 || n == 0x2029 || n == 0x202f || n == 0x205f ||
    n == 0x3000

/-- Whether a character counts as white space. -/
def isBlank (c : Char) : Bool := isBlankCode c.toNat

/-- Characters without the white space at the end. -/
def trimEnd (cs : List Char) : List Char := (cs.reverse.dropWhile isBlank).reverse

/-- Characters without the white space at both ends. -/
def trimChars (cs : List Char) : List Char := trimEnd (cs.dropWhile isBlank)

/-- A text without the white space at its ends. -/
def trim (s : String) : String := String.ofList (trimChars s.toList)

end Enclosure.Text
