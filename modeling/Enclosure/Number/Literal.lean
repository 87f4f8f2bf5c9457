import Enclosure.Number.Binary64
import Enclosure.Text.Blank

/-!
# Numbers in a text

Reading a floating point number.  Digits of any script count; an underscore may stand between two
digits; the words for infinity and for no number are understood in either case.

What is here:

* `digitValue?`: the value of a decimal digit of any script.
* `Binary64.ofText?`: the number that a text denotes.
-/

set_option autoImplicit false

namespace Enclosure

/-- The zeros of the scripts that have decimal digits; the other nine follow each of them. -/
def digitZeros : List Nat :=
  [0x30, 0x660, 0x6f0, 0x7c0, 0x966, 0x9e6, 0xa66, 0xae6, 0xb66, 0xbe6, 0xc66, 0xce6, 0xd66,
    0xde6, 0xe50, 0xed0, 0xf20, 0x1040, 0x1090, 0x17e0, 0x1810, 0x1946, 0x19d0, 0x1a80, 0x1a90,
    0x1b50, 0x1bb0, 0x1c40, 0x1c50, 0xa620, 0xa8d0, 0xa900, 0xa9d0, 0xa9f0, 0xaa50, 0xabf0,
    0xff10, 0x104a0, 0x10d30, 0x11066, 0x110f0, 0x11136, 0x111d0, 0x112f0, 0x11450, 0x114d0,
    0x11650, 0x116c0, 0x11730, 0x118e0, 0x11950, 0x11c50, 0x11d50, 0x11da0, 0x16a60, 0x16ac0,
    0x16b50, 0x1d7ce, 0x1d7d8, 0x1d7e2, 0x1d7ec, 0x1d7f6, 0x1e140, 0x1e2f0, 0x1e950, 0x1fbf0]

/-- The value of a decimal digit of any script. -/
def digitValue? (c : Char) : Option Nat :=
  (digitZeros.find? fun z => z ≤ c.toNat && c.toNat ≤ z + 9).map fun z => c.toNat - z

namespace Binary64

/-- Digits as ASCII digits and white space as blanks. -/
def inAscii (cs : List Char) : List Char :=
  cs.map fun c =>
    if c.toNat < 128 then c
    else if Text.isBlank c then ' '
    else match digitValue? c with
      | some d => Char.ofNat (48 + d)
      | none => '?'

/-- Whether a character is an ASCII digit. -/
def isDigit (c : Char) : Bool := '0' ≤ c && c ≤ '9'

/-- Leave out underscores, each of which has to stand between two digits. -/
def withoutUnderscores (before : Char) : List Char → Option (List Char)
  | [] => if before == '_' then none else some []
  | c :: cs =>
    if c == '_' then
      if isDigit before then withoutUnderscores c cs else none
    else if before == '_' && !isDigit c then none
    else (withoutUnderscores c cs).map (c :: ·)

/-- The number that digits denote, continuing another one. -/
def digitsValue (n : Nat) : List Char → Nat
  | [] => n
  | c :: cs => digitsValue (10 * n + (c.toNat - 48)) cs

/-- What follows the digits of a number: nothing, or an exponent. -/
def exponentOf : List Char → Option Int
  | [] => some 0
  | c :: cs =>
    if c == 'e' || c == 'E' then
      let (negative, ds) := match cs with
        | '-' :: ds => (true, ds)
        | '+' :: ds => (false, ds)
        | ds => (false, ds)
      if ds.isEmpty || !ds.all isDigit then none
      else
        let n : Int := digitsValue 0 ds
        some (if negative then -n else n)
    else none

/-- A number without its sign. -/
def unsigned (negative : Bool) (cs : List Char) : Option Binary64 :=
  let word := String.ofList (cs.map Char.toLower)
  if word == "inf" || word == "infinity" then some (.infinite negative)
  else if word == "nan" then some .nan
  else
    let whole := cs.takeWhile isDigit
    let rest := cs.dropWhile isDigit
    let (fraction, rest) := match rest with
      | '.' :: ds => (ds.takeWhile isDigit, ds.dropWhile isDigit)
      | ds => ([], ds)
    if whole.isEmpty && fraction.isEmpty then none
    else
      (exponentOf rest).map fun e =>
        ofDecimal negative (digitsValue 0 (whole ++ fraction)) (e - fraction.length)

/-- The number that characters denote. -/
def ofChars? (cs : List Char) : Option Binary64 :=
  match withoutUnderscores ' ' (Text.trimChars (inAscii cs)) with
  | some ('-' :: ds) => unsigned true ds
  | some ('+' :: ds) => unsigned false ds
  | some ds => unsigned false ds
  | none => none

/-- The number that a text denotes. -/
def ofText? (s : String) : Option Binary64 := ofChars? s.toList

end Binary64
end Enclosure
