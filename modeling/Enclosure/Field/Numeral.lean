import Enclosure.Json.Read

/-!
# Integers as texts

A field for an integer takes a text as well.  The text is cleaned first: the white space around it
goes, then the zeros in front, then a fraction of zeros, then underscores between digits.  What is
left has to be an integer as a document writes it, and must not be too long.

What is here:

* `Field.withoutMargin`: a text without the white space around it.
* `Field.cleaned?`: the digits that are left of a text, after a minus sign if there is one.
* `Field.integerOfCodes?`: the integer that a text stands for.
* `Field.plainStart`: how much of a text is a number before anything is cleaned.
-/

set_option autoImplicit false

namespace Enclosure.Field

/-- White space around a number. -/
def isMargin (x : CodePoint) : Bool :=
  let n := x.val
  (9 ≤ n && n ≤ 13) || n == 32 || n == 0x85 || n == 0xa0 || n == 0x1680 ||
    (0x2000 ≤ n && n ≤ 0x200a) || n == 0x2028 || n == 0x2029 || n == 0x202f || n == 0x205f ||
    n == 0x3000

/-- A text without the white space around it. -/
def withoutMargin (xs : Codes) : Codes :=
  (((xs.dropWhile isMargin).reverse).dropWhile isMargin).reverse

/-- A minus sign. -/
def isMinus (x : CodePoint) : Bool := x.val == 0x2d

/-- A plus sign. -/
def isPlus (x : CodePoint) : Bool := x.val == 0x2b

/-- The point before a fraction. -/
def isPoint (x : CodePoint) : Bool := x.val == 0x2e

/-- The digit that counts for nothing in front of others. -/
def isZero (x : CodePoint) : Bool := x.val == 0x30

/-- An underscore. -/
def isGap (x : CodePoint) : Bool := x.val == 0x5f

/-- What a number starts with once the zeros in front are gone: another digit, or a minus sign. -/
def isLead (x : CodePoint) : Bool := (Json.isDigit x && !isZero x) || isMinus x

/-- What is left behind a zero in front.  Underscores go along with zeros here, wherever they stand.
The one that was `last` stays if there is nothing else before a point or the end. -/
def pastZeros (last : CodePoint) : Codes → Option Codes
  | [] => some [last]
  | x :: xs =>
    if isZero x || isGap x then pastZeros x xs
    else if isLead x then some (x :: xs)
    else if isPoint x then some (last :: x :: xs)
    else none

/-- A number without the zeros in front. -/
def withoutZeros? : Codes → Option Codes
  | [] => none
  | x :: xs => if isZero x then pastZeros x xs else if isLead x then some (x :: xs) else none

/-- A number without a fraction, which has to consist of zeros. -/
def withoutFraction? (xs : Codes) : Option Codes :=
  match xs.dropWhile fun x => !isPoint x with
  | [] => some xs
  | _ :: zeros =>
    if zeros.isEmpty || !zeros.all isZero then none else some (xs.takeWhile fun x => !isPoint x)

/-- A number without underscores, each of which has to stand between two other characters. -/
def withoutGaps? (afterOther : Bool) : Codes → Option Codes
  | [] => if afterOther then some [] else none
  | x :: xs =>
    if isGap x then if afterOther then withoutGaps? false xs else none
    else (withoutGaps? true xs).map (x :: ·)

/-- What is left of a number without its sign. -/
def bare? (xs : Codes) : Option Codes :=
  ((withoutZeros? xs).bind withoutFraction?).bind (withoutGaps? false)

/-- What is left of a number.  A plus sign goes, and must not stand before a minus sign. -/
def cleaned? : Codes → Option Codes
  | [] => none
  | x :: xs =>
    if isPlus x then if xs.head?.any isMinus then none else bare? xs
    else if isMinus x then (bare? xs).map (x :: ·)
    else bare? (x :: xs)

/-- The number of some digits, of which the first one is no zero unless it is alone. -/
def naturalOfDigits? (ds : Codes) : Option Nat :=
  if !ds.isEmpty && ds.all Json.isDigit && (ds.length == 1 || !ds.head?.any isZero) then
    some (Json.digitsValue 0 ds)
  else none

/-- The integer of some digits, perhaps after a minus sign. -/
def integerOfDigits? : Codes → Option Int
  | [] => none
  | x :: xs =>
    if isMinus x then (naturalOfDigits? xs).map fun n : Nat => -(n : Int)
    else (naturalOfDigits? (x :: xs)).map fun n : Nat => (n : Int)

/-- How long an integer may be, with its sign. -/
def maxIntegerText : Nat := 4300

/-- The integer that a text stands for. -/
def integerOfCodes? (xs : Codes) : Option Int :=
  (cleaned? xs).bind fun ds => if ds.length ≤ maxIntegerText then integerOfDigits? ds else none

/-- How many digits a text starts with, if the first one is no zero. -/
def digitsAtStart (xs : Codes) : Nat :=
  if xs.head?.any isZero then 0 else (xs.takeWhile Json.isDigit).length

/-- How much of a text is a number as it stands: digits, and a minus sign before them. -/
def plainStart : Codes → Nat
  | [] => 0
  | x :: xs => if isMinus x then digitsAtStart xs + 1 else digitsAtStart (x :: xs)

end Enclosure.Field
