/-!
# Binary floating point

Numbers with a mantissa of 53 bits, kept as what they stand for: a mantissa times a power of two.
Rounding goes to the nearest number and, half way between two, to the one with the even mantissa.

What is here:

* `Binary64`: a number, an infinity, or no number.
* `Binary64.ofDecimal`: the number nearest to a decimal.
* `Binary64.isPositive`, `Binary64.toInt?`: questions that are answered exactly.
-/

set_option autoImplicit false

namespace Enclosure

/-- A floating point number; a finite one is `mantissa * 2 ^ exponent`, negated if asked for. -/
inductive Binary64 where
  | nan
  | infinite (negative : Bool)
  | finite (negative : Bool) (mantissa : Nat) (exponent : Int)
deriving Repr, DecidableEq, Inhabited

namespace Binary64

/-- The smallest exponent. -/
def minExponent : Int := -1074

/-- The largest exponent. -/
def maxExponent : Int := 971

/-- The smallest mantissa of 53 bits. -/
def leastMantissa : Nat := 0x10000000000000

/-- `num / den / 2 ^ e`, rounded down, and what is left with its denominator. -/
def scaled (num den : Nat) (e : Int) : Nat × Nat × Nat :=
  let n := num * Nat.pow 2 (-e).toNat
  let d := den * Nat.pow 2 e.toNat
  (n / d, n % d, d)

/-- The exponent that leaves a mantissa of at most 53 bits. -/
def fitted (num den : Nat) : Nat → Int → Int
  | 0, e => e
  | fuel + 1, e => if (scaled num den e).1 < 2 * leastMantissa then e else fitted num den fuel (e + 1)

/-- The number nearest to a positive fraction, with a sign. -/
def ofFraction (negative : Bool) (num den : Nat) : Binary64 :=
  if num = 0 || den = 0 then .finite negative 0 minExponent
  else
    let guess : Int := (num.log2 : Int) - (den.log2 : Int) - 53
    let e := fitted num den 4 (max minExponent guess)
    let (q, r, d) := scaled num den e
    let q := if d < 2 * r || (2 * r == d && q % 2 == 1) then q + 1 else q
    let (q, e) := if q = 2 * leastMantissa then (leastMantissa, e + 1) else (q, e)
    if maxExponent < e then .infinite negative else .finite negative q e

/-- How many decimal digits a number has. -/
def digitCount (n : Nat) : Nat := (Nat.toDigits 10 n).length

/-- The number nearest to `digits * 10 ^ exponent`, with a sign. -/
def ofDecimal (negative : Bool) (digits : Nat) (exponent : Int) : Binary64 :=
  if digits = 0 then .finite negative 0 minExponent
  else
    let size := exponent + digitCount digits
    if 310 < size then .infinite negative
    else if size < -330 then .finite negative 0 minExponent
    else if exponent < 0 then ofFraction negative digits (Nat.pow 10 (-exponent).toNat)
    else ofFraction negative (digits * Nat.pow 10 exponent.toNat) 1

/-- Whether a number is greater than zero. -/
def isPositive : Binary64 → Bool
  | nan => false
  | infinite negative => !negative
  | finite negative m _ => !negative && m != 0

/-- Whether a number is zero or less. -/
def isAtMostZero : Binary64 → Bool
  | nan => false
  | infinite negative => negative
  | finite negative m _ => negative || m == 0

/-- Whether a number is an infinity or no number at all. -/
def isFinite : Binary64 → Bool
  | finite _ _ _ => true
  | _ => false

/-- The integer that a number is equal to. -/
def toInt? : Binary64 → Option Int
  | finite negative m e =>
    let sign : Int := if negative then -1 else 1
    if 0 ≤ e then some (sign * (m * Nat.pow 2 e.toNat : Nat))
    else if m % Nat.pow 2 (-e).toNat = 0 then some (sign * (m / Nat.pow 2 (-e).toNat : Nat))
    else none
  | _ => none

end Binary64
end Enclosure
