import Enclosure.Number.Binary64

/-!
# The shortest decimal of a number

A floating point number is written with as few digits as read back as the same number; of several
decimals with that many digits the nearest is taken.

What is here:

* `Binary64.shortest`: the digits of a positive number and where its point stands.
* `Binary64.text`: a number in words a reader of numbers understands.
-/

set_option autoImplicit false

namespace Enclosure.Binary64

/-- The decimals that read back as one number: `value` is the number itself, `below` and `above` how
far they reach, all three in units of `1 / unit`. -/
structure Neighbourhood where
  value : Nat
  below : Nat
  above : Nat
  unit : Nat
  /-- Whether the ends belong to it. -/
  closed : Bool

/-- The neighbourhood of `mantissa * 2 ^ exponent`. -/
def neighbourhood (mantissa : Nat) (exponent : Int) : Neighbourhood :=
  let scale := Nat.pow 2 exponent.toNat
  let narrow := mantissa == leastMantissa && minExponent < exponent
  { value := 4 * mantissa * scale
    below := if narrow then scale else 2 * scale
    above := 2 * scale
    unit := 4 * Nat.pow 2 (-exponent).toNat
    closed := mantissa % 2 == 0 }

/-- `c * 10 ^ k` and a number of units, over one denominator. -/
def aligned (h : Neighbourhood) (c : Nat) (k : Int) (units : Nat) : Nat × Nat :=
  (c * Nat.pow 10 k.toNat * h.unit, units * Nat.pow 10 (-k).toNat)

/-- Whether `c * 10 ^ k` reads back. -/
def Neighbourhood.contains (h : Neighbourhood) (c : Nat) (k : Int) : Bool :=
  let (x, low) := aligned h c k (h.value - h.below)
  let (_, high) := aligned h c k (h.value + h.above)
  if h.closed then low ≤ x && x ≤ high else low < x && x < high

/-- How far `c * 10 ^ k` is from the number. -/
def Neighbourhood.distance (h : Neighbourhood) (c : Nat) (k : Int) : Nat :=
  let (x, v) := aligned h c k h.value
  if x ≤ v then v - x else x - v

/-- The power of ten that a number below one has to be multiplied by to reach one. -/
def leadingZeros (num den : Nat) : Nat → Nat
  | 0 => 0
  | fuel + 1 => if den ≤ num then 0 else leadingZeros (num * 10) den fuel + 1

/-- The smallest `p` with the number below `10 ^ p`. -/
def pointPlace (h : Neighbourhood) : Int :=
  if h.unit ≤ h.value then digitCount (h.value / h.unit)
  else 1 - (leadingZeros h.value h.unit 400 : Int)

/-- The fewest digits from `n` on, with the power of ten that goes with them. -/
def search (h : Neighbourhood) (place : Int) : Nat → Nat → Nat × Int
  | 0, n =>
    let k := place - n
    ((h.value * Nat.pow 10 (-k).toNat) / (h.unit * Nat.pow 10 k.toNat), k)
  | fuel + 1, n =>
    let k := place - n
    let c := (h.value * Nat.pow 10 (-k).toNat) / (h.unit * Nat.pow 10 k.toNat)
    match h.contains c k, h.contains (c + 1) k with
    | true, true =>
      let near := h.distance c k
      let far := h.distance (c + 1) k
      if near < far || (near == far && c % 2 == 0) then (c, k) else (c + 1, k)
    | true, false => (c, k)
    | false, true => (c + 1, k)
    | false, false => search h place fuel (n + 1)

/-- Leave out zeros at the end. -/
def withoutZeros (k : Int) : Nat → Nat → Nat × Int
  | 0, c => (c, k)
  | fuel + 1, c => if c != 0 && c % 10 == 0 then withoutZeros (k + 1) fuel (c / 10) else (c, k)

/-- The digits of a positive number, and the power of ten that goes with them. -/
def shortest (mantissa : Nat) (exponent : Int) : Nat × Int :=
  let h := neighbourhood mantissa exponent
  let (c, k) := search h (pointPlace h) 17 1
  withoutZeros k 20 c

/-- Digits with a point in them or, far from one, with a power of ten. -/
def layOut (digits : List Char) (place : Int) : List Char :=
  let n : Int := digits.length
  if -4 < place && place ≤ 16 then
    if place ≤ 0 then "0.".toList ++ List.replicate (-place).toNat '0' ++ digits
    else if place < n then digits.take place.toNat ++ '.' :: digits.drop place.toNat
    else digits ++ List.replicate (place - n).toNat '0' ++ ".0".toList
  else
    let fraction := match digits with
      | [] => []
      | [d] => [d]
      | d :: ds => d :: '.' :: ds
    let e := place - 1
    let size := Nat.toDigits 10 e.natAbs
    fraction ++ 'e' :: (if e < 0 then '-' else '+') ::
      (if size.length < 2 then '0' :: size else size)

/-- A number in words a reader of numbers understands. -/
def text : Binary64 → String
  | nan => "nan"
  | infinite negative => if negative then "-inf" else "inf"
  | finite negative m e =>
    let body :=
      if m == 0 then "0.0".toList
      else
        let (c, k) := shortest m e
        let digits := Nat.toDigits 10 c
        layOut digits (k + digits.length)
    String.ofList (if negative then '-' :: body else body)

end Enclosure.Binary64
