import Enclosure.Encoding.Fault

/-!
# UTF-16

Decoding of texts that may hold surrogates: two surrogates that make up a pair are one code point,
any other surrogate stands for itself.

What is here:

* `Utf16.decode`: the text of some bytes, in either byte order.
-/

set_option autoImplicit false

namespace Enclosure.Utf16

/-- The name of the encoding with a byte order. -/
def name (bigEndian : Bool) : String := if bigEndian then "utf-16-be" else "utf-16-le"

/-- The unit that two bytes make up. -/
def unit (bigEndian : Bool) (a b : UInt8) : CodePoint :=
  let high := if bigEndian then a else b
  let low := if bigEndian then b else a
  ⟨high.toNat * 256 + low.toNat, by
    have := high.toNat_lt
    have := low.toNat_lt
    omega⟩

/-- The units of some bytes; `place` is the offset of the first one. -/
def units (bigEndian : Bool) (place : Nat) : Bytes → Except DecodeFault Codes
  | [] => .ok []
  | [b] => .error ⟨name bigEndian, b, place, 1, "truncated data"⟩
  | a :: b :: bs =>
    match units bigEndian (place + 2) bs with
    | .ok us => .ok (unit bigEndian a b :: us)
    | .error f => .error f

/-- The code point of two surrogates that make up a pair. -/
def paired? (a b : CodePoint) : Option CodePoint :=
  if 0xd800 ≤ a.val ∧ a.val < 0xdc00 ∧ 0xdc00 ≤ b.val ∧ b.val < 0xe000 then
    Option.some (Fin.ofNat 0x110000 (0x10000 + (a.val - 0xd800) * 0x400 + (b.val - 0xdc00)))
  else none

/-- Put pairs of surrogates together. -/
def joinPairs : Codes → Codes
  | [] => []
  | a :: b :: us =>
    match paired? a b with
    | some x => x :: joinPairs us
    | none => a :: joinPairs (b :: us)
  | [a] => [a]

/-- The text of some bytes; `place` is the offset of the first one. -/
def decode (bigEndian : Bool) (place : Nat) (bs : Bytes) : Except DecodeFault Codes :=
  (units bigEndian place bs).map joinPairs

end Enclosure.Utf16
