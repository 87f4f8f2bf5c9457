import Enclosure.Encoding.Fault

/-!
# UTF-32

Decoding of texts that may hold surrogates.

What is here:

* `Utf32.decode`: the text of some bytes, in either byte order.
-/

set_option autoImplicit false

namespace Enclosure.Utf32

/-- The name of the encoding with a byte order. -/
def name (bigEndian : Bool) : String := if bigEndian then "utf-32-be" else "utf-32-le"

/-- The number that four bytes make up. -/
def number (bigEndian : Bool) (a b c d : UInt8) : Nat :=
  if bigEndian then ((a.toNat * 256 + b.toNat) * 256 + c.toNat) * 256 + d.toNat
  else ((d.toNat * 256 + c.toNat) * 256 + b.toNat) * 256 + a.toNat

/-- The text of some bytes; `place` is the offset of the first one. -/
def decode (bigEndian : Bool) (place : Nat) : Bytes → Except DecodeFault Codes
  | [] => .ok []
  | a :: b :: c :: d :: bs =>
    let n := number bigEndian a b c d
    if h : n < 0x110000 then
      match decode bigEndian (place + 4) bs with
      | .ok xs => .ok (⟨n, h⟩ :: xs)
      | .error f => .error f
    else .error ⟨name bigEndian, a, place, 4, "code point not in range(0x110000)"⟩
  | a :: bs => .error ⟨name bigEndian, a, place, bs.length + 1, "truncated data"⟩

end Enclosure.Utf32
