import Enclosure.Text.CodePoint
import Enclosure.Text.Hex

/-!
# Why bytes are no text

What is here:

* `DecodeFault`: the bytes that cannot be decoded, with the reason.
* `DecodeFault.message`: the fault in words.
-/

set_option autoImplicit false

namespace Enclosure

/-- Bytes in a row. -/
abbrev Bytes := List UInt8

/-- Why bytes are no text in an encoding. -/
structure DecodeFault where
  encoding : String
  /-- The first byte that cannot be decoded. -/
  first : UInt8
  /-- Where it stands. -/
  place : Nat
  /-- How many bytes cannot be decoded. -/
  count : Nat
  reason : String
deriving Repr, DecidableEq

/-- The fault in words. -/
def DecodeFault.message (f : DecodeFault) : String :=
  let bytes :=
    if f.count = 1 then s!"byte 0x{Text.hexLower 2 f.first.toNat} in position {f.place}"
    else s!"bytes in position {f.place}-{f.place + f.count - 1}"
  s!"'{f.encoding}' codec can't decode {bytes}: {f.reason}"

end Enclosure
