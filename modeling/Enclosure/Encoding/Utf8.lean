import Enclosure.Encoding.Fault

/-!
# UTF-8

Encoding and decoding of texts that may hold surrogates.  A surrogate is written with three bytes,
as its place among the code points suggests; two surrogates that would make up a pair stay two.

What is here:

* `Utf8.encode`: the bytes of a text.
* `Utf8.decode`: the text of some bytes.  Surrogates are read where that is asked for.
* `Utf8.decodeReplacing`: the same, with a replacement character for what cannot be decoded.
-/

set_option autoImplicit false

namespace Enclosure.Utf8

/-- A byte after the first one of a code point. -/
def tail (n : Nat) : UInt8 := UInt8.ofNat (0x80 + n % 0x40)

/-- The bytes of one code point. -/
def encodeOne (x : CodePoint) : Bytes :=
  let n := x.val
  if n < 0x80 then [UInt8.ofNat n]
  else if n < 0x800 then [UInt8.ofNat (0xc0 + n / 0x40), tail n]
  else if n < 0x10000 then [UInt8.ofNat (0xe0 + n / 0x1000), tail (n / 0x40), tail n]
  else [UInt8.ofNat (0xf0 + n / 0x40000), tail (n / 0x1000), tail (n / 0x40), tail n]

/-- The bytes of a text. -/
def encode (xs : Codes) : Bytes := xs.flatMap encodeOne

/-- What the next bytes hold. -/
inductive Piece where
  | code (x : CodePoint) (size : Nat)
  | broken (size : Nat) (reason : String)

/-- Whether a byte may come after the first one of a code point. -/
def isTail (b : UInt8) : Bool := 0x80 ≤ b.toNat && b.toNat < 0xc0

/-- A code point if it is in range. -/
def made (n size : Nat) : Piece :=
  if h : n < 0x110000 then .code ⟨n, h⟩ size else .broken 1 "invalid start byte"

/-- The text ends inside a code point. -/
def cutOff (size : Nat) : Piece := .broken size "unexpected end of data"

/-- So many bytes cannot be continued like this. -/
def badTail (size : Nat) : Piece := .broken size "invalid continuation byte"

/-- Read one code point; `b` is the first byte and `bs` are those after it. -/
def piece (surrogates : Bool) (b : UInt8) (bs : Bytes) : Piece :=
  let n := b.toNat
  if n < 0x80 then made n 1
  else if n < 0xc2 then .broken 1 "invalid start byte"
  else if n < 0xe0 then
    match bs with
    | [] => cutOff 1
    | c :: _ => if isTail c then made ((n - 0xc0) * 0x40 + (c.toNat - 0x80)) 2 else badTail 1
  else if n < 0xf0 then
    match bs with
    | [] => cutOff 1
    | c :: cs =>
      let allowed := isTail c && !(n == 0xe0 && c.toNat < 0xa0) &&
        (surrogates || !(n == 0xed && 0xa0 ≤ c.toNat))
      match cs with
      | [] =>
        if isTail c && !(n == 0xe0 && c.toNat < 0xa0) && !(n == 0xed && 0xa0 ≤ c.toNat) then cutOff 2
        else badTail 1
      | d :: _ =>
        if !allowed then badTail 1
        else if !isTail d then badTail (if n == 0xed && 0xa0 ≤ c.toNat then 1 else 2)
        else made ((n - 0xe0) * 0x1000 + (c.toNat - 0x80) * 0x40 + (d.toNat - 0x80)) 3
  else if n < 0xf5 then
    match bs with
    | [] => cutOff 1
    | c :: cs =>
      if !isTail c || (n == 0xf0 && c.toNat < 0x90) || (n == 0xf4 && 0x90 ≤ c.toNat) then badTail 1
      else
        match cs with
        | [] => cutOff 2
        | d :: ds =>
          if !isTail d then badTail 2
          else
            match ds with
            | [] => cutOff 3
            | e :: _ =>
              if !isTail e then badTail 3
              else
                made ((n - 0xf0) * 0x40000 + (c.toNat - 0x80) * 0x1000 + (d.toNat - 0x80) * 0x40 +
                  (e.toNat - 0x80)) 4
  else .broken 1 "invalid start byte"

/-- Decode from a place on. -/
def decodeFrom (surrogates : Bool) (place : Nat) : Bytes → Except DecodeFault Codes
  | [] => .ok []
  | b :: bs =>
    match piece surrogates b bs with
    | .code x size =>
      match decodeFrom surrogates (place + size) (bs.drop (size - 1)) with
      | .ok xs => .ok (x :: xs)
      | .error f => .error f
    | .broken size reason => .error ⟨"utf-8", b, place, size, reason⟩
termination_by bs => bs.length
decreasing_by simp only [List.length_drop, List.length_cons]; omega

/-- The text of some bytes. -/
def decode (surrogates : Bool) (bs : Bytes) : Except DecodeFault Codes :=
  decodeFrom surrogates 0 bs

/-- The text of some bytes, with a replacement character for each run that cannot be decoded. -/
def decodeReplacing : Bytes → List Char
  | [] => []
  | b :: bs =>
    match piece false b bs with
    | .code x size => x.toChar?.getD '\ufffd' :: decodeReplacing (bs.drop (size - 1))
    | .broken size _ => '\ufffd' :: decodeReplacing (bs.drop (size - 1))
termination_by bs => bs.length
decreasing_by
  all_goals simp only [List.length_drop, List.length_cons]; omega

end Enclosure.Utf8
