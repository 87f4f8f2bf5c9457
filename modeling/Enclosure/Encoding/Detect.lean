import Enclosure.Encoding.Utf8
import Enclosure.Encoding.Utf16
import Enclosure.Encoding.Utf32

/-!
# Telling encodings apart

A document in a format that starts with an ASCII character shows its encoding by a byte order mark
or by where its first zero bytes stand.

What is here:

* `decodeAny`: the text of a document in UTF-8, UTF-16 or UTF-32.
-/

set_option autoImplicit false

namespace Enclosure

/-- How a document is encoded; a byte order mark that is not part of the text may come first. -/
inductive Encoding where
  | utf8 (marked : Bool)
  | utf16 (bigEndian marked : Bool)
  | utf32 (bigEndian marked : Bool)
deriving Repr, DecidableEq

/-- The encoding of a document without a mark: its first character is an ASCII character, so zero
bytes among the first ones show how wide a unit is and in which order its bytes come. -/
def Encoding.ofZeros : Bytes → Encoding
  | a :: b :: c :: d :: _ =>
    if a = 0 then (if b = 0 then .utf32 true false else .utf16 true false)
    else if b = 0 then (if c = 0 ∧ d = 0 then .utf32 false false else .utf16 false false)
    else .utf8 false
  | [a, b] => if a = 0 then .utf16 true false else if b = 0 then .utf16 false false else .utf8 false
  | _ => .utf8 false

/-- The encoding of a document. -/
def Encoding.detect (bs : Bytes) : Encoding :=
  if [0, 0, 0xfe, 0xff].isPrefixOf bs then .utf32 true true
  else if [0xff, 0xfe, 0, 0].isPrefixOf bs then .utf32 false true
  else if [0xfe, 0xff].isPrefixOf bs then .utf16 true true
  else if [0xff, 0xfe].isPrefixOf bs then .utf16 false true
  else if [0xef, 0xbb, 0xbf].isPrefixOf bs then .utf8 true
  else Encoding.ofZeros bs

/-- The text of a document. -/
def decodeAny (bs : Bytes) : Except DecodeFault Codes :=
  match Encoding.detect bs with
  | .utf8 marked => Utf8.decode true (if marked then bs.drop 3 else bs)
  | .utf16 big marked => if marked then Utf16.decode big 2 (bs.drop 2) else Utf16.decode big 0 bs
  | .utf32 big marked => if marked then Utf32.decode big 4 (bs.drop 4) else Utf32.decode big 0 bs

end Enclosure
