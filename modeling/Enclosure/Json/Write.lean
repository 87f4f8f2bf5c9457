import Enclosure.Json.Value

/-!
# Writing JSON

Documents in two forms.  The short one has no white space that is not part of a text, and escapes
only quotes, backslashes and control characters.  The one for other programs consists of ASCII
characters.

What is here:

* `Json.write`: the document of a value.
* `Json.writeAscii`: a document in ASCII, with a blank after each comma and each colon.
-/

set_option autoImplicit false

namespace Enclosure.Json

/-- How one code point is written inside quotes. -/
def writeCode (x : CodePoint) : String :=
  let n := x.val
  if n == 0x22 then "\\\""
  else if n == 0x5c then "\\\\"
  else if n == 8 then "\\b"
  else if n == 12 then "\\f"
  else if n == 10 then "\\n"
  else if n == 13 then "\\r"
  else if n == 9 then "\\t"
  else if n < 32 || x.isSurrogate then "\\u" ++ Text.hexLower 4 n
  else String.singleton (Char.ofNat n)

/-- A text in quotes. -/
def writeText (s : Codes) : String := "\"" ++ String.join (s.map writeCode) ++ "\""

/-- A number with a fraction. -/
def writeFloat : Binary64 → String
  | .nan => "NaN"
  | .infinite negative => if negative then "-Infinity" else "Infinity"
  | x => x.text

mutual

/-- The document of a value. -/
def write : Json → String
  | null => "null"
  | bool b => if b then "true" else "false"
  | int n => intText n
  | float x => writeFloat x
  | text s => writeText s
  | array items => "[" ++ ",".intercalate (writeItems items) ++ "]"
  | object members => "\x7b" ++ ",".intercalate (writeMembers members) ++ "\x7d"

/-- The documents of items. -/
def writeItems : List Json → List String
  | [] => []
  | v :: vs => v.write :: writeItems vs

/-- The documents of members, each after its key. -/
def writeMembers : List (Codes × Json) → List String
  | [] => []
  | (k, v) :: ms => (writeText k ++ ":" ++ v.write) :: writeMembers ms

end

/-- How a code point is written in ASCII; one beyond 16 bits becomes two surrogates. -/
def writeAsciiCode (x : CodePoint) : String :=
  let n := x.val
  if n < 127 then writeCode x
  else if n < 0x10000 then "\\u" ++ Text.hexLower 4 n
  else
    let m := n - 0x10000
    "\\u" ++ Text.hexLower 4 (0xd800 + m / 0x400) ++ "\\u" ++ Text.hexLower 4 (0xdc00 + m % 0x400)

/-- A text in quotes, in ASCII. -/
def writeAsciiText (s : Codes) : String := "\"" ++ String.join (s.map writeAsciiCode) ++ "\""

mutual

/-- The document of a value in ASCII. -/
def writeAscii : Json → String
  | text s => writeAsciiText s
  | array items => "[" ++ ", ".intercalate (writeAsciiItems items) ++ "]"
  | object members => "\x7b" ++ ", ".intercalate (writeAsciiMembers members) ++ "\x7d"
  | v => v.write

/-- The documents of items, in ASCII. -/
def writeAsciiItems : List Json → List String
  | [] => []
  | v :: vs => v.writeAscii :: writeAsciiItems vs

/-- The documents of members in ASCII, each after its key. -/
def writeAsciiMembers : List (Codes × Json) → List String
  | [] => []
  | (k, v) :: ms => (writeAsciiText k ++ ": " ++ v.writeAscii) :: writeAsciiMembers ms

end

end Enclosure.Json
