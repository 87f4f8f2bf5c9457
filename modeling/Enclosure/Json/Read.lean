import Enclosure.Json.Value

/-!
# Reading JSON

A reader for documents, with the places where a document is not well formed.  Beyond the standard
it understands `NaN`, `Infinity` and `-Infinity`; of members with the same key the last one counts.

What is here:

* `JsonFault`: why a text is no document.
* `Json.read`: the value of a document.
-/

set_option autoImplicit false

namespace Enclosure

/-- Why a text is no document. -/
inductive JsonFault where
  /-- It is not well formed, for a reason, at a place counted in characters. -/
  | malformed (reason : String) (place : Nat)
  /-- Its lists or objects nest too deep. -/
  | tooDeep (what : String)
  /-- A whole number has too many digits. -/
  | tooLong (digits : Nat)
deriving Repr, DecidableEq

/-- The line and the column of a place, both counted from one. -/
def lineAndColumn (text : Codes) (place : Nat) : Nat × Nat :=
  let before := text.take place
  let lines := before.countP (·.val == 10)
  let column := (before.reverse.takeWhile (·.val != 10)).length
  (lines + 1, column + 1)

/-- A fault in words. -/
def JsonFault.message (text : Codes) : JsonFault → String
  | malformed reason place =>
    let (line, column) := lineAndColumn text place
    s!"{reason}: line {line} column {column} (char {place})"
  | tooDeep what => s!"maximum recursion depth exceeded while decoding a JSON {what} from a unicode string"
  | tooLong digits =>
    s!"Exceeds the limit (4300 digits) for integer string conversion: value has {digits} digits; " ++
      "use sys.set_int_max_str_digits() to increase the limit"

namespace Json

/-- How deep lists and objects may nest for a reader that nothing is said about.  How many levels are
left for a document depends on how deep the calls around its reader nest. -/
def maxNesting : Nat := 960

/-- How many digits a whole number may have. -/
def maxDigits : Nat := 4300

/-- A place in a document: what is left, and how much has been passed. -/
structure Cursor where
  rest : Codes
  place : Nat

/-- One character further on. -/
def Cursor.next (c : Cursor) : Cursor := ⟨c.rest.drop 1, c.place + 1⟩

/-- Some characters further on. -/
def Cursor.skip (n : Nat) (c : Cursor) : Cursor := ⟨c.rest.drop n, c.place + n⟩

/-- Whether a character comes next. -/
def Cursor.at? (c : Cursor) (x : Char) : Bool :=
  match c.rest with
  | y :: _ => y.val == x.toNat
  | [] => false

/-- Whether certain characters come next. -/
def Cursor.startsWith (c : Cursor) (s : String) : Bool :=
  c.rest.take s.length == Codes.ofString s

/-- White space between the parts of a document. -/
def isSpace (x : CodePoint) : Bool := x.val == 32 || x.val == 9 || x.val == 10 || x.val == 13

/-- Pass over white space. -/
def Cursor.pastSpace (c : Cursor) : Cursor := c.skip (c.rest.takeWhile isSpace).length

/-- The result of a step of reading. -/
abbrev Reading (α : Type) := Except JsonFault (α × Cursor)

/-- A document is not well formed. -/
def fail {α : Type} (reason : String) (place : Nat) : Reading α := .error (.malformed reason place)

/-- ASCII digits. -/
def isDigit (x : CodePoint) : Bool := 48 ≤ x.val && x.val ≤ 57

/-- The value of a hexadecimal digit. -/
def hexDigit? (x : CodePoint) : Option Nat :=
  if x.val < 128 then Text.hexValue? (Char.ofNat x.val) else none

/-- The number that hexadecimal digits denote. -/
def hexNumber? (n : Nat) : Codes → Option Nat
  | [] => some n
  | x :: xs =>
    match hexDigit? x with
    | some d => hexNumber? (16 * n + d) xs
    | none => none

/-- A code point by its number. -/
def codePoint (n : Nat) : CodePoint := ⟨n % 0x110000, Nat.mod_lt n (by decide)⟩

/-- The character that a letter after a backslash stands for. -/
def escapeOf (x : CodePoint) : Option Nat :=
  if x.val == 0x22 || x.val == 0x5c || x.val == 0x2f then some x.val
  else if x.val == 98 then some 8
  else if x.val == 102 then some 12
  else if x.val == 110 then some 10
  else if x.val == 114 then some 13
  else if x.val == 116 then some 9
  else none

/-- Four hexadecimal digits at a cursor that has the text of the document left behind them; at least
one character has to follow. -/
def unicodeEscape (c : Cursor) : Except JsonFault Nat :=
  if (c.rest.drop 4).isEmpty then .error (.malformed "Invalid \\uXXXX escape" (c.place - 1))
  else
    match hexNumber? 0 (c.rest.take 4) with
    | some n => .ok n
    | none => .error (.malformed "Invalid \\uXXXX escape" (c.place - 1))

/-- The rest of a text in quotes that starts at `start`; what has been read is given last one
first. -/
def stringFrom (start : Nat) : Nat → Codes → Cursor → Reading Codes
  | 0, _, c => fail "Unterminated string starting at" (min start c.place)
  | fuel + 1, taken, c =>
    match c.rest with
    | [] => fail "Unterminated string starting at" start
    | x :: _ =>
      if x.val == 0x22 then .ok (taken.reverse, c.next)
      else if x.val == 0x5c then
        match c.next.rest with
        | [] => fail "Unterminated string starting at" start
        | y :: _ =>
          if y.val == 117 then
            match unicodeEscape (c.skip 2) with
            | .error e => .error e
            | .ok n =>
              let after := c.skip 6
              if 0xd800 ≤ n && n < 0xdc00 && !(after.rest.drop 6).isEmpty && after.startsWith "\\u" then
                match unicodeEscape (after.skip 2) with
                | .error e => .error e
                | .ok m =>
                  if 0xdc00 ≤ m && m < 0xe000 then
                    stringFrom start fuel
                      (codePoint (0x10000 + (n - 0xd800) * 0x400 + (m - 0xdc00)) :: taken)
                      (after.skip 6)
                  else stringFrom start fuel (codePoint n :: taken) after
              else stringFrom start fuel (codePoint n :: taken) after
          else
            match escapeOf y with
            | some n => stringFrom start fuel (codePoint n :: taken) (c.skip 2)
            | none => fail "Invalid \\escape" c.place
      else if x.val < 32 then fail "Invalid control character at" c.place
      else stringFrom start fuel (x :: taken) c.next

/-- The number that digits denote, continuing another one. -/
def digitsValue (n : Nat) : Codes → Nat
  | [] => n
  | x :: xs => digitsValue (10 * n + (x.val - 48)) xs

/-- The digits that come next. -/
def Cursor.digits (c : Cursor) : Codes := c.rest.takeWhile isDigit

/-- A number. -/
def number (c : Cursor) : Reading Json :=
  let negative := c.at? '-'
  let whole := if negative then c.next else c
  let digits := if whole.at? '0' then whole.rest.take 1 else whole.digits
  if digits.isEmpty then fail "Expecting value" c.place
  else
    let after := whole.skip digits.length
    let fraction := if after.at? '.' then after.next.digits else []
    let after := if fraction.isEmpty then after else after.skip (fraction.length + 1)
    let (exponent, after') : Option Int × Cursor :=
      if after.at? 'e' || after.at? 'E' then
        let minus := after.next.at? '-'
        let signed := minus || after.next.at? '+'
        let c := if signed then after.skip 2 else after.next
        if c.digits.isEmpty then (none, after)
        else
          let n : Int := digitsValue 0 c.digits
          (some (if minus then -n else n), c.skip c.digits.length)
      else (none, after)
    if fraction.isEmpty && exponent.isNone then
      if maxDigits < digits.length then .error (.tooLong digits.length)
      else
        let n : Int := digitsValue 0 digits
        .ok (.int (if negative then -n else n), after')
    else
      .ok (.float (Binary64.ofDecimal negative (digitsValue 0 (digits ++ fraction))
        (exponent.getD 0 - fraction.length)), after')

/-- A value that is written as a word, or a number. -/
def wordOrNumber (c : Cursor) : Reading Json :=
  if c.startsWith "null" then .ok (.null, c.skip 4)
  else if c.startsWith "true" then .ok (.bool true, c.skip 4)
  else if c.startsWith "false" then .ok (.bool false, c.skip 5)
  else if c.startsWith "NaN" then .ok (.float .nan, c.skip 3)
  else if c.startsWith "Infinity" then .ok (.float (.infinite false), c.skip 8)
  else if c.startsWith "-Infinity" then .ok (.float (.infinite true), c.skip 9)
  else number c

mutual

/-- A value with at most so many lists or objects inside each other. -/
def value : Nat → Nat → Cursor → Reading Json
  | 0, _, c => fail "Expecting value" c.place
  | fuel + 1, levels, c =>
    if c.at? '"' then
      match stringFrom c.place (fuel + 1) [] c.next with
      | .ok (s, c) => .ok (.text s, c)
      | .error e => .error e
    else if c.at? '\x7b' then
      match levels with
      | 0 => .error (.tooDeep "object")
      | levels + 1 =>
        let c := c.next.pastSpace
        if c.at? '\x7d' then .ok (.object [], c.next) else members fuel levels [] c
    else if c.at? '[' then
      match levels with
      | 0 => .error (.tooDeep "array")
      | levels + 1 =>
        let c := c.next.pastSpace
        if c.at? ']' then .ok (.array [], c.next) else items fuel levels [] c
    else wordOrNumber c

/-- The items of a list; those already read are given last one first. -/
def items : Nat → Nat → List Json → Cursor → Reading Json
  | 0, _, _, c => fail "Expecting value" c.place
  | fuel + 1, levels, taken, c =>
    match value fuel levels c with
    | .error e => .error e
    | .ok (v, c) =>
      let c := c.pastSpace
      if c.at? ']' then .ok (.array (v :: taken).reverse, c.next)
      else if c.at? ',' then items fuel levels (v :: taken) c.next.pastSpace
      else fail "Expecting ',' delimiter" c.place

/-- The members of an object. -/
def members : Nat → Nat → List (Codes × Json) → Cursor → Reading Json
  | 0, _, _, c => fail "Expecting value" c.place
  | fuel + 1, levels, taken, c =>
    if c.at? '"' then
      match stringFrom c.place (fuel + 1) [] c.next with
      | .error e => .error e
      | .ok (key, c) =>
        let c := c.pastSpace
        if c.at? ':' then
          match value fuel levels c.next.pastSpace with
          | .error e => .error e
          | .ok (v, c) =>
            let c := c.pastSpace
            let taken := set key v taken
            if c.at? '\x7d' then .ok (.object taken, c.next)
            else if c.at? ',' then members fuel levels taken c.next.pastSpace
            else fail "Expecting ',' delimiter" c.place
        else fail "Expecting ':' delimiter" c.place
    else fail "Expecting property name enclosed in double quotes" c.place

end

/-- The value of a document with at most so many lists or objects inside each other. -/
def readWithin (levels : Nat) (text : Codes) : Except JsonFault Json :=
  let start : Cursor := (⟨text, 0⟩ : Cursor).pastSpace
  match value (2 * text.length + 2) levels start with
  | .error e => .error e
  | .ok (v, c) =>
    let c := c.pastSpace
    if c.rest.isEmpty then .ok v else .error (.malformed "Extra data" c.place)

/-- The value of a document. -/
def read (text : Codes) : Except JsonFault Json := readWithin maxNesting text

end Json
end Enclosure
