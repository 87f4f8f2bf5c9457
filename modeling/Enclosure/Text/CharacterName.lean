import Enclosure.Text.Hex
import Enclosure.Text.NameTable

/-!
# Names that a character has

Most characters have a name of their own, which may be written in either case.  Hangul syllables are
named after their letters, and ideographs after their numbers; these names are written in capitals.

What is here:

* `isOwnName`: whether a character has a name of its own.
* `isSyllableName`, `isIdeographName`: whether a name is made up for a character.
* `isCharacterName`: whether a character has a name.
-/

set_option autoImplicit false

namespace Enclosure.Text

/-! ## Names in the table -/

/-- The words of a line of the table, given those of the line before. -/
def lineWords (before : List String) (line : String) : List String :=
  match line.toList with
  | [] => []
  | c :: cs => before.take ((hexValue? c).getD 0) ++ (String.ofList cs).splitOn " "

/-- Whether a name stands in some lines of the table. -/
def standsIn (words before : List String) : List String → Bool
  | [] => false
  | line :: lines =>
    let here := lineWords before line
    here == words || standsIn words here lines

/-- Whether a character has a name of its own. -/
def isOwnName (name : List Char) : Bool :=
  let upper := name.map Char.toUpper
  match upper with
  | [] => false
  | c :: _ =>
    standsIn ((String.ofList upper).splitOn " ") [] ((nameLines c).splitOn "\n")

/-! ## Names that are made up -/

/-- What letters at the start of a Hangul syllable are called. -/
def syllableStarts : List String :=
  ["G", "GG", "N", "D", "DD", "R", "M", "B", "BB", "S", "SS", "", "J", "JJ", "C", "K", "T", "P",
    "H"]

/-- What letters in the middle of a Hangul syllable are called. -/
def syllableMiddles : List String :=
  ["A", "AE", "YA", "YAE", "EO", "E", "YEO", "YE", "O", "WA", "WAE", "OE", "YO", "U", "WEO", "WE",
    "WI", "YU", "EU", "YI", "I"]

/-- What letters at the end of a Hangul syllable are called. -/
def syllableEnds : List String :=
  ["", "G", "GG", "GS", "N", "NJ", "NH", "D", "L", "LG", "LM", "LB", "LS", "LT", "LP", "LH", "M",
    "B", "BS", "S", "SS", "NG", "J", "C", "K", "T", "P", "H"]

/-- What follows some characters. -/
def after? (front cs : List Char) : Option (List Char) :=
  if front.isPrefixOf cs then some (cs.drop front.length) else none

/-- Whether a name is that of a Hangul syllable. -/
def isSyllableName (name : List Char) : Bool :=
  match after? "HANGUL SYLLABLE ".toList name with
  | none => false
  | some rest =>
    syllableStarts.any fun a =>
      match after? a.toList rest with
      | none => false
      | some rest =>
        syllableMiddles.any fun b =>
          match after? b.toList rest with
          | none => false
          | some rest => syllableEnds.any fun c => c.toList == rest

/-- The code points of unified ideographs, as ranges. -/
def ideographRanges : List (Nat × Nat) :=
  [(0x3400, 0x4dbf), (0x4e00, 0x9fff), (0x20000, 0x2a6df), (0x2a700, 0x2b738),
    (0x2b740, 0x2b81d), (0x2b820, 0x2cea1), (0x2ceb0, 0x2ebe0), (0x30000, 0x3134a)]

/-- The number that capital hexadecimal digits denote. -/
def capitalHex? (n : Nat) : List Char → Option Nat
  | [] => some n
  | c :: cs =>
    if 'a' ≤ c && c ≤ 'f' then none
    else
      match hexValue? c with
      | some d => capitalHex? (16 * n + d) cs
      | none => none

/-- Whether a name is that of a unified ideograph: its number has four or five digits. -/
def isIdeographName (name : List Char) : Bool :=
  match after? "CJK UNIFIED IDEOGRAPH-".toList name with
  | none => false
  | some digits =>
    (digits.length == 4 || digits.length == 5) &&
      match capitalHex? 0 digits with
      | some n => ideographRanges.any fun r => r.1 ≤ n && n ≤ r.2
      | none => false

/-- Ideographs that are named after their numbers but stand in no common list: what their names start
with, and their code points. -/
def numberedFamilies : List (String × List (Nat × Nat)) :=
  [("CJK COMPATIBILITY IDEOGRAPH-", [(0xf900, 0xfa6d), (0xfa70, 0xfad9), (0x2f800, 0x2fa1d)]),
    ("KHITAN SMALL SCRIPT CHARACTER-", [(0x18b00, 0x18cd5)]),
    ("NUSHU CHARACTER-", [(0x1b170, 0x1b2fb)])]

/-- Whether a name is that of a character of a family named after numbers, in either case. -/
def isNumberedName (name : List Char) : Bool :=
  let upper := name.map Char.toUpper
  numberedFamilies.any fun (front, ranges) =>
    match after? front.toList upper with
    | none => false
    | some digits =>
      digits.head? != some '0' &&
        match capitalHex? 0 digits with
        | some n => ranges.any fun r => r.1 ≤ n && n ≤ r.2
        | none => false

/-- Whether a character has a name. -/
def isCharacterName (name : String) : Bool :=
  let cs := name.toList
  isSyllableName cs || isIdeographName cs || isNumberedName cs || isOwnName cs

end Enclosure.Text
