import Enclosure.Number.Literal
import Enclosure.Text.Lower

/-!
# Styles by name

A style is asked for in words: attributes, a colour, a colour for the ground, an address.  Two ways
to ask for the same style have the same normal form; words that name no style are only lowered.  A
colour may be mixed from three numbers, and a number that cannot be read is not forgiven: it is taken
for a mistake of whoever wrote the words, and not for the end of the style's name.

What is here:

* `NumberFault`: what can be wrong with a number.
* `colour?`: the colour that a word names.
* `Style`: what words can ask for.
* `Style.ofWords`: the style that words ask for.
* `Style.normalize`: the normal form of a name.
-/

set_option autoImplicit false

namespace Enclosure.Console

/-- The attributes of a style, in the order in which they are written. -/
inductive Attribute where
  | bold
  | dim
  | italic
  | underline
  | blink
  | blink2
  | reverse
  | conceal
  | strike
  | underline2
  | frame
  | encircle
  | overline
deriving Repr, DecidableEq

namespace Attribute

/-- All attributes, in the order in which they are written. -/
def all : List Attribute :=
  [bold, dim, italic, underline, blink, blink2, reverse, conceal, strike, underline2, frame,
    encircle, overline]

/-- The name of an attribute. -/
def text : Attribute → String
  | bold => "bold"
  | dim => "dim"
  | italic => "italic"
  | underline => "underline"
  | blink => "blink"
  | blink2 => "blink2"
  | reverse => "reverse"
  | conceal => "conceal"
  | strike => "strike"
  | underline2 => "underline2"
  | frame => "frame"
  | encircle => "encircle"
  | overline => "overline"

/-- The short names. -/
def short : List (String × Attribute) :=
  [("d", dim), ("b", bold), ("i", italic), ("u", underline), ("r", reverse), ("c", conceal),
    ("s", strike), ("uu", underline2), ("o", overline)]

/-- The attribute with a name. -/
def ofText? (s : String) : Option Attribute :=
  match all.find? fun a => a.text == s with
  | some a => some a
  | none => short.lookup s

end Attribute

/-- The names of colours. -/
def colourNames : List String :=
  ["black", "red", "green", "yellow", "blue", "magenta", "cyan", "white", "bright_black",
    "bright_red", "bright_green", "bright_yellow", "bright_blue", "bright_magenta",
    "bright_cyan", "bright_white", "grey0", "gray0", "navy_blue", "dark_blue", "blue3", "blue1",
    "dark_green", "deep_sky_blue4", "dodger_blue3", "dodger_blue2", "green4", "spring_green4",
    "turquoise4", "deep_sky_blue3", "dodger_blue1", "green3", "spring_green3", "dark_cyan",
    "light_sea_green", "deep_sky_blue2", "deep_sky_blue1", "spring_green2", "cyan3",
    "dark_turquoise", "turquoise2", "green1", "spring_green1", "medium_spring_green", "cyan2",
    "cyan1", "dark_red", "deep_pink4", "purple4", "purple3", "blue_violet", "orange4", "grey37",
    "gray37", "medium_purple4", "slate_blue3", "royal_blue1", "chartreuse4", "dark_sea_green4",
    "pale_turquoise4", "steel_blue", "steel_blue3", "cornflower_blue", "chartreuse3",
    "cadet_blue", "sky_blue3", "steel_blue1", "pale_green3", "sea_green3", "aquamarine3",
    "medium_turquoise", "chartreuse2", "sea_green2", "sea_green1", "aquamarine1",
    "dark_slate_gray2", "dark_magenta", "dark_violet", "purple", "light_pink4", "plum4",
    "medium_purple3", "slate_blue1", "yellow4", "wheat4", "grey53", "gray53", "light_slate_grey",
    "light_slate_gray", "medium_purple", "light_slate_blue", "dark_olive_green3",
    "dark_sea_green", "light_sky_blue3", "sky_blue2", "dark_sea_green3", "dark_slate_gray3",
    "sky_blue1", "chartreuse1", "light_green", "pale_green1", "dark_slate_gray1", "red3",
    "medium_violet_red", "magenta3", "dark_orange3", "indian_red", "hot_pink3", "medium_orchid3",
    "medium_orchid", "medium_purple2", "dark_goldenrod", "light_salmon3", "rosy_brown", "grey63",
    "gray63", "medium_purple1", "gold3", "dark_khaki", "navajo_white3", "grey69", "gray69",
    "light_steel_blue3", "light_steel_blue", "yellow3", "dark_sea_green2", "light_cyan3",
    "light_sky_blue1", "green_yellow", "dark_olive_green2", "dark_sea_green1", "pale_turquoise1",
    "deep_pink3", "magenta2", "hot_pink2", "orchid", "medium_orchid1", "orange3", "light_pink3",
    "pink3", "plum3", "violet", "light_goldenrod3", "tan", "misty_rose3", "thistle3", "plum2",
    "khaki3", "light_goldenrod2", "light_yellow3", "grey84", "gray84", "light_steel_blue1",
    "yellow2", "dark_olive_green1", "honeydew2", "light_cyan1", "red1", "deep_pink2",
    "deep_pink1", "magenta1", "orange_red1", "indian_red1", "hot_pink", "dark_orange", "salmon1",
    "light_coral", "pale_violet_red1", "orchid2", "orchid1", "orange1", "sandy_brown",
    "light_salmon1", "light_pink1", "pink1", "plum1", "gold1", "navajo_white1", "misty_rose1",
    "thistle1", "yellow1", "light_goldenrod1", "khaki1", "wheat1", "cornsilk1", "grey100",
    "gray100", "grey3", "gray3", "grey7", "gray7", "grey11", "gray11", "grey15", "gray15",
    "grey19", "gray19", "grey23", "gray23", "grey27", "gray27", "grey30", "gray30", "grey35",
    "gray35", "grey39", "gray39", "grey42", "gray42", "grey46", "gray46", "grey50", "gray50",
    "grey54", "gray54", "grey58", "gray58", "grey62", "gray62", "grey66", "gray66", "grey70",
    "gray70", "grey74", "gray74", "grey78", "gray78", "grey82", "gray82", "grey85", "gray85",
    "grey89", "gray89", "grey93", "gray93"]

/-- Whether a word is a hexadecimal colour. -/
def isHexColour (cs : List Char) : Bool :=
  match cs with
  | '#' :: ds => ds.length == 6 && ds.all fun c => c.isDigit || ('a' ≤ c && c ≤ 'f')
  | _ => false

/-- What stands between the brackets of a word. -/
def bracketed? (name : String) (cs : List Char) : Option (List Char) :=
  let head := name.toList ++ ['(']
  if head.isPrefixOf cs && cs.getLast? == some ')' then some ((cs.drop head.length).dropLast)
  else none

/-- The most digits that a number may have. -/
def maxDigits : Nat := 4300

/-- What can be wrong with a number. -/
inductive NumberFault where
  /-- There are no digits. -/
  | empty
  /-- There are too many digits. -/
  | tooLong (digits : Nat)
deriving Repr, DecidableEq

/-- A fault in words. -/
def NumberFault.message : NumberFault → String
  | empty => "invalid literal for int() with base 10: ''"
  | tooLong digits =>
    s!"Exceeds the limit ({maxDigits} digits) for integer string conversion: " ++
      s!"value has {digits} digits; use sys.set_int_max_str_digits() to increase the limit"

/-- The number that digits of any script denote. -/
def numberOf (ds : List Char) : Except NumberFault Nat :=
  if ds.isEmpty then .error .empty
  else if maxDigits < ds.length then .error (.tooLong ds.length)
  else .ok (ds.foldl (fun n d => 10 * n + (digitValue? d).getD 0) 0)

/-- Whether a word is a colour with a number. -/
def isNumberedColour (cs : List Char) : Bool :=
  match bracketed? "color" cs with
  | some ds =>
    !ds.isEmpty && ds.length ≤ 3 && ds.all Char.isDigit &&
      ds.foldl (fun n d => 10 * n + (d.toNat - 48)) 0 ≤ 255
  | none => false

/-- Whether a word mixes a colour from three numbers; the first one that cannot be read is reported,
even if another one is too large. -/
def isMixedColour (cs : List Char) : Except NumberFault Bool :=
  match bracketed? "rgb" cs with
  | some ds =>
    if !ds.isEmpty && ds.all fun d => d == ',' || (digitValue? d).isSome then
      match ds.splitOn ',' with
      | [red, green, blue] =>
        match numberOf red, numberOf green, numberOf blue with
        | .error fault, _, _ => .error fault
        | _, .error fault, _ => .error fault
        | _, _, .error fault => .error fault
        | .ok r, .ok g, .ok b => .ok (r ≤ 255 && g ≤ 255 && b ≤ 255)
      | _ => .ok false
    else .ok false
  | none => .ok false

/-- The colour that a word names. -/
def colour? (word : String) : Except NumberFault (Option String) :=
  let name := Text.lower word
  let cs := name.toList
  if name == "default" || colourNames.contains name || isHexColour cs || isNumberedColour cs then
    .ok (some name)
  else (isMixedColour cs).map fun mixed => if mixed then some name else none

/-- What words can ask for. -/
structure Style where
  attributes : List (Attribute × Bool) := []
  colour : Option String := none
  ground : Option String := none
  link : Option String := none

namespace Style

/-- The style with an attribute switched on or off. -/
def switch (s : Style) (a : Attribute) (on : Bool) : Style :=
  { s with attributes := (a, on) :: s.attributes }

/-- Words that ask for another one. -/
inductive Opener where
  | ground
  | negation
  | address
deriving Repr, DecidableEq

/-- What a word says, without regard to the words after it. -/
inductive Word where
  | opener (w : Opener)
  | attribute (a : Attribute)
  | colour (name : String)
deriving Repr, DecidableEq

/-- Why words ask for no style. -/
inductive Fault where
  /-- A word says nothing, or the one after it is missing or not what it asks for. -/
  | unknown
  | number (fault : NumberFault)
deriving Repr, DecidableEq

/-- The colour that a word has to name. -/
def colourOf (word : String) : Except Fault String :=
  match colour? word with
  | .error fault => .error (.number fault)
  | .ok none => .error .unknown
  | .ok (some name) => .ok name

/-- What a word says. -/
def wordOf (word : String) : Except Fault Word :=
  let lowered := Text.lower word
  if lowered = "on" then .ok (.opener .ground)
  else if lowered = "not" then .ok (.opener .negation)
  else if lowered = "link" then .ok (.opener .address)
  else
    match Attribute.ofText? lowered with
    | some a => .ok (.attribute a)
    | none => (colourOf lowered).map .colour

/-- The style after a word that asks for another one, and that one. -/
def withPair (s : Style) (next : String) : Opener → Except Fault Style
  | .ground => (colourOf next).map fun c => { s with ground := some c }
  | .negation =>
    match Attribute.ofText? next with
    | some a => .ok (s.switch a false)
    | none => .error .unknown
  | .address => .ok { s with link := some next }

/-- The style that words ask for, beyond a style that is there already; `pending` is a word that asks
for another one. -/
def ofWordsFrom (pending : Option Opener) (s : Style) : List String → Except Fault Style
  | [] => if pending.isSome then .error .unknown else .ok s
  | word :: rest =>
    match pending with
    | some w =>
      match s.withPair word w with
      | .error fault => .error fault
      | .ok s => ofWordsFrom none s rest
    | none =>
      match wordOf word with
      | .error fault => .error fault
      | .ok (.opener w) => ofWordsFrom (some w) s rest
      | .ok (.attribute a) => ofWordsFrom none (s.switch a true) rest
      | .ok (.colour name) => ofWordsFrom none { s with colour := some name } rest

/-- The style that words ask for. -/
def ofWords (words : List String) : Except Fault Style := ofWordsFrom none {} words

/-- How an attribute is written. -/
def attributeText? (s : Style) (a : Attribute) : Option String :=
  (s.attributes.lookup a).map fun on => if on then a.text else "not " ++ a.text

/-- The words for a style, in a fixed order. -/
def text (s : Style) : String :=
  let words :=
    Attribute.all.filterMap s.attributeText? ++ s.colour.toList ++
      (match s.ground with
        | some c => ["on", c]
        | none => []) ++
      (match s.link with
        | some l => ["link", l]
        | none => [])
  if words.isEmpty then "none" else " ".intercalate words

/-- The words of a text. -/
def words (cs : List Char) : List String :=
  let blanked := cs.map fun c => if Text.isBlank c then ' ' else c
  ((blanked.splitOn ' ').map String.ofList).filter (· ≠ "")

/-- The normal form of a name; the words of a name that is no style stay as they are, but for case. -/
def normalize (name : List Char) : Except NumberFault String :=
  let trimmed := String.ofList (Text.trimChars name)
  if trimmed = "none" then .ok "none"
  else
    match ofWords (words name) with
    | .ok s => .ok s.text
    | .error .unknown => .ok (Text.lower trimmed)
    | .error (.number fault) => .error fault

end Style
end Enclosure.Console
