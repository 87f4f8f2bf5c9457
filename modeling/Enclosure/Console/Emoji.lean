import Enclosure.Console.EmojiTable
import Enclosure.Text.Blank
import Enclosure.Text.Lower

/-!
# Emoji by name

In a text for the terminal, a name between colons stands for an emoji; `-text` or `-emoji` after the
name asks for one of the two ways to draw it.  A name that is not known stays as it is.

What is here:

* `Emoji.find?`: the emoji with a name.
* `Emoji.replace`: a text with its emoji.
-/

set_option autoImplicit false

namespace Enclosure.Console.Emoji

/-- The emoji with a name, of which case does not count. -/
def find? (name : String) : Option (List Char) :=
  let lowered := Text.lower name
  match lowered.toList with
  | [] => none
  | c :: _ => ((entries c).lookup lowered).map fun codes => codes.map Char.ofNat

/-- What a name may be followed by, and the character that it adds. -/
def variants : List (List Char × List Char) :=
  [("-emoji".toList, ['\ufe0f']), ("-text".toList, ['\ufe0e'])]

/-- A name without what follows it, and the character that this adds. -/
def splitVariant (name : List Char) : List Char × List Char :=
  match variants.find? fun v => v.1.isSuffixOf name with
  | some v => (name.take (name.length - v.1.length), v.2)
  | none => (name, [])

/-- What stands for a name between two colons. -/
def ofName (name : List Char) : List Char :=
  let (bare, variant) := splitVariant name
  match find? (String.ofList bare) with
  | some cs => cs ++ variant
  | none => ':' :: name ++ [':']

/-- Whether a character can be part of a name. -/
def isNameChar (c : Char) : Bool := c != ':' && !Text.isBlank c

/-- A text with its emoji. -/
def replace : List Char → List Char
  | [] => []
  | c :: cs =>
    if c = ':' ∧ (cs.dropWhile isNameChar).head? = some ':' then
      ofName (cs.takeWhile isNameChar) ++ replace (cs.drop ((cs.takeWhile isNameChar).length + 1))
    else c :: replace cs
termination_by cs => cs.length
decreasing_by
  all_goals simp only [List.length_cons, List.length_drop]; omega

end Enclosure.Console.Emoji
