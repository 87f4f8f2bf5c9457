/-!
# Code points

A text that comes from outside may hold surrogates, which no `Char` can be.  Such a text is a list
of code points.

What is here:

* `CodePoint`: a number below 0x110000.
* `Codes`: a text that may hold surrogates.
* `Codes.ofString`, `Codes.toChars?`, `Codes.surrogateRun?`.
-/

set_option autoImplicit false

namespace Enclosure

/-- A code point, surrogates included. -/
abbrev CodePoint := Fin 0x110000

/-- A text that may hold surrogates. -/
abbrev Codes := List CodePoint

namespace CodePoint

/-- The code point of a character. -/
def ofChar (c : Char) : CodePoint :=
  ⟨c.toNat, by
    have h := c.valid
    simp only [UInt32.isValidChar, Nat.isValidChar] at h
    show c.val.toNat < 0x110000
    omega⟩

/-- The character of a code point that is no surrogate. -/
def toChar? (x : CodePoint) : Option Char :=
  if h : x.val.isValidChar then some (Char.ofNatAux x.val h) else none

/-- Surrogates are no characters. -/
def isSurrogate (x : CodePoint) : Bool := 0xd800 ≤ x.val && x.val ≤ 0xdfff

/-- A character is the character of its code point. -/
theorem toChar?_ofChar (c : Char) : (ofChar c).toChar? = some c := by
  have h : (ofChar c).val.isValidChar := c.valid
  rw [toChar?, dif_pos h, Option.some_inj]
  apply Char.ext
  apply UInt32.toNat_inj.mp
  rfl

end CodePoint

namespace Codes

/-- The code points of some characters. -/
def ofChars (cs : List Char) : Codes := cs.map CodePoint.ofChar

/-- The code points of a text. -/
def ofString (s : String) : Codes := ofChars s.toList

/-- The characters of a text without surrogates. -/
def toChars? : Codes → Option (List Char)
  | [] => some []
  | x :: xs =>
    match x.toChar?, toChars? xs with
    | some c, some cs => some (c :: cs)
    | _, _ => none

/-- A text without surrogates. -/
def toString? (xs : Codes) : Option String := xs.toChars?.map String.ofList

/-- The place of the first surrogate and how many surrogates stand there in a row. -/
def surrogateRun? (xs : Codes) : Option (Nat × Nat) :=
  let before := xs.takeWhile (!·.isSurrogate)
  match (xs.dropWhile (!·.isSurrogate)).takeWhile (·.isSurrogate) with
  | [] => none
  | run => some (before.length, run.length)

/-- Characters survive the way to code points and back. -/
theorem toChars?_ofChars (cs : List Char) : (ofChars cs).toChars? = some cs := by
  induction cs with
  | nil => rfl
  | cons c cs ih =>
    simp only [ofChars, List.map_cons, toChars?, CodePoint.toChar?_ofChar]
    simp only [ofChars] at ih
    rw [ih]

end Codes
end Enclosure
