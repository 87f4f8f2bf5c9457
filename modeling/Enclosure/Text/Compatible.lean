import Enclosure.Text.CompatibleTable

/-!
# Compatible form

Names that differ only in how their characters are put together, or in typographic variants of the
same letters, are the same name.  The form that stands for all of them is normalization form KC of
the character standard: take every character apart, put combining characters into the order of their
classes, and put together again what can be put together.

What is here:

* `decomposeAll`, `inOrder`, `composeAll`: the three steps on code points.
* `Text.compatible`: the form of a text.
-/

set_option autoImplicit false

namespace Enclosure.Text

/-! ## Syllables

The syllables of one script are numbered by their parts, so they need no table. -/

/-- The first syllable, and the numbers of leading, middle and trailing parts. -/
def syllableBase : Nat := 0xAC00

/-- The parts of a syllable. -/
def syllableParts (x : Nat) : Option (List Nat) :=
  if syllableBase ≤ x && x < syllableBase + 11172 then
    let i := x - syllableBase
    let lead := 0x1100 + i / 588
    let middle := 0x1161 + i % 588 / 28
    if i % 28 = 0 then some [lead, middle] else some [lead, middle, 0x11A7 + i % 28]
  else none

/-- The syllable of two parts. -/
def syllableOf (a b : Nat) : Option Nat :=
  if 0x1100 ≤ a && a < 0x1113 && 0x1161 ≤ b && b < 0x1176 then
    some (syllableBase + ((a - 0x1100) * 21 + (b - 0x1161)) * 28)
  else if syllableBase ≤ a && a < syllableBase + 11172 && (a - syllableBase) % 28 = 0 &&
      0x11A8 ≤ b && b < 0x11C3 then
    some (a + (b - 0x11A7))
  else none

/-! ## The three steps -/

/-- The class of a combining character, and zero for all others. -/
def combiningClass (x : Nat) : Nat :=
  match combiningClasses.entry? x with
  | some e => e.targets.headD 0
  | none => 0

/-- What a code point is put together from. -/
def decompose (x : Nat) : List Nat :=
  if x < 128 then [x]
  else match syllableParts x with
  | some parts => parts
  | none =>
    match decompositions.entry? x with
    | some e => match e.targets with
      | [t] => [t + (x - e.low)]
      | ts => ts
    | none => [x]

/-- All code points taken apart. -/
def decomposeAll (xs : List Nat) : List Nat := xs.flatMap decompose

/-- Put a code point behind others given last one first: a combining character goes before those of
a higher class. -/
def insertMark (x class_ : Nat) : List Nat → List Nat
  | [] => [x]
  | y :: ys =>
    if class_ ≠ 0 && class_ < combiningClass y then y :: insertMark x class_ ys else x :: y :: ys

/-- Combining characters in the order of their classes. -/
def inOrder (xs : List Nat) : List Nat :=
  (xs.foldl (fun done x => insertMark x (combiningClass x) done) []).reverse

/-- The character two others can be put together to. -/
def compose? (a b : Nat) : Option Nat :=
  match syllableOf a b with
  | some c => some c
  | none =>
    if a < 0x3c then none
    else (compositions.find? fun (x, y, _) => x == a && y == b).map fun (_, _, c) => c

/-- Where putting together stands: the base and what has come after it, both last one first. -/
structure Composing where
  done : List Nat
  base : Nat
  marks : List Nat
  lastClass : Nat

/-- Take up one more code point. -/
def Composing.step (s : Composing) (x : Nat) : Composing :=
  let k := combiningClass x
  let free := s.marks.isEmpty || (s.lastClass ≠ 0 && s.lastClass < k)
  match if free then compose? s.base x else none with
  | some c => { s with base := c }
  | none =>
    if k = 0 then { done := s.marks ++ s.base :: s.done, base := x, marks := [], lastClass := 0 }
    else { s with marks := x :: s.marks, lastClass := k }

/-- Put together what can be put together. -/
def composeAll : List Nat → List Nat
  | [] => []
  | x :: xs =>
    let s := xs.foldl Composing.step { done := [], base := x, marks := [], lastClass := 0 }
    (s.marks ++ s.base :: s.done).reverse

/-- The compatible composed form of a text. -/
def compatible (text : String) : String :=
  if text.all (fun (c : Char) => c.toNat < 128) then text
  else
    let codes := text.toList.map Char.toNat
    String.ofList ((composeAll (inOrder (decomposeAll codes))).map Char.ofNat)

end Enclosure.Text
