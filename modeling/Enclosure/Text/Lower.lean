import Enclosure.Text.CaseTable

/-!
# Lower case

The lower case of a text.  A capital sigma at the end of a word becomes a final sigma, and a capital
I with a dot keeps its dot as a mark of its own.

What is here:

* `lowerCode`: the lower case of one code point.
* `lower`: the lower case of a text.
-/

set_option autoImplicit false

namespace Enclosure.Text

/-- The run that a code point belongs to. -/
def caseRun? (x : Nat) : Option CaseRun :=
  lowerRuns.find? fun r => r.first ≤ x && x ≤ r.last && (x - r.first) % r.stride == 0

/-- The lower case of one code point. -/
def lowerCode (x : Nat) : List Nat :=
  if x == 0x130 then [0x69, 0x307]
  else
    match caseRun? x with
    | some r => [((x : Int) + r.shift).toNat]
    | none => [x]

/-- Whether the first character that is not looked through is a letter with case. -/
def meetsLetter : List Char → Bool
  | [] => false
  | c :: cs =>
    if casedRanges.contains c.toNat then true
    else if passedOverRanges.contains c.toNat then meetsLetter cs
    else false

/-- The lower case of characters, where `before` holds those already passed, last one first. -/
def lowerFrom (before : List Char) : List Char → List Char
  | [] => []
  | c :: cs =>
    let these :=
      if c == 'Σ' then [if meetsLetter before && !meetsLetter cs then 'ς' else 'σ']
      else if c.toNat < 128 then [c.toLower]
      else (lowerCode c.toNat).map Char.ofNat
    these ++ lowerFrom (c :: before) cs

/-- The lower case of a text. -/
def lower (s : String) : String := String.ofList (lowerFrom [] s.toList)

end Enclosure.Text
