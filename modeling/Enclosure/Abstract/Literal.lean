import Enclosure.Abstract.Build
import Enclosure.Abstract.Formatted

/-!
# Literals

Actions for number and string tokens.  Adjacent string literals are one literal; it is a formatted
one as soon as one of them is.

What is here:

* `numeral`, `negated`, `partOfComplex`: actions for numbers.
* `StringToken.read`: a string token taken apart.
* `stringLiterals`: the action for adjacent string literals.
-/

set_option autoImplicit false

namespace Enclosure.Abstract

/-- How many digits a whole number in base ten may have. -/
def maxDigits : Nat := 4300

/-- Whether the text of a number is that of a whole number in base ten. -/
def isDecimal (cs : List Char) : Bool :=
  cs.all fun c => c.isDigit || c == '_'

/-- Whether the text of a number is that of an imaginary one. -/
def isImaginary (text : String) : Bool :=
  match text.toList with
  | '0' :: 'x' :: _ => false
  | '0' :: 'X' :: _ => false
  | cs => match cs.getLast? with
    | some c => c == 'j' || c == 'J'
    | none => false

/-- The constant a number token stands for. -/
def numberConstant (t : Token) : Except Refusal Phrase :=
  let cs := t.text.toList
  let digits := (cs.filter Char.isDigit).length
  if isDecimal cs && maxDigits < digits && !cs.all (fun c => c == '0' || c == '_') then
    object t.line <|
      s!"Exceeds the limit ({maxDigits} digits) for integer string conversion: " ++
        s!"value has {digits} digits; use sys.set_int_max_str_digits() to increase the limit" ++
        " - Consider hexadecimal for huge integer literals to avoid decimal conversion limits."
  else .ok (.mk "Constant" (some (t.line, t.lastLine)) "" [])

/-- The constant of the `i`-th item. -/
def numeral (i : Nat) : Action := fun _ vs =>
  match arg vs i with
  | .token t => (numberConstant t).map fun p => some (.phrase p)
  | _ => .ok none

/-- The negated constant of the `i`-th item. -/
def negated (i : Nat) : Action := fun s vs =>
  match arg vs i with
  | .token t => (numberConstant t).map fun p =>
    some (.phrase (Site.phrase s "UnaryOp" "" [Phrase.mark "USub", p]))
  | _ => .ok none

/-- The constant of the `i`-th item as the real or the imaginary part of a complex number. -/
def partOfComplex (imaginary : Bool) (i : Nat) : Action := fun _ vs =>
  match arg vs i with
  | .token t =>
    match numberConstant t with
    | .error e => .error e
    | .ok p =>
      if isImaginary t.text == imaginary then yields (.phrase p)
      else
        let wanted := if imaginary then "imaginary" else "real"
        object t.line s!"{wanted} number required in complex literal"
  | _ => .ok none

/-- A string token taken apart. -/
structure StringToken where
  bytes : Bool
  raw : Bool
  formatted : Bool
  body : List Char

/-- Take off the letters before the quote. -/
def StringToken.letters (s : StringToken) : List Char → StringToken
  | [] => s
  | c :: cs =>
    if c == 'b' || c == 'B' then letters { s with bytes := true } cs
    else if c == 'r' || c == 'R' then letters { s with raw := true } cs
    else if c == 'f' || c == 'F' then letters { s with formatted := true } cs
    else if c == 'u' || c == 'U' then letters s cs
    else { s with body := unquoted c (c :: cs) }
where
  /-- The text between the quotes, of which there are one or three at each end. -/
  unquoted (q : Char) (cs : List Char) : List Char :=
    let long := 6 ≤ cs.length && cs.take 3 == [q, q, q]
    let n := if long then 3 else 1
    (cs.drop n).take (cs.length - 2 * n)

/-- The string token with the given text. -/
def StringToken.read (text : String) : StringToken :=
  StringToken.letters ⟨false, false, false, []⟩ text.toList

/-- What adjacent literals have come to so far: whether they are bytes, whether one is formatted, and
the pieces. -/
structure Joined where
  bytes : Option Bool
  formatted : Bool
  pieces : Formatted.Pieces

/-- Take up one more string token. -/
def Joined.add (s : Site) (lines : Nat × Nat) (j : Joined) (t : Token) : Except Refusal Joined := do
  let text := StringToken.read t.text
  let here {α : Type} (r : Except String α) : Except Refusal α :=
    match r with
    | .ok a => .ok a
    | .error message => object s.reached message
  let any ←
    if text.formatted then pure false
    else if text.bytes then
      if text.body.any (fun c => c.toNat ≥ 128) then
        object t.line "bytes can only contain ASCII literal characters"
      else if text.raw then pure false
      else do
        let _ ← here (Escape.checkBytes text.body)
        pure false
    else if text.raw then pure (!text.body.isEmpty)
    else here (Escape.check text.body)
  if j.bytes.any (· != text.bytes) then
    object s.reached "cannot mix bytes and nonbytes literals"
  else if text.formatted then
    let scene : Formatted.Scene :=
      { lines := lines, raw := text.raw, embedded := s.embedded, reached := s.reached }
    let (pieces, rest, _) ←
      Formatted.pieces scene (2 * text.body.length + 4) 0 t.line j.pieces text.body
    if 1 < rest.length then scene.object "f-string: unexpected end of string"
    else pure { bytes := some text.bytes, formatted := true, pieces := pieces }
  else
    pure { j with bytes := some text.bytes, pieces := j.pieces.addText any }

/-- The constant or the formatted string that the string tokens of the `i`-th item stand for. -/
def stringLiterals (i : Nat) : Action := fun s vs => do
  let tokens := (arg vs i).items.filterMap fun v => match v with
    | .token t => some t
    | _ => none
  let lines := (s.first, s.last)
  let joined ← tokens.foldlM (Joined.add s lines)
    { bytes := none, formatted := false, pieces := .empty }
  if joined.formatted then
    yields (.phrase (.mk "JoinedStr" (some lines) "" (joined.pieces.close lines)))
  else yields (.phrase (.mk "Constant" (some lines) "" []))

end Enclosure.Abstract
