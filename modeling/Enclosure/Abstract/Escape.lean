import Enclosure.Text.Hex
import Enclosure.Text.CharacterName

/-!
# Escape sequences

Only one thing about the contents of a string literal matters to a grammar: whether its escape
sequences can be read, and whether anything is left when they are.  An objection names the positions
of the sequence, counted the way they come out when every character beyond ASCII is itself written
as an escape of ten characters.

What is here:

* `Escape.check`: the escapes of a text literal.
* `Escape.checkBytes`: the escapes of a bytes literal.
-/

set_option autoImplicit false

namespace Enclosure.Escape

/-- How many positions a character takes. -/
def width (c : Char) : Nat := if c.toNat < 128 then 1 else 10

/-- How many positions some characters take. -/
def widths (cs : List Char) : Nat := cs.foldr (fun c n => width c + n) 0

/-- The hexadecimal digits at the start of a text, at most `n`: how many there are, their value, and
the text after them. -/
def hexRun : Nat → Nat → Nat → List Char → Nat × Nat × List Char
  | 0, seen, value, cs => (seen, value, cs)
  | _ + 1, seen, value, [] => (seen, value, [])
  | n + 1, seen, value, c :: cs =>
    match Text.hexValue? c with
    | some d => hexRun n (seen + 1) (16 * value + d) cs
    | none => (seen, value, c :: cs)

/-- The objection to the sequence from one position up to another, the latter excluded. -/
def objection (start stop : Nat) (reason : String) : String :=
  s!"(unicode error) 'unicodeescape' codec can't decode bytes in position {start}-{stop - 1}: " ++
    reason

/-- How many digits a numeric escape has. -/
def hexCount (c : Char) : Nat :=
  if c == 'x' then 2 else if c == 'u' then 4 else if c == 'U' then 8 else 0

/-- What is wrong with a numeric escape of too few digits. -/
def truncated (c : Char) : String :=
  if c == 'x' then "truncated \\xXX escape"
  else if c == 'u' then "truncated \\uXXXX escape"
  else "truncated \\UXXXXXXXX escape"

/-- Read the escapes of a text from a position on; `true` when any character comes out. -/
def checkFrom : Nat → Nat → Bool → List Char → Except String Bool
  | 0, _, any, _ => .ok any
  | _ + 1, _, any, [] => .ok any
  | _ + 1, _, _, ['\\'] => .ok true
  | fuel + 1, pos, any, '\\' :: c :: cs =>
    if c.toNat ≥ 128 then checkFrom fuel (pos + 6) true (c :: cs)
    else if c == '\n' then checkFrom fuel (pos + 2) any cs
    else if hexCount c ≠ 0 then
      let (seen, value, rest) := hexRun (hexCount c) 0 0 cs
      let stop := pos + 2 + seen
      if seen < hexCount c then .error (objection pos stop (truncated c))
      else if 0x10FFFF < value then .error (objection pos stop "illegal Unicode character")
      else checkFrom fuel stop true rest
    else if c == 'N' then
      match cs with
      | '\x7b' :: rest =>
        let name := rest.takeWhile (· != '\x7d')
        match rest.dropWhile (· != '\x7d') with
        | [] => .error (objection pos (pos + 3 + widths name) "malformed \\N character escape")
        | _ :: after =>
          let stop := pos + 3 + widths name
          if name.isEmpty then .error (objection pos stop "malformed \\N character escape")
          else if Text.isCharacterName (String.ofList name) then checkFrom fuel (stop + 1) true after
          else .error (objection pos (stop + 1) "unknown Unicode character name")
      | _ => .error (objection pos (pos + 2) "malformed \\N character escape")
    else checkFrom fuel (pos + 2) true cs
  | fuel + 1, pos, _, c :: cs => checkFrom fuel (pos + width c) true cs

/-- Read the escapes of a text; `true` when any character comes out. -/
def check (cs : List Char) : Except String Bool := checkFrom (cs.length + 1) 0 false cs

/-- Read the escapes of a bytes literal from a position on. -/
def checkBytesFrom (pos : Nat) : List Char → Except String Unit
  | [] => .ok ()
  | '\\' :: 'x' :: a :: b :: cs =>
    if (Text.hexValue? a).isSome && (Text.hexValue? b).isSome then checkBytesFrom (pos + 4) cs
    else .error s!"(value error) invalid \\x escape at position {pos}"
  | '\\' :: 'x' :: _ => .error s!"(value error) invalid \\x escape at position {pos}"
  | '\\' :: _ :: cs => checkBytesFrom (pos + 2) cs
  | _ :: cs => checkBytesFrom (pos + 1) cs

/-- Read the escapes of a bytes literal. -/
def checkBytes (cs : List Char) : Except String Unit := checkBytesFrom 0 cs

end Enclosure.Escape
