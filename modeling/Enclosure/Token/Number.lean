/-!
# Number tokens

A number starts with a digit, or with a point that a digit follows.  `Numeral.read` takes the
longest number that the text starts with, and objects to texts such as `0x`, `1__0` or `012` that
start like a number and do not go on as one.

What is here:

* `Reading`: the characters taken so far, last one first, and those that are left.
* `Numeral.read`: one number, with the objection in words when there is none.
* `isWordChar`: the characters that may continue a name; none of them may follow a number
  directly, the first letters of a few keywords apart.
-/

set_option autoImplicit false

namespace Enclosure

/-- A place in a text: the characters taken, last one first, and those that are left. -/
structure Reading where
  taken : List Char
  rest : List Char

namespace Reading

/-- Take the next character too. -/
def take (r : Reading) : Reading :=
  match r.rest with
  | [] => r
  | c :: cs => ⟨c :: r.taken, cs⟩

/-- The text taken, in reading order. -/
def text (r : Reading) : String := String.ofList r.taken.reverse

end Reading

/-- The characters that may start a name; whether a character beyond ASCII really does is decided
once the whole name is read. -/
def isWordStart (c : Char) : Bool :=
  c.isAlpha || c == '_' || c.toNat ≥ 128

/-- The characters that may continue a name. -/
def isWordChar (c : Char) : Bool :=
  c.isAlphanum || c == '_' || c.toNat ≥ 128

namespace Numeral

/-- A hexadecimal digit. -/
def isHexDigit (c : Char) : Bool :=
  c.isDigit || ('a' ≤ c && c ≤ 'f') || ('A' ≤ c && c ≤ 'F')

/-- The digits that follow a first digit; single underscores may stand between digits. -/
def digits (taken : List Char) : List Char → Except String Reading
  | [] => .ok ⟨taken, []⟩
  | '_' :: d :: cs =>
    if d.isDigit then digits (d :: '_' :: taken) cs else .error "invalid decimal literal"
  | '_' :: [] => .error "invalid decimal literal"
  | c :: cs => if c.isDigit then digits (c :: taken) cs else .ok ⟨taken, c :: cs⟩

/-- Where the digits of a number with a base mark stand: none read yet, just after an underscore,
or after a digit. -/
inductive RadixPlace where
  | fresh | afterMark | afterDigit

/-- The digits of a number with a base mark. -/
def radixDigits (isDigitOfBase : Char → Bool) (base : String) (namesDigit : Bool) :
    RadixPlace → List Char → List Char → Except String Reading
  | _, taken, [] => .ok ⟨taken, []⟩
  | place, taken, c :: cs =>
    if isDigitOfBase c then radixDigits isDigitOfBase base namesDigit .afterDigit (c :: taken) cs
    else match place with
      | .fresh =>
        if c == '_' then radixDigits isDigitOfBase base namesDigit .afterMark (c :: taken) cs
        else objection c
      | .afterMark => objection c
      | .afterDigit =>
        if c == '_' then radixDigits isDigitOfBase base namesDigit .afterMark (c :: taken) cs
        else if namesDigit && c.isDigit then objection c
        else .ok ⟨taken, c :: cs⟩
where
  objection (c : Char) : Except String Reading :=
    if namesDigit && c.isDigit then .error s!"invalid digit '{c}' in {base} literal"
    else .error s!"invalid {base} literal"

/-- Whether the text after a number may follow it directly: a character that cannot continue a
name, or the start of a keyword that can stand after a number. -/
def endsWell : List Char → Bool
  | 'a' :: 'n' :: 'd' :: _ => true
  | 'e' :: 'l' :: 's' :: 'e' :: _ => true
  | 'f' :: 'o' :: 'r' :: _ => true
  | 'i' :: 'f' :: _ => true
  | 'i' :: 'n' :: _ => true
  | 'i' :: 's' :: _ => true
  | 'o' :: 'r' :: _ => true
  | c :: _ => !isWordChar c
  | [] => true

/-- A number of the given kind ends here. -/
def finish (kind : String) (r : Reading) : Except String Reading :=
  if endsWell r.rest then .ok r else .error s!"invalid {kind} literal"

/-- After the digits: an imaginary mark, or the end. -/
def imaginary (r : Reading) : Except String Reading :=
  match r.rest with
  | c :: _ => if c == 'j' || c == 'J' then finish "imaginary" r.take else finish "decimal" r
  | [] => .ok r

/-- After the digits: an exponent, an imaginary mark, or the end. -/
def exponent (r : Reading) : Except String Reading :=
  match r.rest with
  | e :: s :: d :: cs =>
    if e == 'e' || e == 'E' then
      if s == '+' || s == '-' then
        if d.isDigit then (digits (d :: s :: e :: r.taken) cs).bind imaginary
        else .error "invalid decimal literal"
      else if s.isDigit then (digits (s :: e :: r.taken) (d :: cs)).bind imaginary
      else finish "decimal" r
    else imaginary r
  | [e, s] =>
    if e == 'e' || e == 'E' then
      if s.isDigit then imaginary ⟨s :: e :: r.taken, []⟩ else finish "decimal" r
    else imaginary r
  | _ => imaginary r

/-- After a point: the digits of the fraction, if any, and what may follow. -/
def fraction (r : Reading) : Except String Reading :=
  match r.rest with
  | c :: cs =>
    if c.isDigit then (digits (c :: r.taken) cs).bind exponent else exponent r
  | [] => exponent r

/-- After the whole digits: a point, an exponent, an imaginary mark, or the end. -/
def pointed (r : Reading) : Except String Reading :=
  match r.rest with
  | '.' :: cs => fraction ⟨'.' :: r.taken, cs⟩
  | _ => exponent r

/-- The zeros a number starts with; single underscores may stand among them. -/
def zeros (taken : List Char) : List Char → Except String Reading
  | '_' :: d :: cs =>
    if d == '0' then zeros (d :: '_' :: taken) cs
    else if d.isDigit then .ok ⟨'_' :: taken, d :: cs⟩
    else .error "invalid decimal literal"
  | '_' :: [] => .error "invalid decimal literal"
  | '0' :: cs => zeros ('0' :: taken) cs
  | cs => .ok ⟨taken, cs⟩

/-- A number that starts with a zero and has no base mark: either all its whole digits are zeros,
or it has a fraction, an exponent or an imaginary mark. -/
def zeroLed (r : Reading) : Except String Reading :=
  match r.rest with
  | c :: cs =>
    if c.isDigit then do
      let all ← digits (c :: r.taken) cs
      match all.rest with
      | n :: _ =>
        if n == '.' || n == 'e' || n == 'E' || n == 'j' || n == 'J' then pointed all
        else .error ("leading zeros in decimal integer literals are not permitted; " ++
          "use an 0o prefix for octal integers")
      | [] => .error ("leading zeros in decimal integer literals are not permitted; " ++
          "use an 0o prefix for octal integers")
    else pointed r
  | [] => .ok r

/-- The number that starts with the digit `first`. -/
def read (first : Char) (cs : List Char) : Except String Reading :=
  if first == '0' then
    match cs with
    | x :: rest =>
      if x == 'x' || x == 'X' then
        (radixDigits isHexDigit "hexadecimal" false .fresh [x, first] rest).bind
          (finish "hexadecimal")
      else if x == 'o' || x == 'O' then
        (radixDigits (fun c => '0' ≤ c && c < '8') "octal" true .fresh [x, first] rest).bind
          (finish "octal")
      else if x == 'b' || x == 'B' then
        (radixDigits (fun c => c == '0' || c == '1') "binary" true .fresh [x, first] rest).bind
          (finish "binary")
      else (zeros [first] (x :: rest)).bind zeroLed
    | [] => .ok ⟨[first], []⟩
  else (digits [first] cs).bind pointed

end Numeral
end Enclosure
