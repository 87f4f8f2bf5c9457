import Enclosure.Abstract.Read
import Enclosure.Console.Markup

/-!
# Values that are written out

The parameters of an action are read as an expression, and the expression has to be a value that is
written out: a constant, a number with a sign, or values in brackets.

What is here:

* `Phrase.isValue`: whether a phrase is such a value.
* `Markup.readValue`: a reader of values.
-/

set_option autoImplicit false

namespace Enclosure

namespace Phrase

/-- Kinds of phrases that hold values. -/
def collectionKinds : List String := ["Tuple", "List", "Set", "Dict"]

/-- Whether a phrase is a constant that may have a sign. -/
def isUnsigned (p : Phrase) : Bool := p.kind == "Constant" && p.word == ""

/-- Whether a phrase is a sign. -/
def isSign (p : Phrase) : Bool := p.kind == "UAdd" || p.kind == "USub"

mutual

/-- Whether a phrase is a value that is written out. -/
def isValue : Phrase → Bool
  | mk kind _ _ parts =>
    if collectionKinds.contains kind then areValues parts
    else if kind == "UnaryOp" then
      match parts with
      | [sign, number] => sign.isSign && number.isUnsigned
      | _ => false
    else if kind == "Call" then
      match parts with
      | [name] => name.kind == "Name" && name.word == "set"
      | _ => false
    else kind == "Constant"

/-- Whether all phrases but the marks of uses are values. -/
def areValues : List Phrase → Bool
  | [] => true
  | p :: ps => (p.kind == "Load" || isValue p) && areValues ps

end

end Phrase

namespace Console.Markup

/-- Read a value: one expression, which has to be a value that is written out. -/
def readValue : Values := fun cs =>
  if cs.contains '\x00' then .error (.unusable "source code string cannot contain null bytes")
  else
    match Abstract.read cs with
    | .error (.mistake c) => .error (.unreadable c.message)
    | .error .tooDeep => .error (.unusable "")
    | .ok phrase =>
      match phrase.parts with
      | [statement] =>
        if statement.kind != "Expr" then .error (.unreadable "invalid syntax")
        else if statement.parts.all Phrase.isValue then .ok ()
        else .error (.unusable "malformed node or string")
      | _ => .error (.unreadable "invalid syntax")

end Console.Markup
end Enclosure
