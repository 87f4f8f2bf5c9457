import Enclosure.Field.Flaw
import Enclosure.Field.Numeral
import Enclosure.Node.Select

/-!
# Reading fields

A field takes a value of its own type and whatever can be understood as one: a truth value or a
number without a fraction as an integer, the digits of an integer, the usual words for a truth
value.

What is here:

* `Field.text`, `Field.integer`, `Field.line`, `Field.truth`, `Field.mode`, `Field.list`: values.
* `Field.optional`: a value that may be absent.
* `Field.required`, `Field.given`: the members of a record.
-/

set_option autoImplicit false

namespace Enclosure.Field

/-- A flaw of the value itself. -/
def flawed {α : Type} (flaw : Flaw) (input : Json) : Checked α := .error [⟨[], flaw, input⟩]

/-- A text without surrogates. -/
def text : Json → Checked String
  | .text s =>
    match s.toString? with
    | some t => .ok t
    | none => flawed .brokenText (.text s)
  | v => flawed .notText v

/-- How large an integer may be that is given as a floating point number. -/
def maxExactInteger : Int := 0x8000000000000000

/-- An integer. -/
def integer : Json → Checked Int
  | .int n => .ok n
  | .bool b => .ok (if b then 1 else 0)
  | .float x =>
    if !x.isFinite then flawed .notFinite (.float x)
    else
      match x.toInt? with
      | none => flawed .fractional (.float x)
      | some n =>
        if -maxExactInteger < n && n < maxExactInteger then .ok n else flawed .integerTooLong (.float x)
  | .text s =>
    if s.any (·.isSurrogate) then flawed .brokenText (.text s)
    else
      match integerOfCodes? (withoutMargin s) with
      | some n => .ok n
      | none =>
        if maxIntegerText < plainStart s then flawed .integerTooLong (.text s)
        else flawed .unreadableInteger (.text s)
  | v => flawed .notInteger v

/-- The number of a line. -/
def line (v : Json) : Checked Int :=
  match integer v with
  | .ok n => if 1 ≤ n then .ok n else flawed .belowOne v
  | .error fs => .error fs

/-- The words for a truth value. -/
def truthOfText? (s : String) : Option Bool :=
  if ["1", "t", "true", "y", "yes", "on"].contains s then some true
  else if ["0", "f", "false", "n", "no", "off"].contains s then some false
  else none

/-- A truth value. -/
def truth : Json → Checked Bool
  | .bool b => .ok b
  | .int n =>
    if n = 1 then .ok true else if n = 0 then .ok false else flawed .unreadableTruth (.int n)
  | .float x =>
    match x.toInt? with
    | none => flawed .notTruth (.float x)
    | some n =>
      if n = 1 then .ok true else if n = 0 then .ok false else flawed .unreadableTruth (.float x)
  | .text s =>
    match s.toString? with
    | none => flawed .brokenText (.text s)
    | some t =>
      match truthOfText? (t.map Char.toLower) with
      | some b => .ok b
      | none => flawed .unreadableTruth (.text s)
  | v => flawed .notTruth v

/-- A mode. -/
def mode : Json → Checked Mode
  | .text s =>
    match s.toString?.bind Mode.ofText? with
    | some m => .ok m
    | none => flawed .notMode (.text s)
  | v => flawed .notMode v

/-- The items of a list, each read on its own. -/
def items {α : Type} (read : Json → Checked α) (index : Nat) : List Json → Checked (List α)
  | [] => .ok []
  | v :: vs =>
    (((read v).under (.item index)).both (items read (index + 1) vs)).map fun p => p.1 :: p.2

/-- A list. -/
def list {α : Type} (read : Json → Checked α) : Json → Checked (List α)
  | .array vs => items read 0 vs
  | v => flawed .notList v

/-- A value that may be absent. -/
def optional {α : Type} (read : Json → Checked α) : Json → Checked (Option α)
  | .null => .ok none
  | v => (read v).map some

/-- A member that a record has to have. -/
def required {α : Type} (record : Json) (name : String) (read : Json → Checked α)
    (absent : Flaw := .missing) : Checked α :=
  match record.get? name with
  | some v => (read v).under (.field name)
  | none => .error [⟨[.field name], absent, record⟩]

/-- A member that a record may have. -/
def given {α : Type} (record : Json) (name : String) (read : Json → Checked α) (default : α) :
    Checked α :=
  match record.get? name with
  | some v => (read v).under (.field name)
  | none => .ok default

end Enclosure.Field
