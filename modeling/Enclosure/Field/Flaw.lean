import Enclosure.Json.Value

/-!
# What is wrong with a field

A record that comes from outside is read field by field, and everything that is wrong with it is
reported at once, each with the place where it was found.

What is here:

* `Flaw`: what can be wrong, with its code and its message.
* `Fault`: a flaw and its place.
* `Checked`: a value, or all that is wrong.
-/

set_option autoImplicit false

namespace Enclosure

/-- What can be wrong with a field. -/
inductive Flaw where
  | missing
  | missingArgument
  | unexpectedArgument
  | notText
  | brokenText
  | notInteger
  | fractional
  | notFinite
  | unreadableInteger
  | integerTooLong
  | belowOne
  | notTruth
  | unreadableTruth
  | notList
  | notMode
  | notRecord
  | frozen
deriving Repr, DecidableEq

namespace Flaw

/-- The code of a flaw, for programs. -/
def code : Flaw → String
  | missing => "missing"
  | missingArgument => "missing_argument"
  | unexpectedArgument => "unexpected_keyword_argument"
  | notText => "string_type"
  | brokenText => "string_unicode"
  | notInteger => "int_type"
  | fractional => "int_from_float"
  | notFinite => "finite_number"
  | unreadableInteger => "int_parsing"
  | integerTooLong => "int_parsing_size"
  | belowOne => "greater_than_equal"
  | notTruth => "bool_type"
  | unreadableTruth => "bool_parsing"
  | notList => "list_type"
  | notMode => "enum"
  | notRecord => "model_attributes_type"
  | frozen => "frozen_instance"

/-- A flaw in words. -/
def message : Flaw → String
  | missing => "Field required"
  | missingArgument => "Missing required argument"
  | unexpectedArgument => "Unexpected keyword argument"
  | notText => "Input should be a valid string"
  | brokenText => "Input should be a valid string, unable to parse raw data as a unicode string"
  | notInteger => "Input should be a valid integer"
  | fractional => "Input should be a valid integer, got a number with a fractional part"
  | notFinite => "Input should be a finite number"
  | unreadableInteger => "Input should be a valid integer, unable to parse string as an integer"
  | integerTooLong => "Unable to parse input string as an integer, exceeded maximum size"
  | belowOne => "Input should be greater than or equal to 1"
  | notTruth => "Input should be a valid boolean"
  | unreadableTruth => "Input should be a valid boolean, unable to interpret input"
  | notList => "Input should be a valid list"
  | notMode => "Input should be 'largest' or 'smallest'"
  | notRecord => "Input should be a valid dictionary or object to extract fields from"
  | frozen => "Instance is frozen"

end Flaw

/-- One step on the way to a value inside a record. -/
inductive Place where
  | field (name : String)
  | item (index : Nat)
deriving Repr, DecidableEq

/-- A place as part of a text. -/
def Place.text : Place → String
  | field name => name
  | item index => toString index

/-- A flaw with its place and the value it was found in. -/
structure Fault where
  path : List Place
  flaw : Flaw
  input : Json

/-- A fault in words. -/
def Fault.message (f : Fault) : String :=
  let path := ".".intercalate (f.path.map Place.text)
  s!"{path}: {f.flaw.message} [{f.flaw.code}]"

/-- The same fault seen from further out. -/
def Fault.under (place : Place) (f : Fault) : Fault := { f with path := place :: f.path }

/-- All faults in words. -/
def faultsMessage (fs : List Fault) : String := "; ".intercalate (fs.map Fault.message)

/-- A value, or all that is wrong with what it was read from. -/
abbrev Checked (α : Type) := Except (List Fault) α

namespace Checked

/-- Two values, or all that is wrong with either. -/
def both {α β : Type} (a : Checked α) (b : Checked β) : Checked (α × β) :=
  match a, b with
  | .ok x, .ok y => .ok (x, y)
  | .ok _, .error fs => .error fs
  | .error fs, .ok _ => .error fs
  | .error fs, .error gs => .error (fs ++ gs)

/-- A value at a place. -/
def under {α : Type} (place : Place) (a : Checked α) : Checked α :=
  a.mapError fun fs => fs.map (Fault.under place)

end Checked
end Enclosure
