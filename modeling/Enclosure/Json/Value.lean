import Enclosure.Number.Shortest
import Enclosure.Text.Quoted

/-!
# JSON values

Values of the interchange format.  Whole numbers have no bound and differ from numbers with a
fraction; texts may hold surrogates; the members of an object keep their order and have different
keys.

What is here:

* `Json`: a value.
* `Json.get?`: a member of an object.
* `Json.shape`: the word for the kind of a value.
* `Json.display`: a value as a message shows it.
-/

set_option autoImplicit false

namespace Enclosure

/-- A JSON value. -/
inductive Json where
  | null
  | bool (b : Bool)
  | int (n : Int)
  | float (x : Binary64)
  | text (s : Codes)
  | array (items : List Json)
  | object (members : List (Codes × Json))
deriving Inhabited

namespace Json

/-- A text without surrogates as a value. -/
def ofString (s : String) : Json := .text (Codes.ofString s)

/-- Set a member: a new one comes last, one that is there already keeps its place. -/
def set (key : Codes) (value : Json) : List (Codes × Json) → List (Codes × Json)
  | [] => [(key, value)]
  | (k, v) :: ms => if k = key then (k, value) :: ms else (k, v) :: set key value ms

/-- The member with a key. -/
def find? (key : Codes) : List (Codes × Json) → Option Json
  | [] => none
  | (k, v) :: ms => if k = key then some v else find? key ms

/-- A member of an object. -/
def get? (key : String) : Json → Option Json
  | object ms => find? (Codes.ofString key) ms
  | _ => none

/-- The word for the kind of a value. -/
def shape : Json → String
  | null => "NoneType"
  | bool _ => "bool"
  | int _ => "int"
  | float _ => "float"
  | text _ => "str"
  | array _ => "list"
  | object _ => "dict"

/-- A text that is not longer than a number text may be. -/
def intText (n : Int) : String := toString n

mutual

/-- A value as it stands inside another one. -/
def written : Json → String
  | null => "None"
  | bool b => if b then "True" else "False"
  | int n => intText n
  | float x => x.text
  | text s => s.quoted
  | array items => "[" ++ ", ".intercalate (writtenItems items) ++ "]"
  | object members => "\x7b" ++ ", ".intercalate (writtenMembers members) ++ "\x7d"

/-- Items as they stand inside a list. -/
def writtenItems : List Json → List String
  | [] => []
  | v :: vs => v.written :: writtenItems vs

/-- Members as they stand inside an object. -/
def writtenMembers : List (Codes × Json) → List String
  | [] => []
  | (k, v) :: ms => (k.quoted ++ ": " ++ v.written) :: writtenMembers ms

end

/-- A value as a message shows it: a text as it is, anything else as it stands inside another
value. -/
def display : Json → Codes
  | text s => s
  | v => Codes.ofString v.written

end Json
end Enclosure
