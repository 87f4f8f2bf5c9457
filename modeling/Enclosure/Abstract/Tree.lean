import Enclosure.Json.Value
import Enclosure.Tree

/-!
# Abstract trees

An abstract tree has one node for each construct, and the nodes below it in the order of its parts.
The first and the last line and the name are whatever the reader of the text left there; nothing is
known about them.

What is here:

* `Abstract.Label` and `Abstract.Tree`.
-/

set_option autoImplicit false

namespace Enclosure.Abstract

/-- What is known about one node. -/
structure Label where
  kind : String
  first : Json := .null
  last : Json := .null
  name : Json := .null
deriving Inhabited

/-- An abstract tree. -/
abbrev Tree := Enclosure.Tree Label

end Enclosure.Abstract
