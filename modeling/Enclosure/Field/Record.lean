import Enclosure.Field.Read
import Enclosure.Node.Verdict

/-!
# Records

The records of the domain, read from values and written as values.

What is here:

* `LineRange.ofJson`, `Node.ofJson`, `Context.ofJson`, `Verdict.ofJson`: reading.
* `LineRange.toJson`, `Node.toJson`, `Context.toJson`, `Verdict.toJson`: writing, fields in order.
-/

set_option autoImplicit false

namespace Enclosure

/-- A text that may be absent, as a value. -/
def Json.ofName : Option String → Json
  | some s => Json.ofString s
  | none => .null

/-- A line that may be absent, as a value. -/
def Json.ofLine : Option Int → Json
  | some n => .int n
  | none => .null

/-- A record as a value. -/
def Json.record (members : List (String × Json)) : Json :=
  .object (members.map fun m => (Codes.ofString m.1, m.2))

namespace LineRange

/-- The range between two lines, or what is wrong with them. -/
def check (start stop : Json) : Checked LineRange :=
  match ((Field.line start).under (.field "start")).both ((Field.line stop).under (.field "end")) with
  | .ok (a, b) =>
    match ofLines? a b with
    | some r => .ok r
    | none => Field.flawed .belowOne .null
  | .error fs => .error fs

/-- A range from a record. -/
def ofJson (v : Json) : Checked LineRange :=
  match (Field.required v "start" Field.line).both (Field.required v "end" Field.line) with
  | .ok (a, b) =>
    match ofLines? a b with
    | some r => .ok r
    | none => Field.flawed .belowOne v
  | .error fs => .error fs

/-- A range as a record. -/
def toJson (r : LineRange) : Json := .record [("start", .int r.start), ("end", .int r.stop)]

end LineRange

namespace Node

/-- A node from its parts. -/
def check (kind first last name : Json) : Checked Node :=
  let parts :=
    (((Field.text kind).under (.field "kind")).both
      (((Field.optional Field.integer first).under (.field "start_line")).both
        (((Field.optional Field.integer last).under (.field "end_line")).both
          ((Field.optional Field.text name).under (.field "name")))))
  parts.map fun (k, f, l, n) => { kind := k, firstLine := f, lastLine := l, name := n }

/-- A node from a record. -/
def ofJson (v : Json) : Checked Node :=
  let parts :=
    ((Field.required v "kind" Field.text).both
      ((Field.given v "start_line" (Field.optional Field.integer) none).both
        ((Field.given v "end_line" (Field.optional Field.integer) none).both
          (Field.given v "name" (Field.optional Field.text) none))))
  parts.map fun (k, f, l, n) => { kind := k, firstLine := f, lastLine := l, name := n }

/-- A node as a record. -/
def toJson (n : Node) : Json :=
  .record [("kind", .ofString n.kind), ("start_line", .ofLine n.firstLine),
    ("end_line", .ofLine n.lastLine), ("name", .ofName n.name)]

end Node

namespace Context

/-- A context from a record. -/
def ofJson (v : Json) : Checked Context :=
  let parts :=
    ((Field.required v "kind" Field.text).both
      ((Field.required v "start_line" Field.integer).both
        ((Field.required v "end_line" Field.integer).both
          (Field.given v "name" (Field.optional Field.text) none))))
  parts.map fun (k, f, l, n) => { kind := k, firstLine := f, lastLine := l, name := n }

/-- A context as a record. -/
def toJson (c : Context) : Json :=
  .record [("kind", .ofString c.kind), ("start_line", .int c.firstLine),
    ("end_line", .int c.lastLine), ("name", .ofName c.name)]

end Context

namespace Verdict

/-- A verdict from a record. -/
def ofJson (v : Json) : Checked Verdict :=
  ((Field.required v "valid" Field.truth).both (Field.given v "error" Field.text "")).map
    fun (b, e) => ⟨b, e⟩

/-- A verdict as a record. -/
def toJson (v : Verdict) : Json := .record [("valid", .bool v.valid), ("error", .ofString v.error)]

end Verdict
end Enclosure
