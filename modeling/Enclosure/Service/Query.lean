import Enclosure.Session

/-!
# Questions from outside

The two questions as they come in, from whichever side: a text with two lines and perhaps a mode,
kinds and a back end, or a text and perhaps a back end.

What is here:

* `Query` and `Probe`: a search and a check that are asked for.
* `Form`: how a record with a question is read.
* `Query.ofJson`, `Probe.ofJson`: a question from a record.
* `Query.session?`, `Probe.session?`: a new session for a question.
-/

set_option autoImplicit false

namespace Enclosure

/-- A filter without any kind filters nothing. -/
def Kinds.orAny : Kinds → Kinds
  | some [] => none
  | kinds => kinds

/-- A search that is asked for. -/
structure Query where
  source : String
  first : Int
  last : Int
  mode : Option Mode := none
  kinds : Kinds := none
  backend : Option String := none
deriving Repr, DecidableEq

/-- A check that is asked for. -/
structure Probe where
  source : String
  backend : Option String := none
deriving Repr, DecidableEq

/-- How a record with a question is read. -/
structure Form where
  /-- How the number of a line is read. -/
  line : Json → Checked Int
  /-- What is said of a field that is not there. -/
  absent : Flaw
  /-- Whether the kinds come before the back end. -/
  kindsFirst : Bool

namespace Query

/-- A search from a record. -/
def ofJson (form : Form) (v : Json) : Checked Query :=
  let place :=
    (Field.required v "source" Field.text form.absent).both
      ((Field.required v "line_start" form.line form.absent).both
        (Field.required v "line_end" form.line form.absent))
  let mode := Field.given v "mode" (Field.optional Field.mode) none
  let kinds := Field.given v "kinds" (Field.optional (Field.list Field.text)) none
  let backend := Field.given v "backend" (Field.optional Field.text) none
  let filter :=
    if form.kindsFirst then kinds.both backend
    else (backend.both kinds).map fun (b, k) => (k, b)
  (place.both (mode.both filter)).map fun ((source, first, last), mode, kinds, backend) =>
    { source := source, first := first, last := last, mode := mode, kinds := kinds
      backend := backend }

/-- A new session for a search. -/
def session? (q : Query) (environment : Environment) : Except ConfigFault Session :=
  Session.create environment (.named q.backend) q.mode q.kinds.orAny none

end Query

namespace Probe

/-- A check from a record. -/
def ofJson (form : Form) (v : Json) : Checked Probe :=
  ((Field.required v "source" Field.text form.absent).both
    (Field.given v "backend" (Field.optional Field.text) none)).map
      fun (source, backend) => { source := source, backend := backend }

/-- A new session for a check. -/
def session? (p : Probe) (environment : Environment) : Except ConfigFault Session :=
  Session.create environment (.named p.backend) none none none

end Probe

/-- A search in a session. -/
def Session.search (s : Session) (host : Host) (q : Query) :
    Traced (Except Failure (Option Context) × Session) :=
  s.find host (Codes.ofString q.source) q.first q.last

/-- A check in a session. -/
def Session.probe (s : Session) (host : Host) (p : Probe) :
    Traced (Except Failure Verdict × Session) :=
  s.check host (Codes.ofString p.source)

/-- The context that a search found, as a value. -/
def Json.ofContext : Option Context → Json
  | some c => c.toJson
  | none => .null

end Enclosure
