import Enclosure.Abstract.Source
import Enclosure.Backend.Interpreter
import Enclosure.Concrete.Read
import Enclosure.Console.Value
import Enclosure.Settings

/-!
# What the back ends stand on

A host has a reader for abstract trees, a reader for concrete trees that may be out of order, and a
way to start programs.  With one, a back end can be built from its name.  What a host prints may hold
values in its markup, so there is a reader for values as well.

What is here:

* `GrammarState`: whether concrete trees can be read.
* `Host`: the readers and the programs.
* `Host.build`: a back end.
* `Host.backend`: the back end that is asked for, or the configured one.
* `Host.standard`: a host with the readers of this library.
-/

set_option autoImplicit false

namespace Enclosure

/-- Whether concrete trees can be read. -/
inductive GrammarState where
  | working
  /-- Loading the grammar fails, with a message. -/
  | broken (message : String)
  /-- There is no reader at all, with a message. -/
  | absent (message : String)
deriving Repr, DecidableEq

/-- What the back ends stand on. -/
structure Host where
  abstractTree : Codes → Except Abstract.Fault Abstract.Tree
  concreteTree : List Char → Concrete.Tree
  grammar : GrammarState
  start : Launch → Ending
  /-- How many levels are left for a document that a program has written. -/
  nesting : Nat := Json.maxNesting
  /-- How values are read that are written out in markup. -/
  values : Console.Markup.Values := Console.Markup.readValue

namespace Host

/-- Why the back end for concrete trees cannot be built. -/
def grammarFault? (h : Host) : Option String :=
  match h.grammar with
  | .working => none
  | .broken message => some s!"tree-sitter grammar for python is unavailable: {message}"
  | .absent message => some s!"tree-sitter backend is unavailable: {message}"

/-- Build a back end. -/
def build (h : Host) (settings : Settings) : BackendKind → Except Failure Backend
  | .abstract => .ok (.abstract h.abstractTree)
  | .interpreter => .ok (.interpreter h.start settings.program settings.timeout h.nesting)
  | .concrete =>
    match h.grammarFault? with
    | none => .ok (.concrete h.concreteTree)
    | some message => .error (.unavailable (Codes.ofString message))

/-- A configuration that cannot be used, as a failure. -/
def misconfigured (fault : ConfigFault) : Failure :=
  .foreign "ValueError" (Codes.ofString fault.message)

/-- The name that is asked for, or the configured one; an empty name asks for none. -/
def nameOr (name : Option String) (settings : Settings) : String :=
  match name with
  | some n => if n = "" then settings.backend else n
  | none => settings.backend

/-- The settings that are given, or those of the environment. -/
def settingsOr (settings : Option Settings) (environment : Environment) :
    Except ConfigFault Settings :=
  match settings with
  | some s => .ok s
  | none => Settings.ofEnvironment environment

/-- The back end that is asked for, or the configured one. -/
def backend (h : Host) (environment : Environment) (name : Option String)
    (settings : Option Settings) : Except Failure Backend :=
  match settingsOr settings environment with
  | .error fault => .error (misconfigured fault)
  | .ok s =>
    match BackendKind.ofName (nameOr name s) with
    | .error fault => .error (misconfigured fault)
    | .ok kind => h.build s kind

/-- Whether a program is a reader of texts. -/
def isReader (program : String) : Bool := program = defaultProgram || program = "python3"

/-- Whether a time limit is too short for any program. -/
def isTooShort : Seconds → Bool
  | .whole n => n ≤ 0
  | .real x => x.isAtMostZero

/-- Start a program: the readers that are known, and no others. -/
def startReader (read : Codes → Except Abstract.Fault Abstract.Tree) (launch : Launch) : Ending :=
  if launch.program.toList.contains '\x00' then .failed "ValueError" "embedded null byte"
  else if !isReader launch.program then .notFound
  else
    match launch.timeout with
    | some (.real .nan) => .failed "ValueError" "cannot convert float NaN to integer"
    | some (.real (.infinite false)) =>
      .failed "OverflowError" "cannot convert float infinity to integer"
    | some limit => if isTooShort limit then .timedOut else Abstract.reportEnding read launch.input
    | none => Abstract.reportEnding read launch.input

/-- A host with the readers of this library. -/
def standard : Host where
  abstractTree := Abstract.readSource
  concreteTree := Concrete.read
  grammar := .working
  start := startReader Abstract.readSource

end Host
end Enclosure
