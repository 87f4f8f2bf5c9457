import Enclosure.Service.Query

/-!
# The questions as tools

A server for tools has a session of its own.  A call that asks for nothing special is answered in
this session; any other call gets a new one, made from the environment as it is at that time, which
takes over from the session of the server what the call leaves open.

What is here:

* `Tool`: the two tools.
* `Toolbox`: the server.
* `Toolbox.choose` and `Toolbox.within`: the session that a call is answered in.
* `Toolbox.call`: the answer to a call.
-/

set_option autoImplicit false

namespace Enclosure

/-- The two tools. -/
inductive Tool where
  | search
  | check
deriving Repr, DecidableEq

namespace Tool

/-- The name of a tool. -/
def name : Tool → String
  | search => "find_enclosing_context"
  | check => "validate_syntax"

/-- All tools. -/
def all : List Tool := [search, check]

/-- The tool with a name. -/
def ofName? (name : String) : Option Tool := all.find? fun t => t.name == name

/-- The names of the arguments that a tool takes. -/
def arguments : Tool → List String
  | search => ["source", "line_start", "line_end", "mode", "kinds", "backend"]
  | check => ["source", "backend"]

end Tool

/-- A server for tools. -/
structure Toolbox where
  session : Session

namespace Toolbox

/-- The name under which the server is known. -/
def serverName : String := "enclosing-context"

/-- Lines are any integers here: a search around lines that do not exist finds nothing. -/
def form : Form := ⟨Field.integer, .missingArgument, true⟩

/-- The session that a call is answered in. -/
inductive Choice where
  | own
  | fresh (session : Session)

/-- What a call asks for: the session of the server if it asks for nothing special. -/
def choose (t : Toolbox) (environment : Environment) (mode : Option Mode) (kinds : Kinds)
    (backend : Option String) : Except ConfigFault Choice :=
  match mode, kinds.orAny, backend with
  | none, none, none => .ok .own
  | mode, kinds, backend =>
    let name := match backend with
      | some b => if b = "" then t.session.backendName else b
      | none => t.session.backendName
    let filter := match kinds with
      | some ks => some ks
      | none => t.session.kinds
    (Session.create environment (.named name) (some (mode.getD t.session.mode)) filter none).map
      .fresh

/-- Answer in the session that was chosen; only the session of the server is kept. -/
def within {α : Type} (t : Toolbox) (choice : Except ConfigFault Choice)
    (ask : Session → Traced (Except Failure α × Session)) : Traced (Except Failure α × Toolbox) :=
  match choice with
  | .error fault => pure (.error (Host.misconfigured fault), t)
  | .ok .own => (ask t.session).onValue fun p => (p.1, { t with session := p.2 })
  | .ok (.fresh s) => (ask s).onValue fun p => (p.1, t)

/-- Answer a search. -/
def search (t : Toolbox) (host : Host) (environment : Environment) (q : Query) :
    Traced (Except Failure (Option Context) × Toolbox) :=
  t.within (t.choose environment q.mode q.kinds q.backend) fun s => s.search host q

/-- Answer a check. -/
def check (t : Toolbox) (host : Host) (environment : Environment) (p : Probe) :
    Traced (Except Failure Verdict × Toolbox) :=
  t.within (t.choose environment none none p.backend) fun s => s.probe host p

/-- The arguments that a tool does not take. -/
def surplus (tool : Tool) : Json → Checked Unit
  | .object ms =>
    match ms.filter fun m => !(tool.arguments.map Codes.ofString).contains m.1 with
    | [] => .ok ()
    | extra =>
      .error (extra.map fun m => ⟨[.field ((m.1.toString?).getD "")], .unexpectedArgument, m.2⟩)
  | _ => .ok ()

/-- The question in the arguments of a call. -/
def question {α : Type} (tool : Tool) (read : Json → Checked α) (arguments : Json) :
    Except Failure α :=
  match (read arguments).both (surplus tool arguments) with
  | .ok (q, ()) => .ok q
  | .error faults => .error (.invalid (faultsMessage faults))

/-- Answer a call. -/
def call (t : Toolbox) (host : Host) (environment : Environment) (name : String)
    (arguments : Json) : Traced (Except Failure Json × Toolbox) :=
  match Tool.ofName? name with
  | none => pure (.error (.foreign "KeyError" (Codes.ofString (Text.quoted name))), t)
  | some .search =>
    match question .search (Query.ofJson form) arguments with
    | .error failure => pure (.error failure, t)
    | .ok q =>
      (t.search host environment q).onValue fun p =>
        (p.1.map fun c => .record [("result", .ofContext c)], p.2)
  | some .check =>
    match question .check (Probe.ofJson form) arguments with
    | .error failure => pure (.error failure, t)
    | .ok p => (t.check host environment p).onValue fun r => (r.1.map Verdict.toJson, r.2)

end Toolbox
end Enclosure
