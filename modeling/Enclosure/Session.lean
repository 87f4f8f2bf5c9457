import Enclosure.Backend.Host
import Enclosure.Lookup

/-!
# Sessions

A session answers one question after the other.  It is made with settings and with the name of a
back end, which it builds when it is first needed and then keeps; a back end that cannot be built is
tried again the next time.

What is here:

* `Slot`: a back end, or which one to build.
* `Session`, with `Session.create`.
* `Session.find` and `Session.check`: one question.
* `Workspace` and `Step`: a session among changing surroundings.
-/

set_option autoImplicit false

namespace Enclosure

/-- A back end, or which one to build. -/
inductive Slot where
  | planned (kind : BackendKind)
  | held (backend : Backend)

namespace Slot

/-- The name of the back end. -/
def name : Slot → String
  | planned kind => kind.text
  | held b => b.name

/-- The back end, if it is there. -/
def backend? : Slot → Option Backend
  | planned _ => none
  | held b => some b

end Slot

/-- One question after the other. -/
structure Session where
  settings : Settings
  slot : Slot
  mode : Mode
  kinds : Kinds
  /-- How often the back end has been asked. -/
  asked : Nat := 0

/-- Which back end a session is made for. -/
inductive Wanted where
  | named (name : Option String)
  | given (backend : Backend)

namespace Session

/-- A new session. -/
def create (environment : Environment) (wanted : Wanted) (mode : Option Mode) (kinds : Kinds)
    (settings : Option Settings) : Except ConfigFault Session :=
  match Host.settingsOr settings environment with
  | .error fault => .error fault
  | .ok s =>
    let session (slot : Slot) : Session :=
      { settings := s, slot := slot, mode := mode.getD s.mode, kinds := kinds }
    match wanted with
    | .given b => .ok (session (.held b))
    | .named name =>
      match BackendKind.ofName (Host.nameOr name s) with
      | .error fault => .error fault
      | .ok kind => .ok (session (.planned kind))

/-- The name of the back end. -/
def backendName (s : Session) : String := s.slot.name

/-- The session with its back end built, if that is possible. -/
def acquire (s : Session) (host : Host) : Except Failure (Backend × Session) :=
  match s.slot with
  | .held b => .ok (b, s)
  | .planned kind =>
    match host.build s.settings kind with
    | .error failure => .error failure
    | .ok b => .ok (b, { s with slot := .held b })

/-- The session after its back end may have been asked. -/
def counting {α : Type} (s : Session) (t : Traced α) : Traced (α × Session) :=
  ⟨(t.value, { s with asked := s.asked + Traced.questions t.events }), t.events⟩

/-- Find the construct around some lines. -/
def find (s : Session) (host : Host) (source : Codes) (start stop : Int) :
    Traced (Except Failure (Option Context) × Session) :=
  match LineRange.ofLines? start stop with
  | none => pure (.ok none, s)
  | some range =>
    match s.acquire host with
    | .error failure =>
      if failure.isForeign then pure (.error failure, s)
      else do
        Traced.note (.unbuilt failure.message)
        pure (.ok none, s)
    | .ok (b, s) => s.counting (b.find s.asked source range s.mode s.kinds)

/-- Check whether a text is well formed. -/
def check (s : Session) (host : Host) (source : Codes) :
    Traced (Except Failure Verdict × Session) :=
  match s.acquire host with
  | .error failure =>
    if failure.isForeign then pure (.error failure, s)
    else pure (Verdict.refused failure.message, s)
  | .ok (b, s) => s.counting (b.check s.asked source)

end Session

/-- What can be asked of a session, or happen around it. -/
inductive Step where
  | find (source : Codes) (start stop : Int)
  | check (source : Codes)
  | setMode (mode : Mode)
  | setKinds (kinds : Kinds)
  | setEnvironment (environment : Environment)
  | setGrammar (state : GrammarState)

/-- What a step answers. -/
inductive Reply where
  | context (result : Except Failure (Option Context))
  | verdict (result : Except Failure Verdict)
  | done

/-- A session and its surroundings. -/
structure Workspace where
  host : Host
  environment : Environment
  session : Session

namespace Workspace

/-- One step. -/
def step (w : Workspace) : Step → Traced (Reply × Workspace)
  | .find source start stop =>
    (w.session.find w.host source start stop).onValue fun p =>
      (.context p.1, { w with session := p.2 })
  | .check source =>
    (w.session.check w.host source).onValue fun p => (.verdict p.1, { w with session := p.2 })
  | .setMode mode => pure (.done, { w with session := { w.session with mode := mode } })
  | .setKinds kinds => pure (.done, { w with session := { w.session with kinds := kinds } })
  | .setEnvironment e => pure (.done, { w with environment := e })
  | .setGrammar g => pure (.done, { w with host := { w.host with grammar := g } })

end Workspace
end Enclosure
