import Enclosure.Command.Line
import Enclosure.Console.Print
import Enclosure.Console.Table
import Enclosure.Json.Write
import Enclosure.Service.Query
import Enclosure.Text.Newline

/-!
# Running a command

A command reads at most one file, writes lines on the terminal, may start a server, and ends with a
status: one if a check says no, and zero otherwise.

What is here:

* `FileState`: what is found under a path.
* `Server`: a server that is to be started.
* `Command.Outcome`, `Command.Fault`: how a command ends.
* `Command.path?`: the file that a command needs.
* `Command.run`: what a command does.
-/

set_option autoImplicit false

namespace Enclosure

/-- What is found under a path. -/
inductive FileState where
  | bytes (content : Bytes)
  | missing
  /-- There is something that cannot be read, for a reason with a number. -/
  | refused (number : Nat) (reason : String)
deriving Repr, DecidableEq

/-- A server that is to be started. -/
inductive Server where
  | requests (host : String) (port : Int) (logLevel : LogLevel)
  | toolsOnStandardIO
  | tools (transport : Transport) (host : String) (port : Int)
deriving Repr, DecidableEq

/-- The title of the service for requests. -/
def Server.title : String := "Enclosing Context API"

/-- What a command leaves behind when it ends in order. -/
structure Command.Outcome where
  status : Nat := 0
  output : String := ""
  diagnostics : String := ""
  served : List Server := []

/-- How a command can end otherwise. -/
inductive Command.Fault where
  | usage (fault : UsageFault)
  | failed (failure : Failure)
  | badMarkup (fault : Console.Markup.Fault)

namespace Command

/-! ## Files -/

/-- The names of the one language. -/
def languageNames : List String := ["py", "python", "python3"]

/-- What the names of files in the language end with. -/
def suffixes : List String := [".py", ".pyi", ".pyw"]

/-- A value that cannot be used. -/
def badValue {α : Type} (place : String) (reason : String) : Except UsageFault α :=
  .error (.badValue (some place) reason)

/-- Whether a file is one in the language: as the language says that is given, or else as its name
ends. -/
def checkLanguage (path : Path) (language : Option String) : Except UsageFault Unit :=
  match language with
  | some name =>
    if languageNames.contains (Text.lower (Text.trim name)) then .ok ()
    else badValue "--language" s!"Unsupported language '{name}'. Only Python is supported."
  | none =>
    if suffixes.contains (Text.lower path.suffix) then .ok ()
    else
      let shown := if path.suffix = "" then "(none)" else path.suffix
      badValue "PATH"
        s!"Unsupported file extension: {shown}. Pass --language python to force it."

/-- The text of a file, with every line end as one line feed. -/
def sourceOf (path : Path) : FileState → Except UsageFault Codes
  | .missing => badValue "PATH" s!"File not found: {path.text}"
  | .refused number reason =>
    badValue "PATH"
      ("Cannot read " ++ path.text ++ s!": [Errno {number}] {reason}: " ++ Text.quoted path.text)
  | .bytes content =>
    match Utf8.decode false content with
    | .ok text => .ok (Text.oneNewline text)
    | .error fault => badValue "PATH" s!"Cannot read {path.text}: {fault.message}"

/-- The path of the file that a command needs, unless it is none that the command takes. -/
def path? : Command → Option Path
  | find path _ _ _ _ _ language _ => if (checkLanguage path language).isOk then some path else none
  | check path _ language _ => if (checkLanguage path language).isOk then some path else none
  | _ => none

/-- The text of a file in the language. -/
def readSource (files : Path → FileState) (path : Path) (language : Option String) :
    Except Fault Codes :=
  match checkLanguage path language with
  | .error fault => .error (.usage fault)
  | .ok () =>
    if path.text.toList.contains '\x00' then
      .error (.failed (.foreign "ValueError" (Codes.ofString "embedded null byte")))
    else (sourceOf path (files path)).mapError .usage

/-- The back end that is asked for. -/
def backendName (name : Option String) : Except Fault (Option String) :=
  match name with
  | none => .ok none
  | some n =>
    match BackendKind.ofName n with
    | .ok kind => .ok (some kind.text)
    | .error fault => .error (.usage (.badValue (some "--backend") fault.message))

/-- A session for a command. -/
def sessionFor (environment : Environment) (backend : Option String) (mode : Option Mode)
    (kinds : Kinds) : Except Fault Session :=
  (Session.create environment (.named backend) mode kinds none).mapError fun fault =>
    .failed (Host.misconfigured fault)

/-! ## Lines on the terminal -/

/-- A line with a document. -/
def jsonLine (v : Json) : Outcome := { output := v.write ++ "\n" }

/-- The table that shows a context. -/
def contextTable (c : Context) : String :=
  Console.table (["kind", "name", "start_line", "end_line"].map String.toList)
    [c.kind.toList, (c.name.getD "").toList, (toString c.firstLine).toList,
      (toString c.lastLine).toList]

/-- What a search says that found nothing. -/
def nothingFound : String := "[yellow]No enclosing context found[/yellow]"

/-- What a check says, with tags. -/
def verdictMarkup (path : Path) (v : Verdict) : List Char :=
  if v.valid then "[green]Valid[/green] ".toList ++ path.text.toList
  else
    "[red]Invalid[/red] ".toList ++ Console.Markup.escape path.text.toList ++ ": ".toList ++
      Console.Markup.escape v.error.toList

/-- A text that cannot be printed; nothing has been foreseen for numbers in styles. -/
def Fault.ofRefusal : Console.Markup.Refusal → Fault
  | .tags fault => .badMarkup fault
  | .number fault => .failed (.foreign "ValueError" (Codes.ofString fault.message))

/-- A text with tags as it is written, on lines of some width or without breaking lines. -/
def printed (host : Host) (width : Option Nat) (markup : List Char) : Except Fault String :=
  (Console.print host.values width markup).mapError .ofRefusal

/-- What a search leaves behind. -/
def findOutcome (host : Host) (asJson : Bool) (c : Option Context) : Except Fault Outcome :=
  if asJson then .ok (jsonLine (.ofContext c))
  else
    match c with
    | some c => .ok { output := contextTable c }
    | none =>
      (printed host (some Console.terminalWidth) nothingFound.toList).map fun text =>
        { output := text }

/-- What a check leaves behind. -/
def checkOutcome (host : Host) (path : Path) (asJson : Bool) (v : Verdict) : Except Fault Outcome :=
  let status := if v.valid then 0 else 1
  if asJson then .ok { jsonLine v.toJson with status := status }
  else
    (printed host none (verdictMarkup path v)).map fun text => { status := status, output := text }

/-! ## Commands -/

/-- Go on with the answer of a session. -/
def answered {α : Type} (t : Traced (Except Failure α × Session))
    (go : α → Except Fault Outcome) : Traced (Except Fault Outcome) :=
  t.onValue fun p =>
    match p.1 with
    | .ok x => go x
    | .error failure => .error (.failed failure)

/-- What is needed before a file can be searched or checked: its text and a session. -/
def prepare (environment : Environment) (files : Path → FileState) (path : Path)
    (language backend : Option String) (mode : Option Mode) (kinds : Kinds) :
    Except Fault (Codes × Session) :=
  match readSource files path language with
  | .error fault => .error fault
  | .ok source =>
    match backendName backend with
    | .error fault => .error fault
    | .ok backend =>
      (sessionFor environment backend mode kinds).map fun session => (source, session)

/-- The settings of a server. -/
def serverSettings (environment : Environment) : Except Fault Settings :=
  let checked : Except ConfigFault Settings :=
    match Settings.ofEnvironment environment with
    | .error fault => .error fault
    | .ok s => (BackendKind.ofName s.backend).map fun _ => s
  checked.mapError fun fault => .usage (.badValue none fault.message)

/-- Say where a server is reached, and start it. -/
def announce (host : Host) (markup : String) (server : Server) : Except Fault Outcome :=
  (printed host (some Console.terminalWidth) markup.toList).map fun text =>
    { diagnostics := text, served := [server] }

/-- What a command does. -/
def run (host : Host) (environment : Environment) (files : Path → FileState) :
    Command → Traced (Except Fault Outcome)
  | help topic => pure (.ok { output := helpText topic })
  | find path first last mode backend kinds language asJson =>
    match prepare environment files path language backend mode (Kinds.orAny (some kinds)) with
    | .error fault => pure (.error fault)
    | .ok (source, session) =>
      answered (session.find host source first last) (findOutcome host asJson)
  | check path backend language asJson =>
    match prepare environment files path language backend none none with
    | .error fault => pure (.error fault)
    | .ok (source, session) =>
      answered (session.check host source) (checkOutcome host path asJson)
  | serveRequests address port logLevel =>
    match serverSettings environment with
    | .error fault => pure (.error fault)
    | .ok s => do
      Traced.note (.servingRequests s.backend s.mode.text)
      pure (announce host
        s!"[green]Enclosing-context API on http://{address}:{port}[/green] (backend: {s.backend})"
        (.requests address port logLevel))
  | serveTools transport address port =>
    match serverSettings environment with
    | .error fault => pure (.error fault)
    | .ok s => do
      Traced.note (.servingTools transport.text s.backend)
      if transport = .stdio then pure (.ok { served := [.toolsOnStandardIO] })
      else
        pure (announce host
          s!"[green]Enclosing-context MCP ({transport.text}) on {address}:{port}[/green]"
          (.tools transport address port))
where
  /-- How a command is used. -/
  helpText (topic : String) : String :=
    let usage (words : String) : String := s!"Usage: enclosing-context {words}\n"
    if topic = "find" then
      usage ("find --start|-s LINE [--end|-e LINE] [--mode MODE] [--backend NAME] " ++
        "[--kind|-k KIND] [--language NAME] [--json] PATH")
    else if topic = "validate" then
      usage "validate [--backend NAME] [--language NAME] [--json] PATH"
    else if topic = "serve api" then usage "serve api [--host HOST] [--port PORT] [--log-level LEVEL]"
    else if topic = "serve mcp" then
      usage "serve mcp [--transport TRANSPORT] [--host HOST] [--port PORT]"
    else if topic = "serve" then usage "serve (api|mcp)"
    else usage "[--verbose|-v] (find|validate|serve)"

end Command

/-- The layout of an entry of the journal: when it was written, how important it is, where it comes
from, and what it says. -/
def Notice.layout : String := "%(asctime)s %(levelname)s %(name)s: %(message)s"

end Enclosure
