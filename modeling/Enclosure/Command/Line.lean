import Enclosure.Backend.Trace
import Enclosure.Command.Path
import Enclosure.Command.Words
import Enclosure.Field.Read

/-!
# Commands

Four commands: a search and a check in a file, and two servers.  The words of a command are read from
left to right, and so are its values: of several that cannot be used the one that comes first is
reported.

What is here:

* `Command`: what can be asked for on the command line.
* `Plan`: a command, and how much is to be written into the journal.
* `Plan.ofWords`: the plan that the words of a command line amount to.
-/

set_option autoImplicit false

namespace Enclosure

/-- How much a server for requests writes about itself. -/
inductive LogLevel where
  | critical
  | error
  | warning
  | info
  | debug
deriving Repr, DecidableEq

namespace LogLevel

/-- The word for a level. -/
def text : LogLevel → String
  | critical => "critical"
  | error => "error"
  | warning => "warning"
  | info => "info"
  | debug => "debug"

/-- All levels. -/
def all : List LogLevel := [critical, error, warning, info, debug]

end LogLevel

/-- How a server for tools is reached. -/
inductive Transport where
  | stdio
  | http
  | sse
deriving Repr, DecidableEq

namespace Transport

/-- The word for a transport. -/
def text : Transport → String
  | stdio => "stdio"
  | http => "http"
  | sse => "sse"

/-- All transports. -/
def all : List Transport := [stdio, http, sse]

end Transport

/-- What can be asked for on the command line. -/
inductive Command where
  /-- Show how a group of commands or a command is used. -/
  | help (topic : String)
  /-- Find the construct around some lines of a file. -/
  | find (path : Path) (first last : Int) (mode : Option Mode) (backend : Option String)
      (kinds : List String) (language : Option String) (asJson : Bool)
  /-- Check whether a file is well formed. -/
  | check (path : Path) (backend language : Option String) (asJson : Bool)
  /-- Serve requests over HTTP. -/
  | serveRequests (host : String) (port : Int) (logLevel : LogLevel)
  /-- Serve tools. -/
  | serveTools (transport : Transport) (host : String) (port : Int)
deriving Repr, DecidableEq

/-- A command, and how much is to be written into the journal; nothing is decided about the journal
before a command has been named. -/
structure Plan where
  journal : Option Level
  command : Except UsageFault Command

namespace Command

/-- The option that asks for help. -/
def helpSwitch : Switch := ⟨"--help", some 'h', false⟩

/-- The options that stand in front of every command. -/
def rootSwitches : List Switch := [⟨"--verbose", some 'v', false⟩, helpSwitch]

def startSwitch : Switch := ⟨"--start", some 's', true⟩

def endSwitch : Switch := ⟨"--end", some 'e', true⟩

def modeSwitch : Switch := ⟨"--mode", none, true⟩

def backendSwitch : Switch := ⟨"--backend", none, true⟩

def kindSwitch : Switch := ⟨"--kind", some 'k', true⟩

def languageSwitch : Switch := ⟨"--language", none, true⟩

def jsonSwitch : Switch := ⟨"--json", none, false⟩

def hostSwitch : Switch := ⟨"--host", none, true⟩

def portSwitch : Switch := ⟨"--port", none, true⟩

def logLevelSwitch : Switch := ⟨"--log-level", none, true⟩

def transportSwitch : Switch := ⟨"--transport", none, true⟩

/-- The options of a search. -/
def findSwitches : List Switch :=
  [startSwitch, endSwitch, modeSwitch, backendSwitch, kindSwitch, languageSwitch, jsonSwitch,
    helpSwitch]

/-- The options of a check. -/
def checkSwitches : List Switch := [backendSwitch, languageSwitch, jsonSwitch, helpSwitch]

/-- The options of a server for requests. -/
def requestsSwitches : List Switch := [hostSwitch, portSwitch, logLevelSwitch, helpSwitch]

/-- The options of a server for tools. -/
def toolsSwitches : List Switch := [transportSwitch, hostSwitch, portSwitch, helpSwitch]

/-! ## Values -/

/-- What was asked for, or what is wrong. -/
abbrev Asked (α : Type) := Except UsageFault α

/-- A value of an option that cannot be used. -/
def unusable {α : Type} (s : Switch) (reason : String) : Asked α :=
  .error (.badValue (some s.shown) reason)

/-- The number of a line, or another number from one up to a limit. -/
def number (s : Switch) (limit : Option Int) (value : String) : Asked Int :=
  match Field.line (Json.ofString value) with
  | .error faults => unusable s ((faults.map fun f => f.flaw.message).head?.getD "")
  | .ok n =>
    match limit with
    | none => .ok n
    | some most =>
      if n ≤ most then .ok n
      else unusable s s!"Input should be less than or equal to {most}"

/-- One of some words. -/
def choice {α : Type} (s : Switch) (text : α → String) (all : List α) (value : String) : Asked α :=
  match all.find? fun x => text x == value with
  | some x => .ok x
  | none =>
    let names := ", ".intercalate (all.map fun x => "'" ++ text x ++ "'")
    unusable s ("Value error, " ++ Text.quoted value ++ " is not one of " ++ names ++ ".")

/-- The value of an option, read if it is there. -/
def ofOption {α : Type} (r : Reading) (s : Switch) (read : String → Asked α) : Asked (Option α) :=
  match r.value? s.name with
  | none => .ok none
  | some v => (read v).map some

/-- The value of an option, or another one if it is not there. -/
def ofOptionOr {α : Type} (r : Reading) (s : Switch) (read : String → Asked α) (default : α) :
    Asked α :=
  (ofOption r s read).map (·.getD default)

/-- The greatest port. -/
def maxPort : Int := 65535

/-- A port. -/
def port (r : Reading) (default : Int) : Asked Int :=
  ofOptionOr r portSwitch (number portSwitch (some maxPort)) default

/-- The host to serve on. -/
def host (r : Reading) : String := (r.value? hostSwitch.name).getD "127.0.0.1"

/-- The name under which the path of a file is known. -/
def pathName : String := "path"

/-- The path of a file. -/
def path (r : Reading) : Asked Path :=
  match r.arguments with
  | [] => .error (.missingArgument pathName)
  | p :: _ => .ok (Path.ofText p)

/-- The first line of a range. -/
def firstLine (r : Reading) : Asked Int :=
  match r.value? startSwitch.name with
  | none => .error (.missingOption startSwitch.shown)
  | some v => number startSwitch none v

/-- The last line of a range. -/
def lastLine (r : Reading) : Asked (Option Int) := ofOption r endSwitch (number endSwitch none)

/-- The mode of a search. -/
def mode (r : Reading) : Asked (Option Mode) :=
  ofOption r modeSwitch (choice modeSwitch Mode.text [.largest, .smallest])

/-! ## Commands -/

/-- The names of values in the order in which they are read: options as they come, then the arguments,
then everything that is not there. -/
def order (r : Reading) (arguments declared : List String) : List String :=
  let there := (r.options.map Prod.fst).eraseDups ++ arguments
  there ++ declared.filter fun name => !there.contains name

/-- Read the values with some names for what is wrong with them. -/
def tryAll (names : List String) (read : String → Asked Unit) : Asked Unit :=
  match names with
  | [] => .ok ()
  | name :: rest =>
    match read name with
    | .error fault => .error fault
    | .ok () => tryAll rest read

/-- No more words than arguments. -/
def noSurplus (r : Reading) (arguments : Nat) : Asked Unit :=
  match r.arguments.drop arguments with
  | [] => .ok ()
  | words => .error (.surplus words)

/-- Help if it is asked for, and else a command. -/
def orHelp (topic : String) (r : Reading) (command : Asked Command) : Asked Command :=
  if r.has helpSwitch.name then .ok (.help topic) else command

/-- A value of which only matters whether it can be used. -/
def tried {α : Type} (a : Asked α) : Asked Unit := a.map fun _ => ()

/-- A search. -/
def ofFind (r : Reading) : Asked Command := do
  let read (name : String) : Asked Unit :=
    if name = pathName then tried (path r)
    else if name = startSwitch.name then tried (firstLine r)
    else if name = endSwitch.name then tried (lastLine r)
    else if name = modeSwitch.name then tried (mode r)
    else .ok ()
  tryAll (order r [pathName] [startSwitch.name]) read
  noSurplus r 1
  let first ← firstLine r
  let last ← lastLine r
  return .find (← path r) first (last.getD first) (← mode r) (r.value? backendSwitch.name)
    (r.values kindSwitch.name) (r.value? languageSwitch.name) (r.has jsonSwitch.name)

/-- A check. -/
def ofCheck (r : Reading) : Asked Command := do
  let p ← path r
  noSurplus r 1
  return .check p (r.value? backendSwitch.name) (r.value? languageSwitch.name)
    (r.has jsonSwitch.name)

/-- A server for requests. -/
def ofServeRequests (r : Reading) : Asked Command := do
  let logLevel := ofOptionOr r logLevelSwitch (choice logLevelSwitch LogLevel.text LogLevel.all) .info
  let port := port r 8000
  let read (name : String) : Asked Unit :=
    if name = portSwitch.name then tried port
    else if name = logLevelSwitch.name then tried logLevel
    else .ok ()
  tryAll (order r [] []) read
  noSurplus r 0
  return .serveRequests (host r) (← port) (← logLevel)

/-- A server for tools. -/
def ofServeTools (r : Reading) : Asked Command := do
  let transport := ofOptionOr r transportSwitch
    (choice transportSwitch Transport.text Transport.all) .stdio
  let port := port r 8001
  let read (name : String) : Asked Unit :=
    if name = portSwitch.name then tried port
    else if name = transportSwitch.name then tried transport
    else .ok ()
  tryAll (order r [] []) read
  noSurplus r 0
  return .serveTools (← transport) (host r) (← port)

/-- A command whose options may stand between its arguments. -/
def ofWordsWith (topic : String) (known : List Switch) (build : Reading → Asked Command)
    (words : List String) : Asked Command :=
  match readWords known true words with
  | .error fault => .error fault
  | .ok r => orHelp topic r (build r)

/-- A group of commands: the options in front, then the name of a command. -/
inductive Entry where
  | helpWanted
  | named (front : Reading) (name : String) (rest : List String)

/-- What stands in front of a command in a group, and its name.  A name that looks like an option is
read as one before it is said to be unknown. -/
def enter (known : List Switch) (names : List String) (words : List String) : Asked Entry :=
  if words.isEmpty then .error .noWords
  else
    match readWords known false words with
    | .error fault => .error fault
    | .ok front =>
      if front.has helpSwitch.name then .ok .helpWanted
      else
        match front.arguments with
        | [] => .error .missingCommand
        | name :: rest =>
          if names.contains name then .ok (.named front name rest)
          else
            match readWords known false (if isOption name then [name] else []) with
            | .error fault => .error fault
            | .ok again =>
              if again.has helpSwitch.name then .ok .helpWanted
              else .error (.noSuchCommand name (Text.similar name names))

/-- A command of the group that serves. -/
def ofServe (words : List String) : Asked Command :=
  match enter [helpSwitch] ["api", "mcp"] words with
  | .error fault => .error fault
  | .ok .helpWanted => .ok (.help "serve")
  | .ok (.named _ name rest) =>
    if name = "api" then ofWordsWith "serve api" requestsSwitches ofServeRequests rest
    else ofWordsWith "serve mcp" toolsSwitches ofServeTools rest

/-- A command by its name. -/
def ofName (name : String) (words : List String) : Asked Command :=
  if name = "find" then ofWordsWith name findSwitches ofFind words
  else if name = "validate" then ofWordsWith name checkSwitches ofCheck words
  else ofServe words

end Command

/-- The plan that the words of a command line amount to. -/
def Plan.ofWords (words : List String) : Plan :=
  match Command.enter Command.rootSwitches ["find", "validate", "serve"] words with
  | .error fault => ⟨none, .error fault⟩
  | .ok .helpWanted => ⟨none, .ok (.help "")⟩
  | .ok (.named front name rest) =>
    ⟨some (if front.has "--verbose" then .debug else .warning), Command.ofName name rest⟩

end Enclosure
