import Enclosure.Command.Run

/-!
# The program

The words of the command line become a plan, the plan is run on the one file that it needs, and what
it leaves behind is written out.  Everything is decided elsewhere; here are only the environment, the
file and the two streams.

What is here:

* `Program.environment`: the variables of the environment.
* `Program.fileState`: what is found under a path.
* `Program.finish`: write out how a command ended.
* `main`: the program.
-/

set_option autoImplicit false

namespace Enclosure.Program

/-- The variables of the environment. -/
def environment : IO Environment := do
  return {
    backend := ← IO.getEnv "ENCLOSING_CONTEXT_BACKEND"
    mode := ← IO.getEnv "ENCLOSING_CONTEXT_MODE"
    program := ← IO.getEnv "ENCLOSING_CONTEXT_PYTHON"
    timeout := ← IO.getEnv "ENCLOSING_CONTEXT_TIMEOUT" }

/-- What an error says about a path. -/
def stateOfError : IO.Error → FileState
  | .noFileOrDirectory .. => .missing
  | .permissionDenied _ number reason => .refused number.toNat reason
  | .inappropriateType _ number reason => .refused number.toNat reason
  | .invalidArgument _ number reason => .refused number.toNat reason
  | .resourceExhausted _ number reason => .refused number.toNat reason
  | e => .refused 5 (toString e)

/-- What is found under a path. -/
def fileState (path : Path) : IO FileState := do
  try
    return .bytes (← IO.FS.readBinFile path.text).toList
  catch e => return stateOfError e

/-- The entries of the journal that are important enough, as lines. -/
def journalLines (least : Level) (events : List Event) : List String :=
  (Traced.notices events).filterMap fun n =>
    if rank least ≤ rank n.level then
      some s!"{n.level.text} {n.origin}: {(n.text.toString?).getD n.origin}"
    else none
where
  rank : Level → Nat
    | .debug => 0
    | .info => 1
    | .warning => 2

/-- What is said about a fault, and the status that the program ends with. -/
def faultReport : Command.Fault → String × UInt32
  | .usage fault => (fault.message, 2)
  | .failed failure => ((failure.message.toString?).getD "", 1)
  | .badMarkup fault => (fault.message, 1)

/-- What is said about a server: none is built into this program. -/
def serverReport : Server → String
  | .requests host port _ => s!"{Server.title}: nothing can listen on {host}:{port} here"
  | .toolsOnStandardIO => "Tools: nothing can listen on the standard input here"
  | .tools transport host port => s!"Tools ({transport.text}): nothing can listen on {host}:{port} here"

/-- Write out how a command ended, and say with which status. -/
def finish (ended : Except Command.Fault Command.Outcome) : IO UInt32 := do
  match ended with
  | .ok outcome =>
    IO.print outcome.output
    IO.eprint outcome.diagnostics
    for server in outcome.served do
      IO.eprintln (serverReport server)
    return if outcome.served.isEmpty then outcome.status.toUInt32 else 1
  | .error fault =>
    let (message, status) := faultReport fault
    unless message.isEmpty do IO.eprintln message
    return status

/-- Run the plan that some words amount to. -/
def execute (words : List String) : IO UInt32 := do
  let plan := Plan.ofWords words
  match plan.command with
  | .error fault => finish (.error (.usage fault))
  | .ok command =>
    let found ← match command.path? with
      | some path => fileState path
      | none => pure .missing
    let ran := command.run Host.standard (← environment) fun _ => found
    for line in journalLines (plan.journal.getD .warning) ran.events do
      IO.eprintln line
    finish ran.value

end Enclosure.Program

/-- Find the construct around some lines of a file, or check the file, as the words ask. -/
def main (words : List String) : IO UInt32 := Enclosure.Program.execute words
