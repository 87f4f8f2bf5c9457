import Enclosure.Backend.Abstract
import Enclosure.Backend.Report
import Enclosure.Json.Write

/-!
# The back end for another interpreter

The text is read by another program, which gets it as bytes and reports in a document of its own.
Surrogates survive the way there.

What is here:

* `Backend.interpreter`: the back end.
* `Abstract.report`: what the program writes for a tree, or for a fault.
-/

set_option autoImplicit false

namespace Enclosure

/-- The request to read a text. -/
def launchFor (program : String) (timeout : Option Seconds) (source : Codes) : Launch :=
  ⟨program, Utf8.encode source, timeout⟩

/-- The back end for another interpreter, around a way to start programs.  Its reader of documents
has room for so many levels. -/
def Backend.interpreter (start : Launch → Ending) (program : String) (timeout : Option Seconds)
    (levels : Nat := Json.maxNesting) : Backend where
  name := "interpreter"
  answer _ source := do
    Traced.note (.reading source.length program)
    let launch := launchFor program timeout source
    ⟨Report.ofEnding launch (start launch) levels, [.launched launch]⟩

namespace Abstract

/-- The row of a node. -/
def Label.row (l : Label) : Json := .array [.ofString l.kind, l.first, l.last, l.nameText]

/-- A fault with its message and its line. -/
def reportFault (message : Codes) (line : Json) : Json :=
  .record [("error", .text message), ("line", line)]

/-- The document that reports on a text. -/
def report : Except Fault Tree → Except (String × Codes) Json
  | .ok tree => .ok (.record [("nodes", .array ((Tree.visit [tree]).map Label.row))])
  | .error (.malformed message line) => .ok (reportFault message line)
  | .error (.unreadable message) =>
    .ok (reportFault (if message.isEmpty then Codes.ofString "ValueError" else message) .null)
  | .error (.tooDeep kind message) =>
    .ok (reportFault (if message.isEmpty then Codes.ofString kind else message) .null)
  | .error (.foreign kind message) => .error (kind, message)

/-- How a program that reads texts ends. -/
def reportEnding (read : Codes → Except Fault Tree) (input : Bytes) : Ending :=
  match Utf8.decode true input with
  | .error _ => .exited 1 [] []
  | .ok source =>
    match report (read source) with
    | .ok document => .exited 0 (Utf8.encode (Codes.ofString document.writeAscii)) []
    | .error (kind, message) =>
      .exited 1 [] (Utf8.encode (Codes.ofString s!"{kind}: " ++ message))

end Abstract
end Enclosure
