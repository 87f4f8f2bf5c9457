import Enclosure.Backend.Basic
import Enclosure.Field.Record
import Enclosure.Json.Read
import Enclosure.Encoding.Detect
import Enclosure.Text.Blank

/-!
# Reports of another program

A program that reads a text reports on it with one document: a list of rows with the kind, the two
lines and the name of each node, or an error with a message and a line.  What cannot be understood
is a fault of the program and not of the text.

What is here:

* `Report.rowOf`: the node of one row.
* `Report.nodesOf`: the nodes of a document.
* `Report.ofEnding`: the nodes that a finished program reports.
-/

set_option autoImplicit false

namespace Enclosure.Report

/-- Why the nodes of a document are none. -/
abbrev Malformed := String

/-- The parts of a value that has parts: the items of a list, the characters of a text, the keys of
an object. -/
def partsOf? : Json → Option (List Json)
  | .array vs => some vs
  | .text s => some (s.map fun x => .text [x])
  | .object ms => some (ms.map fun m => .text m.1)
  | _ => none

/-- The node of a row, which has four parts. -/
def rowOf (row : Json) : Except Malformed Node :=
  match partsOf? row with
  | none => .error s!"cannot unpack non-iterable {row.shape} object"
  | some [kind, first, last, name] => (Node.check kind first last name).mapError faultsMessage
  | some parts =>
    if parts.length < 4 then
      .error s!"not enough values to unpack (expected 4, got {parts.length})"
    else .error "too many values to unpack (expected 4)"

/-- The nodes of rows; the first row that is none counts. -/
def rowsOf : List Json → Except Malformed (List Node)
  | [] => .ok []
  | row :: rows =>
    match rowOf row with
    | .error e => .error e
    | .ok n => (rowsOf rows).map (n :: ·)

/-- The nodes of a document that reports no error. -/
def nodesOf (document : Json) : Except Malformed (List Node) :=
  match document.get? "nodes" with
  | none => .error "'nodes'"
  | some v =>
    match partsOf? v with
    | none => .error s!"'{v.shape}' object is not iterable"
    | some rows => rowsOf rows

/-- A failure of the program itself. -/
def unavailable (message : String) : Failure := .unavailable (Codes.ofString message)

/-- What a document reports. -/
def ofDocument (program : String) (document : Json) : Except Failure (List Node) :=
  match document with
  | .object _ =>
    match document.get? "error" with
    | some e => .error (.unparsable e.display ((document.get? "line").getD .null))
    | none =>
      (nodesOf document).mapError fun e => unavailable s!"Malformed node list from {program}: {e}"
  | v => .error (unavailable s!"Unexpected output from {program}: {v.shape}")

/-- What the output of a program reports to a reader that has room for so many levels. -/
def ofOutput (program : String) (output : Bytes) (levels : Nat := Json.maxNesting) :
    Except Failure (List Node) :=
  match decodeAny output with
  | .error fault => .error (unavailable s!"Unreadable output from {program}: {fault.message}")
  | .ok text =>
    match Json.readWithin levels text with
    | .ok document => ofDocument program document
    | .error (.malformed reason place) =>
      let cause := (JsonFault.malformed reason place).message text
      .error (unavailable s!"Unreadable output from {program}: {cause}")
    | .error (.tooDeep what) =>
      .error (.foreign "RecursionError" (Codes.ofString ((JsonFault.tooDeep what).message text)))
    | .error (.tooLong digits) =>
      .error (.foreign "ValueError" (Codes.ofString ((JsonFault.tooLong digits).message text)))

/-- What a program reports by the way it ended. -/
def ofEnding (launch : Launch) (ending : Ending) (levels : Nat := Json.maxNesting) :
    Except Failure (List Node) :=
  let program := launch.program
  match ending with
  | .notFound => .error (unavailable s!"Python interpreter not found: {program}")
  | .timedOut =>
    let limit := (launch.timeout.map Seconds.text).getD "None"
    .error (unavailable s!"Python interpreter timed out after {limit}s")
  | .refused reason => .error (unavailable s!"Failed to start {program}: {reason}")
  | .failed kind message => .error (.foreign kind (Codes.ofString message))
  | .exited status output diagnostics =>
    if status = 0 then ofOutput program output levels
    else
      let said := String.ofList (Text.trimChars (Utf8.decodeReplacing diagnostics))
      .error (unavailable s!"{program} exited with status {status}: {said}")

end Enclosure.Report
