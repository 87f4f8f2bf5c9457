import Enclosure.Encoding.Detect
import Enclosure.Json.Read
import Enclosure.Service.Query

/-!
# The questions over HTTP

Three addresses: one says that the service is alive, the other two take a question as a document.
Every request has a session of its own, made from the environment as it is at that time.

What is here:

* `Http.Request`, `Http.Response`.
* `Http.Route`: what an address stands for.
* `Http.BodyFault`: what can be wrong with the document of a request.
* `Http.answer`: the response to a request.
-/

set_option autoImplicit false

namespace Enclosure.Http

/-- A request. -/
structure Request where
  method : String
  path : String
  contentType : String
  body : Bytes

/-- A response. -/
structure Response where
  status : Nat
  body : Json

/-- What an address stands for. -/
inductive Route where
  | alive
  | search
  | check
deriving Repr, DecidableEq

namespace Route

/-- The address of a route. -/
def path : Route → String
  | alive => "/health"
  | search => "/context/enclosing"
  | check => "/context/validate"

/-- The method that a route takes. -/
def method : Route → String
  | alive => "GET"
  | search => "POST"
  | check => "POST"

/-- An address without what follows it and without slashes at its end. -/
def bare (path : String) : String :=
  let cs := path.toList.takeWhile fun c => c != '?' && c != '#'
  String.ofList ('/' :: ((cs.dropWhile (· == '/')).reverse.dropWhile (· == '/')).reverse)

/-- The route of an address. -/
def ofPath? (path : String) : Option Route :=
  [alive, search, check].find? fun r => r.path == bare path

end Route

/-- What can be wrong with the document of a request. -/
inductive BodyFault where
  /-- There is none. -/
  | empty
  /-- It is not well formed, for a reason, at a place. -/
  | malformed (reason : String) (place : Nat)
  /-- It cannot be read at all. -/
  | unreadable
  /-- Its fields are not what they should be. -/
  | faulty (faults : List Fault)

/-- A response that says what is wrong. -/
def complaint (status : Nat) (detail : Json) : Response := ⟨status, .record [("detail", detail)]⟩

/-- A response that says what is wrong in words. -/
def refusal (status : Nat) (detail : String) : Response := complaint status (.ofString detail)

/-- A step inside a document as a value. -/
def ofPlace : Place → Json
  | .field name => .ofString name
  | .item index => .int index

/-- What belongs to the explanation of a flaw. -/
def flawDetails : Flaw → List (String × Json)
  | .belowOne => [("ctx", .record [("ge", .int 1)])]
  | .notMode => [("ctx", .record [("expected", .ofString "'largest' or 'smallest'")])]
  | _ => []

/-- A fault as a value. -/
def ofFault (f : Fault) : Json :=
  .record ([("type", .ofString f.flaw.code),
    ("loc", .array (.ofString "body" :: f.path.map ofPlace)),
    ("msg", .ofString f.flaw.message), ("input", f.input)] ++ flawDetails f.flaw)

/-- The response to a document with a fault. -/
def BodyFault.response : BodyFault → Response
  | empty => complaint 422 (.array [ofFault ⟨[], .missing, .null⟩])
  | malformed reason place =>
    complaint 422 (.array [.record [("type", .ofString "json_invalid"),
      ("loc", .array [.ofString "body", .int place]), ("msg", .ofString "JSON decode error"),
      ("input", .object []), ("ctx", .record [("error", .ofString reason)])]])
  | unreadable => refusal 400 "There was an error parsing the body"
  | faulty faults => complaint 422 (.array (faults.map ofFault))

/-- Whether a content type promises a JSON document. -/
def isJson (contentType : String) : Bool :=
  let kind := (Text.trimChars (contentType.toList.takeWhile (· != ';'))).map Char.toLower
  match kind.splitOn '/' with
  | [range, sub] =>
    range == "application".toList && (sub == "json".toList || "+json".toList.isSuffixOf sub)
  | _ => false

/-- The document of a request; one of another type is a text. -/
def Request.document (r : Request) : Except BodyFault Json :=
  if r.body.isEmpty then .error .empty
  else if isJson r.contentType then
    match decodeAny r.body with
    | .error _ => .error .unreadable
    | .ok text =>
      match Json.read text with
      | .ok v => .ok v
      | .error (.malformed reason place) => .error (.malformed reason place)
      | .error _ => .error .unreadable
  else
    match Utf8.decode false r.body with
    | .ok text => .ok (.text text)
    | .error _ => .error .unreadable

/-- A question from the document of a request. -/
def Request.question {α : Type} (r : Request) (read : Json → Checked α) : Except BodyFault α :=
  match r.document with
  | .error fault => .error fault
  | .ok (.object ms) => (read (.object ms)).mapError .faulty
  | .ok v => .error (.faulty [⟨[], .notRecord, v⟩])

/-- Lines are counted from one. -/
def form : Form := ⟨Field.line, .missing, false⟩

/-- The response to a search. -/
def answerSearch (host : Host) (environment : Environment) (q : Query) :
    Traced (Except Failure Response) :=
  match q.session? environment with
  | .error fault => pure (.ok (refusal 400 fault.message))
  | .ok s =>
    (s.search host q).onValue fun p =>
      p.1.map fun c => ⟨200, .record [("enclosing_context", .ofContext c)]⟩

/-- The response to a check. -/
def answerCheck (host : Host) (environment : Environment) (p : Probe) :
    Traced (Except Failure Response) :=
  match p.session? environment with
  | .error fault => pure (.ok (refusal 400 fault.message))
  | .ok s => (s.probe host p).onValue fun r => r.1.map fun v => ⟨200, v.toJson⟩

/-- The response to a request. -/
def answer (host : Host) (environment : Environment) (r : Request) :
    Traced (Except Failure Response) :=
  match Route.ofPath? r.path with
  | none => pure (.ok (refusal 404 "Not Found"))
  | some route =>
    if r.method ≠ route.method then pure (.ok (refusal 405 "Method Not Allowed"))
    else
      match route with
      | .alive => pure (.ok ⟨200, .record [("status", .ofString "ok")]⟩)
      | .search =>
        match r.question (Query.ofJson form) with
        | .error fault => pure (.ok fault.response)
        | .ok q => answerSearch host environment q
      | .check =>
        match r.question (Probe.ofJson form) with
        | .error fault => pure (.ok fault.response)
        | .ok p => answerCheck host environment p

end Enclosure.Http
