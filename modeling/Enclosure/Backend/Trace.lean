import Enclosure.Backend.Failure
import Enclosure.Backend.Launch

/-!
# What happens on the way

A search does more than answer: it writes notices, it asks its back end, and a back end may start
programs or hand a text on.  All this is kept beside the answer, in the order in which it happens.

What is here:

* `Notice`: an entry of the journal, with its level, its origin and its text.
* `Event`: one thing that happens.
* `Traced`: a value with everything that happened before it was there.
-/

set_option autoImplicit false

namespace Enclosure

/-- How important a notice is. -/
inductive Level where
  | debug
  | info
  | warning
deriving Repr, DecidableEq

/-- The word for a level. -/
def Level.text : Level → String
  | debug => "DEBUG"
  | info => "INFO"
  | warning => "WARNING"

/-- An entry of the journal. -/
inductive Notice where
  /-- A program is about to read a text of so many characters. -/
  | reading (characters : Nat) (program : String)
  /-- A search found nothing because its back end failed. -/
  | searchFailed (backend : String) (cause : Codes)
  /-- A check could not use its back end. -/
  | checkFailed (backend : String) (cause : Codes)
  /-- A search found nothing because there is no back end. -/
  | unbuilt (cause : Codes)
  /-- A server for requests over HTTP is about to start. -/
  | servingRequests (backend : String) (mode : String)
  /-- A server for tools is about to start. -/
  | servingTools (transport backend : String)
deriving Repr, DecidableEq

namespace Notice

/-- How important the notice is. -/
def level : Notice → Level
  | reading _ _ => .debug
  | searchFailed _ _ => .warning
  | checkFailed _ _ => .warning
  | unbuilt _ => .warning
  | servingRequests _ _ => .info
  | servingTools _ _ => .info

/-- Which part of the program wrote the notice. -/
def origin : Notice → String
  | reading _ _ => "backends.interpreter"
  | searchFailed _ _ => "core.finder"
  | checkFailed _ _ => "core.validator"
  | unbuilt _ => "parsers.python"
  | servingRequests _ _ => "cli.serve"
  | servingTools _ _ => "cli.serve"

/-- The notice in words. -/
def text : Notice → Codes
  | reading n program => Codes.ofString s!"Parsing {n} characters with {program}"
  | searchFailed backend cause =>
    Codes.ofString s!"Error parsing Python file with {backend} backend: " ++ cause
  | checkFailed backend cause =>
    Codes.ofString s!"{backend} backend could not be invoked: " ++ cause
  | unbuilt cause => Codes.ofString "Error parsing Python file: " ++ cause
  | servingRequests backend mode =>
    Codes.ofString s!"API server using {backend} backend in {mode} mode"
  | servingTools transport backend =>
    Codes.ofString s!"MCP server using {transport} transport and {backend} backend"

end Notice

/-- One thing that happens. -/
inductive Event where
  /-- A back end is asked for the nodes of a text. -/
  | asked
  /-- A notice is written. -/
  | noted (notice : Notice)
  /-- A program is started. -/
  | launched (launch : Launch)
  /-- A text is handed to the reader of concrete trees. -/
  | handed (text : List Char)
deriving DecidableEq

/-- A value with everything that happened before it was there. -/
structure Traced (α : Type) where
  value : α
  events : List Event := []

namespace Traced

variable {α β : Type}

/-- Go on with a value. -/
def andThen (a : Traced α) (f : α → Traced β) : Traced β :=
  let b := f a.value
  ⟨b.value, a.events ++ b.events⟩

instance : Monad Traced where
  pure x := ⟨x, []⟩
  bind := andThen

/-- Apply a function to the value. -/
def onValue (f : α → β) (a : Traced α) : Traced β := ⟨f a.value, a.events⟩

/-- Write a notice. -/
def note (n : Notice) : Traced Unit := ⟨(), [.noted n]⟩

/-- The notices among some events. -/
def notices (events : List Event) : List Notice :=
  events.filterMap fun
    | .noted n => some n
    | _ => none

/-- How often a back end is asked. -/
def questions (events : List Event) : Nat := events.countP (· = .asked)

@[simp] theorem value_pure (x : α) : (pure x : Traced α).value = x := rfl

@[simp] theorem events_pure (x : α) : (pure x : Traced α).events = [] := rfl

@[simp] theorem value_bind (a : Traced α) (f : α → Traced β) :
    (a >>= f).value = (f a.value).value := rfl

@[simp] theorem events_bind (a : Traced α) (f : α → Traced β) :
    (a >>= f).events = a.events ++ (f a.value).events := rfl

end Traced
end Enclosure
