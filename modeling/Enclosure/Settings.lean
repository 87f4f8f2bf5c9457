import Enclosure.Backend.Launch
import Enclosure.Node.Select
import Enclosure.Number.Literal
import Enclosure.Text.Lower

/-!
# Settings

Four variables of the environment say which back end is used, what a search prefers, which program
reads texts and how long it may take.  White space around a value does not count, and a blank value
counts as none.

What is here:

* `Environment`: the four variables.
* `BackendKind.ofName?`: the back end that a name stands for.
* `Settings`: what the variables amount to.
* `Settings.ofEnvironment`: the settings, or what is wrong with a variable.
-/

set_option autoImplicit false

namespace Enclosure

/-- The three back ends. -/
inductive BackendKind where
  | abstract
  | interpreter
  | concrete
deriving Repr, DecidableEq, Inhabited

namespace BackendKind

/-- The name of a back end. -/
def text : BackendKind → String
  | abstract => "ast"
  | interpreter => "interpreter"
  | concrete => "tree-sitter"

/-- All names that are understood. -/
def aliases : List (String × BackendKind) :=
  [("ast", abstract), ("native", abstract), ("interpreter", interpreter),
    ("subprocess", interpreter), ("tree-sitter", concrete), ("treesitter", concrete),
    ("ts", concrete)]

/-- The back end that a name stands for; neither case nor white space around the name counts. -/
def ofName? (name : String) : Option BackendKind := aliases.lookup (Text.lower (Text.trim name))

end BackendKind

/-- What can be wrong with a configuration. -/
inductive ConfigFault where
  | unknownMode (word : String)
  | timeoutNotNumber (word : String)
  | timeoutNotPositive (word : String)
  | unknownBackend (name : String)
deriving Repr, DecidableEq

/-- What is wrong, in words. -/
def ConfigFault.message : ConfigFault → String
  | unknownMode word =>
    s!"Invalid ENCLOSING_CONTEXT_MODE '{word}'. Expected one of: ['largest', 'smallest']"
  | timeoutNotNumber word => s!"Invalid ENCLOSING_CONTEXT_TIMEOUT '{word}': not a number"
  | timeoutNotPositive word => s!"Invalid ENCLOSING_CONTEXT_TIMEOUT '{word}': must be positive"
  | unknownBackend name =>
    s!"Unsupported backend '{name}'. Supported: ['ast', 'interpreter', 'tree-sitter']"

/-- The back end that a name stands for, or a complaint. -/
def BackendKind.ofName (name : String) : Except ConfigFault BackendKind :=
  match ofName? name with
  | some kind => .ok kind
  | none => .error (.unknownBackend name)

/-- The variables that matter. -/
structure Environment where
  backend : Option String := none
  mode : Option String := none
  program : Option String := none
  timeout : Option String := none
deriving Repr, DecidableEq, Inhabited

/-- The program that reads texts if no other one is named. -/
def defaultProgram : String := "<python>"

/-- What the variables amount to. -/
structure Settings where
  backend : String := "ast"
  mode : Mode := .largest
  program : String := defaultProgram
  timeout : Option Seconds := none
deriving Repr, DecidableEq

namespace Settings

/-- The value of a variable without the white space around it. -/
def value (raw : Option String) : String := Text.trim (raw.getD "")

/-- The value of a variable, or something else if it is blank. -/
def valueOr (raw : Option String) (default : String) : String :=
  if value raw = "" then default else value raw

/-- The mode that a variable asks for. -/
def modeOf (raw : Option String) : Except ConfigFault Mode :=
  let word := Text.lower (value raw)
  if word = "" then .ok .largest
  else
    match Mode.ofText? word with
    | some mode => .ok mode
    | none => .error (.unknownMode word)

/-- The time limit that a variable asks for. -/
def timeoutOf (raw : Option String) : Except ConfigFault (Option Seconds) :=
  let word := value raw
  if word = "" then .ok none
  else
    match Binary64.ofText? word with
    | none => .error (.timeoutNotNumber word)
    | some x =>
      if x.isAtMostZero then .error (.timeoutNotPositive word) else .ok (some (.real x))

/-- The settings, or what is wrong with a variable. -/
def ofEnvironment (e : Environment) : Except ConfigFault Settings :=
  match modeOf e.mode with
  | .error fault => .error fault
  | .ok mode =>
    match timeoutOf e.timeout with
    | .error fault => .error fault
    | .ok timeout =>
      .ok
        { backend := valueOr e.backend "ast"
          mode := mode
          program := valueOr e.program defaultProgram
          timeout := timeout }

end Settings
end Enclosure
