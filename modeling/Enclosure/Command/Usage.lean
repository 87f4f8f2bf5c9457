import Enclosure.Text.Quoted

/-!
# Wrong use of the command line

What is here:

* `UsageFault`: what can be wrong with the words of a command.
* `UsageFault.message`: the fault in words.
-/

set_option autoImplicit false

namespace Enclosure

/-- What can be wrong with the words of a command. -/
inductive UsageFault where
  /-- There are none, where help would be of use. -/
  | noWords
  /-- An option is not known; some that are known are similar. -/
  | noSuchOption (option : String) (similar : List String)
  /-- An option comes last and has no value. -/
  | needsValue (option : String)
  /-- An option has a value and takes none. -/
  | takesNoValue (option : String)
  /-- There are more words than are of use. -/
  | surplus (words : List String)
  /-- No command is named. -/
  | missingCommand
  /-- A command is not known; some that are known are similar. -/
  | noSuchCommand (name : String) (similar : List String)
  | missingArgument (name : String)
  /-- An option that is needed is not there; it is shown by its names. -/
  | missingOption (names : String)
  /-- A value cannot be used; it is shown where it belongs, if that is known. -/
  | badValue (place : Option String) (reason : String)
deriving Repr, DecidableEq

namespace UsageFault

/-- A fault in words. -/
def message : UsageFault → String
  | noWords => ""
  | noSuchOption option similar =>
    let base := s!"No such option: {option}"
    match similar with
    | [] => base
    | [one] => base ++ " Did you mean " ++ one ++ "?"
    | many =>
      let sorted := many.mergeSort fun a b => decide (a ≤ b)
      base ++ " (Possible options: " ++ ", ".intercalate sorted ++ ")"
  | needsValue option => s!"Option '{option}' requires an argument."
  | takesNoValue option => s!"Option '{option}' does not take a value."
  | surplus words =>
    let all := " ".intercalate words
    if words.length = 1 then s!"Got unexpected extra argument ({all})"
    else s!"Got unexpected extra arguments ({all})"
  | missingCommand => "Missing command."
  | noSuchCommand name similar =>
    let base := "No such command " ++ Text.quoted name ++ "."
    if similar.isEmpty then base
    else base ++ " Did you mean " ++ ", ".intercalate (similar.map Text.quoted) ++ "?"
  | missingArgument name => s!"Missing argument '{name}'."
  | missingOption names => s!"Missing option {names}."
  | badValue none reason => s!"Invalid value: {reason}"
  | badValue (some place) reason => s!"Invalid value for {place}: {reason}"

end UsageFault
end Enclosure
