import Enclosure.Command.Usage
import Enclosure.Text.Similar

/-!
# Words of a command

The words of a command are options and arguments.  An option has a long name and perhaps a letter;
its value follows an equals sign, or directly the letter, or it is the next word, whatever that looks
like.  After a word of two dashes all words are arguments.

What is here:

* `Switch`: an option that is known.
* `Reading`: the options and the arguments among some words.
* `readWords`: the reading of some words.
-/

set_option autoImplicit false

namespace Enclosure.Command

/-- An option that is known. -/
structure Switch where
  name : String
  letter : Option Char := none
  takesValue : Bool := true
deriving Repr, DecidableEq

/-- How an option is shown. -/
def Switch.shown (s : Switch) : String :=
  match s.letter with
  | some c => "'" ++ s.name ++ "' / '-" ++ String.singleton c ++ "'"
  | none => "'" ++ s.name ++ "'"

/-- The options and the arguments among some words, in their order; an option without a value has an
empty one. -/
structure Reading where
  options : List (String × String) := []
  arguments : List String := []
deriving Repr, DecidableEq

namespace Reading

/-- The reading with some options in front. -/
def withOptions (options : List (String × String)) (r : Reading) : Reading :=
  { r with options := options ++ r.options }

/-- The reading with an argument in front. -/
def withArgument (word : String) (r : Reading) : Reading :=
  { r with arguments := word :: r.arguments }

/-- The values of an option. -/
def values (r : Reading) (name : String) : List String :=
  (r.options.filter fun o => o.1 = name).map Prod.snd

/-- The value of an option, the last one if there are several. -/
def value? (r : Reading) (name : String) : Option String := (r.values name).getLast?

/-- Whether an option is there. -/
def has (r : Reading) (name : String) : Bool := r.options.any fun o => o.1 == name

end Reading

/-- The options of one word, and whether the next word is the value of the last one. -/
abbrev WordReading := Except UsageFault (List (String × String) × Bool)

/-- An option whose value can only be the next word. -/
def fromNext (s : Switch) (shown : String) (next : Option String) : WordReading :=
  match next with
  | some value => .ok ([(s.name, value)], true)
  | none => .error (.needsValue shown)

/-- The options that the letters of a word stand for. -/
def readLetters (known : List Switch) (next : Option String) : List Char → WordReading
  | [] => .ok ([], false)
  | c :: cs =>
    let shown := "-" ++ String.singleton c
    match known.find? fun s => s.letter == some c with
    | none => .error (.noSuchOption shown [])
    | some s =>
      if s.takesValue then
        if cs.isEmpty then fromNext s shown next
        else .ok ([(s.name, String.ofList cs)], false)
      else (readLetters known next cs).map fun r => ((s.name, "") :: r.1, r.2)

/-- A word in front of its first equals sign, and what follows it. -/
def splitValue (word : String) : String × Option String :=
  let cs := word.toList
  let name := cs.takeWhile (· != '=')
  (String.ofList name,
    if name.length < cs.length then some (String.ofList (cs.drop (name.length + 1))) else none)

/-- The options of a word that starts with a dash. -/
def readWord (known : List Switch) (word : String) (next : Option String) : WordReading :=
  let (name, value) := splitValue word
  match known.find? fun s => s.name == name with
  | some s =>
    match s.takesValue, value with
    | true, some v => .ok ([(s.name, v)], false)
    | true, none => fromNext s name next
    | false, some _ => .error (.takesNoValue name)
    | false, none => .ok ([(s.name, "")], false)
  | none =>
    if "--".isPrefixOf word then
      .error (.noSuchOption name (Text.similar name (known.map Switch.name)))
    else readLetters known next (word.toList.drop 1)

/-- Whether a word is read as options. -/
def isOption (word : String) : Bool := "-".isPrefixOf word && word ≠ "-"

/-- The reading of some words; unless options may stand between arguments, everything from the first
argument on is an argument. -/
def readWords (known : List Switch) (mixed : Bool) : List String → Except UsageFault Reading
  | [] => .ok {}
  | word :: rest =>
    if word = "--" then .ok { arguments := rest }
    else if isOption word then
      match readWord known word rest.head? with
      | .error fault => .error fault
      | .ok (options, false) => (readWords known mixed rest).map (·.withOptions options)
      | .ok (options, true) => (readWords known mixed rest.tail).map (·.withOptions options)
    else if mixed then (readWords known mixed rest).map (·.withArgument word)
    else .ok { arguments := word :: rest }
termination_by words => words.length
decreasing_by
  all_goals simp only [List.length_cons, List.length_tail]; omega

end Enclosure.Command
