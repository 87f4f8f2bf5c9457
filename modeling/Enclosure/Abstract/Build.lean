import Enclosure.Abstract.Rule
import Enclosure.Text.Compatible

/-!
# What alternatives make of their items

The actions of the abstract grammar are put together from a few pieces: take the value of one item,
or make a phrase whose parts are the phrases of some items in a given order, or object.

What is here:

* `pick`, `node`, `bare`, `worded`: actions that yield a value.
* `objectAt`, `objectHere`: actions that report a mistake.
* `tok`, `alt`, `mistake`, `rule`, `kept`, `leftRec`: short forms for the parts of a rule.
-/

set_option autoImplicit false

namespace Enclosure.Abstract

/-- The value of the `i`-th item. -/
def arg (vs : List Value) (i : Nat) : Value := vs[i]?.getD .nothing

/-- The phrases of some items in the given order. -/
def partsOf (vs : List Value) (is : List Nat) : List Phrase :=
  is.flatMap fun i => (arg vs i).phrases

/-- The word of a value: the identifier of a name token in its compatible form, or the word of a
phrase. -/
def wordOf : Value → String
  | .token t => if t.sort == "NAME" then Text.compatible t.text else t.text
  | .phrase p => p.word
  | _ => ""

/-- A phrase with a place in the text. -/
def Site.phrase (s : Site) (kind word : String) (parts : List Phrase) : Phrase :=
  .mk kind (some (s.first, s.last)) word parts

/-- Yield a value. -/
def yields (v : Value) : Except Refusal (Option Value) := .ok (some v)

/-- The value of the `i`-th item. -/
def pick (i : Nat) : Action := fun _ vs => yields (arg vs i)

/-- All values together. -/
def together : Action := fun _ vs => yields (.many vs)

/-- A phrase made of the phrases of some items. -/
def node (kind : String) (is : List Nat) : Action := fun s vs =>
  yields (.phrase (Site.phrase s kind "" (partsOf vs is)))

/-- A phrase that has no place of its own. -/
def bare (kind : String) (is : List Nat) : Action := fun _ vs =>
  yields (.phrase (.mk kind none "" (partsOf vs is)))

/-- A phrase with a word of its own, taken from an item. -/
def worded (kind : String) (word : Nat) (is : List Nat) : Action := fun s vs =>
  yields (.phrase (Site.phrase s kind (wordOf (arg vs word)) (partsOf vs is)))

/-- A phrase whose last part says how it is used. -/
def used (kind use : String) (is : List Nat) : Action := fun s vs =>
  yields (.phrase (Site.phrase s kind "" (partsOf vs is ++ [Phrase.mark use])))

/-- The name that a name token stands for, in the given use. -/
def nameOf (use : String) : Value → Phrase
  | .token t => .mk "Name" (some (t.line, t.lastLine)) (Text.compatible t.text) [Phrase.mark use]
  | v => ((v.phrases.head?).map (Phrase.withContext use)).getD (Phrase.mark "Name")

/-- A name in the given use, from the `i`-th item. -/
def asName (i : Nat) (use : String) : Action := fun _ vs =>
  yields (.phrase (nameOf use (arg vs i)))

/-- The phrase of the `i`-th item in the given use. -/
def inUse (i : Nat) (use : String) : Action := fun _ vs =>
  match (arg vs i).phrases.head? with
  | some p => yields (.phrase (p.withContext use))
  | none => .ok none

/-- A constant of the given sort. -/
def constant (sort : String) : Action := fun s _ =>
  yields (.phrase (Site.phrase s "Constant" sort []))

/-- Report a mistake for the line of the `i`-th item. -/
def objectAt (i : Nat) (message : String) : Action := fun _ vs =>
  object (arg vs i).line message

/-- Report a mistake for the furthest line looked at. -/
def objectHere (message : String) : Action := fun s _ =>
  object s.reached message

/-- Report a block that is missing after the head that the `i`-th item starts. -/
def missingBlock (what : String) (i : Nat) : Action := fun s vs =>
  object s.reached s!"expected an indented block after {what} on line {(arg vs i).line}"

/-- Report the first part of the `i`-th item that is no target; without one there is no value. -/
def objectToTarget (i : Nat) (use : Phrase.TargetUse) : Action := fun _ vs =>
  match (arg vs i).phrases.head? with
  | none => .ok none
  | some p =>
    match p.firstBadTarget? use with
    | none => .ok none
    | some bad =>
      let verb := if use = .deleted then "delete" else "assign to"
      object bad.firstLine s!"cannot {verb} {bad.describe}"

/-- A token of a class, or with a spelling. -/
def tok (sort : String) : Item Rule := .tok sort

/-- An alternative. -/
def alt (items : List (Item Rule)) (action : Action) : Alternative Rule := .mk items action false

/-- An alternative that is only tried to describe a mistake. -/
def mistake (items : List (Item Rule)) (action : Action := pick 0) : Alternative Rule :=
  .mk items action true

/-- An alternative of one item, with its value. -/
def just (i : Item Rule) : Alternative Rule := alt [i] (pick 0)

/-- One of several items. -/
def oneOf (is : List (Item Rule)) : Item Rule := .group (is.map just)

/-- Items of which the `i`-th has the value. -/
def seq (items : List (Item Rule)) (i : Nat) : Item Rule := .group [alt items (pick i)]

/-- A rule with its alternatives. -/
def rule (alternatives : List (Alternative Rule)) : RuleBody Rule := { alternatives }

/-- A rule whose outcomes are kept. -/
def kept (alternatives : List (Alternative Rule)) : RuleBody Rule := { alternatives, kept := true }

/-- A rule that may start with itself. -/
def leftRec (alternatives : List (Alternative Rule)) : RuleBody Rule :=
  { alternatives, leftRecursive := true }

end Enclosure.Abstract
