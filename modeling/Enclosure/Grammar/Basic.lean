import Enclosure.Token.Basic
import Enclosure.Abstract.Phrase

/-!
# Grammars of ordered choice

A grammar gives each of its rules a list of alternatives.  The first alternative that fits is taken
for good: there is no going back into a rule that has succeeded.  An alternative is a list of items
with an action that turns what the items found into the value of the rule.

Some alternatives only describe mistakes.  They are left out at first; a text that no ordinary
alternative accepts is read again with them, to say what is wrong with it.

What is here:

* `Value`: what a part of a rule yields.
* `Complaint` and `Refusal`: a mistake with the line it is reported for, and why a text is refused.
* `Site` and `Action`: what an alternative knows when it has fitted, and what it makes of it.
* `Item`, `Alternative`, `RuleBody` and `Grammar`.
-/

set_option autoImplicit false

namespace Enclosure

/-- What a part of a rule yields. -/
inductive Value where
  | nothing
  | token (t : Token)
  | phrase (p : Phrase)
  | many (vs : List Value)
deriving Inhabited

namespace Value

mutual

/-- The phrases in a value, in order. -/
def phrases : Value → List Phrase
  | nothing => []
  | token _ => []
  | phrase p => [p]
  | many vs => phrasesOf vs

/-- The phrases in some values, in order. -/
def phrasesOf : List Value → List Phrase
  | [] => []
  | v :: vs => v.phrases ++ phrasesOf vs

end

/-- The values a value consists of. -/
def items : Value → List Value
  | nothing => []
  | many vs => vs
  | v => [v]

/-- The `i`-th of the values it consists of. -/
def item (v : Value) (i : Nat) : Value := v.items[i]?.getD .nothing

/-- Whether there is a value at all. -/
def isSome : Value → Bool
  | nothing => false
  | _ => true

/-- The line a value starts on. -/
def line : Value → Nat
  | nothing => 0
  | token t => t.line
  | phrase p => p.firstLine
  | many vs => match vs.head? with
    | some (token t) => t.line
    | some (phrase p) => p.firstLine
    | _ => 0

end Value

/-- A mistake in a text.  A settled mistake keeps its wording when the text is part of another one. -/
structure Complaint where
  message : String
  line : Nat
  settled : Bool := false
deriving Inhabited, Repr, DecidableEq

/-- Why a text is refused. -/
inductive Refusal where
  /-- It contains a mistake. -/
  | mistake (c : Complaint)
  /-- Its constructs nest too deep for the grammar. -/
  | tooDeep

/-- Refuse a text for a mistake in the given line. -/
def object {α : Type} (line : Nat) (message : String) : Except Refusal α :=
  .error (.mistake { message := message, line := line })

/-- What an alternative knows when its items have fitted. -/
structure Site where
  /-- The line the rule started on. -/
  first : Nat
  /-- The last line of the last token of the rule that is not layout. -/
  last : Nat
  /-- How many brackets are open after the last token of the rule. -/
  depth : Nat
  /-- The line of the furthest token looked at so far. -/
  reached : Nat
  /-- How to read an expression that stands inside a string literal: its characters, with the line
  it starts on. -/
  embedded : List Char → Nat → Except Refusal Phrase

/-- What an alternative makes of the values of its items.  Without a value the whole rule fails. -/
abbrev Action := Site → List Value → Except Refusal (Option Value)

mutual

/-- One item of an alternative. -/
inductive Item (ρ : Type) where
  /-- A token of a class, or with a spelling. -/
  | tok (sort : String)
  /-- A name that is spelled like a soft keyword. -/
  | soft (word : String)
  /-- A place where a rule fits. -/
  | rule (r : ρ)
  /-- Possibly nothing. -/
  | opt (i : Item ρ)
  /-- As often as it fits. -/
  | star (i : Item ρ)
  /-- At least once and as often as it fits. -/
  | plus (i : Item ρ)
  /-- At least once, with separators in between. -/
  | sep (separator element : Item ρ)
  /-- It would fit here. -/
  | ahead (i : Item ρ)
  /-- It would not fit here. -/
  | notAhead (i : Item ρ)
  /-- A token that must come here. -/
  | must (sort : String)
  /-- From here on no other alternative is tried. -/
  | cut
  /-- Some alternatives on the spot. -/
  | group (alternatives : List (Alternative ρ))

/-- Items in order, and what to make of them. -/
inductive Alternative (ρ : Type) where
  | mk (items : List (Item ρ)) (action : Action) (onlyMistakes : Bool)

end

/-- The alternatives of a rule, with what has to be known to try them. -/
structure RuleBody (ρ : Type) where
  alternatives : List (Alternative ρ)
  /-- The outcome at each place is kept. -/
  kept : Bool := false
  /-- The rule may start with itself. -/
  leftRecursive : Bool := false
  /-- Alternatives that describe mistakes are never tried inside. -/
  quiet : Bool := false

/-- The rules of a grammar. -/
structure Grammar (ρ : Type) where
  body : ρ → RuleBody ρ
  /-- Tells rules apart. -/
  number : ρ → Nat

end Enclosure
