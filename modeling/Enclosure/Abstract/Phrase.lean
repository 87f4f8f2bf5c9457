/-!
# Phrases

A phrase is a piece of abstract syntax while it is being put together: the kind of the construct,
the lines it covers, one word, and its parts in the order in which a construct of this kind lists
them.  The word is the identifier of a name, the name a definition or an alias introduces, or the
sort of a constant.

What is here:

* `Phrase`, with `Phrase.kind`, `Phrase.lines`, `Phrase.word` and `Phrase.parts`.
* `Phrase.withContext`: the same phrase as something that is assigned to or deleted.
* `Phrase.describe`: what a diagnosis calls a phrase.
* `Phrase.firstBadTarget?`: the part of a phrase that cannot be assigned to.
-/

set_option autoImplicit false

namespace Enclosure

/-- A piece of abstract syntax. -/
inductive Phrase where
  | mk (kind : String) (lines : Option (Nat × Nat)) (word : String) (parts : List Phrase)
deriving Inhabited

namespace Phrase

/-- The kind of construct. -/
def kind : Phrase → String
  | mk k _ _ _ => k

/-- The first and the last line, for the kinds that have a place in the text. -/
def lines : Phrase → Option (Nat × Nat)
  | mk _ l _ _ => l

/-- The first line, or zero for a kind without a place in the text. -/
def firstLine (p : Phrase) : Nat := (p.lines.map Prod.fst).getD 0

/-- The word that belongs to the phrase. -/
def word : Phrase → String
  | mk _ _ w _ => w

/-- The parts in order. -/
def parts : Phrase → List Phrase
  | mk _ _ _ ps => ps

/-- A phrase without a place, a word or parts, such as an operator. -/
def mark (kind : String) : Phrase := mk kind none "" []

/-- The same kind, word and place with other parts. -/
def withParts (p : Phrase) (ps : List Phrase) : Phrase := mk p.kind p.lines p.word ps

/-- Whether the last part of phrases of this kind says if they are read, assigned or deleted. -/
def hasContext (kind : String) : Bool :=
  kind == "Name" || kind == "Tuple" || kind == "List" || kind == "Starred" ||
    kind == "Subscript" || kind == "Attribute"

mutual

/-- The phrase in another use: `Load`, `Store` or `Del`.  Sequences and starred phrases pass the use
on to their elements. -/
def withContext (use : String) : Phrase → Phrase
  | mk k l w ps =>
    if k == "Tuple" || k == "List" || k == "Starred" then mk k l w (elementsWithContext use ps)
    else if hasContext k then mk k l w (lastPart use ps)
    else mk k l w ps

/-- The parts of a sequence, the last of which is its own use. -/
def elementsWithContext (use : String) : List Phrase → List Phrase
  | [] => []
  | [_] => [mark use]
  | p :: q :: ps => withContext use p :: elementsWithContext use (q :: ps)

/-- The parts with the last one replaced by the use. -/
def lastPart (use : String) : List Phrase → List Phrase
  | [] => []
  | [_] => [mark use]
  | p :: q :: ps => p :: lastPart use (q :: ps)

end

/-- What a diagnosis calls the phrase. -/
def describe (p : Phrase) : String :=
  match p.kind with
  | "Attribute" => "attribute"
  | "Subscript" => "subscript"
  | "Starred" => "starred"
  | "Name" => "name"
  | "List" => "list"
  | "Tuple" => "tuple"
  | "Lambda" => "lambda"
  | "Call" => "function call"
  | "BoolOp" | "BinOp" | "UnaryOp" => "expression"
  | "GeneratorExp" => "generator expression"
  | "Yield" | "YieldFrom" => "yield expression"
  | "Await" => "await expression"
  | "ListComp" => "list comprehension"
  | "SetComp" => "set comprehension"
  | "DictComp" => "dict comprehension"
  | "Dict" => "dict literal"
  | "Set" => "set display"
  | "JoinedStr" | "FormattedValue" => "f-string expression"
  | "Constant" => if p.word == "" then "literal" else p.word
  | "Compare" => "comparison"
  | "IfExp" => "conditional expression"
  | "NamedExpr" => "named expression"
  | k => k

/-- The statements that assign, delete or loop differ in what they can have as a target. -/
inductive TargetUse where
  | assigned | deleted | looped
deriving DecidableEq

mutual

/-- The first part of the phrase that cannot stand where a target is needed.  In the head of a loop
`a in b` reads as a comparison, of which the left side is the target. -/
def firstBadTarget? (use : TargetUse) : Phrase → Option Phrase
  | mk k l w ps =>
    if k == "List" || k == "Tuple" then firstBadElement? use ps
    else if k == "Starred" then
      if use = .deleted then some (mk k l w ps) else firstBadOfHead? use ps
    else if k == "Compare" then
      if use = .looped then
        match ps with
        | [] => none
        | q :: qs =>
          if (qs.head?.map Phrase.kind) == some "In" then firstBadTarget? use q else none
      else some (mk k l w ps)
    else if k == "Name" || k == "Subscript" || k == "Attribute" then none
    else some (mk k l w ps)

/-- The first bad target among the elements of a sequence, whose last part is its use. -/
def firstBadElement? (use : TargetUse) : List Phrase → Option Phrase
  | [] => none
  | [_] => none
  | p :: q :: ps => (firstBadTarget? use p).orElse fun _ => firstBadElement? use (q :: ps)

/-- The first bad target in the first of some phrases. -/
def firstBadOfHead? (use : TargetUse) : List Phrase → Option Phrase
  | [] => none
  | p :: _ => firstBadTarget? use p

end

end Phrase
end Enclosure
