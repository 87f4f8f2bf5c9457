/-!
# Paths

What is here:

* `Path`: the way to a file, in steps.
* `Path.ofText`, `Path.text`: reading and writing a path.
* `Path.suffix`: what the name of a file ends with.
-/

set_option autoImplicit false

namespace Enclosure

/-- The way to a file: where it starts, and its steps, none of which leads nowhere. -/
structure Path where
  root : String
  steps : List String
deriving Repr, DecidableEq

namespace Path

/-- Where a path with so many slashes in front starts; two slashes are a place of their own. -/
def rootOf (slashes : Nat) : String :=
  if slashes = 0 then "" else if slashes = 2 then "//" else "/"

/-- The path that a text denotes. -/
def ofText (s : String) : Path :=
  { root := rootOf (s.toList.takeWhile (· == '/')).length
    steps := ((s.toList.splitOn '/').map String.ofList).filter fun step =>
      step ≠ "" && step ≠ "." }

/-- A path as a text. -/
def text (p : Path) : String :=
  if p.root = "" ∧ p.steps = [] then "." else p.root ++ "/".intercalate p.steps

/-- The name of a file is the last step to it. -/
def name (p : Path) : String := p.steps.getLast?.getD ""

/-- What a name ends with: its last dot and what follows it, unless the dot comes first or last. -/
def suffixOf (name : List Char) : List Char :=
  let ending := (name.reverse.takeWhile (· != '.')).reverse
  let dot := name.length - ending.length - 1
  if ending.length < name.length ∧ 0 < dot ∧ ending ≠ [] then '.' :: ending else []

/-- What the name of a file ends with. -/
def suffix (p : Path) : String := String.ofList (suffixOf p.name.toList)

end Path
end Enclosure
