/-!
# Similar words

How much two words have in common: take the longest run of characters that stands in both, and do the
same with what is left of it and with what is right of it.  A word that is not known can so be answered
with those that may have been meant.

What is here:

* `longestRun`: the longest run that stands in two words.
* `inCommon`: how many characters two words have in common.
* `Similarity`: how similar two words are.
* `similar`: the words that may have been meant.
-/

set_option autoImplicit false

namespace Enclosure.Text

/-- A run that stands in two words: where it starts in each, and how long it is. -/
structure Run where
  first : Nat
  second : Nat
  length : Nat
deriving Repr, DecidableEq

/-- How many characters two words start with in common. -/
def sharedStart : List Char → List Char → Nat
  | c :: cs, d :: ds => if c = d then sharedStart cs ds + 1 else 0
  | _, _ => 0

/-- The better of a run and the runs that start at a place of the first word. -/
def betterRun (a : List Char) (i : Nat) (best : Run) : Nat → List Char → Run
  | _, [] => best
  | j, d :: ds =>
    let n := sharedStart a (d :: ds)
    betterRun a i (if best.length < n then ⟨i, j, n⟩ else best) (j + 1) ds

/-- The better of a run and all runs that start at a place or after it. -/
def betterRuns (b : List Char) (best : Run) : Nat → List Char → Run
  | _, [] => best
  | i, c :: cs => betterRuns b (betterRun (c :: cs) i best 0 b) (i + 1) cs

/-- The longest run that stands in two words; of several the one that starts first in the first word,
and of those the one that starts first in the second. -/
def longestRun (a b : List Char) : Run := betterRuns b ⟨0, 0, 0⟩ 0 a

/-- How many characters two words have in common, looking for so many runs at most. -/
def inCommonWithin : Nat → List Char → List Char → Nat
  | 0, _, _ => 0
  | fuel + 1, a, b =>
    let run := longestRun a b
    if run.length = 0 then 0
    else
      run.length + inCommonWithin fuel (a.take run.first) (b.take run.second) +
        inCommonWithin fuel (a.drop (run.first + run.length)) (b.drop (run.second + run.length))

/-- How many characters two words have in common. -/
def inCommon (a b : List Char) : Nat := inCommonWithin (a.length + 1) a b

/-- How similar two words are: what they have in common, out of what they could. -/
structure Similarity where
  common : Nat
  total : Nat
deriving Repr, DecidableEq

namespace Similarity

/-- How similar two words are. -/
def of (a b : List Char) : Similarity := ⟨2 * inCommon a b, a.length + b.length⟩

/-- Whether words are similar enough: three fifths of what they could have in common. -/
def isEnough (s : Similarity) : Bool := 3 * s.total ≤ 5 * s.common

/-- Whether two words are at least as similar as two others. -/
def atLeast (s t : Similarity) : Bool := t.common * s.total ≤ s.common * t.total

end Similarity

/-- The words that may have been meant by a word, at most three, the most similar one first. -/
def similar (word : String) (known : List String) : List String :=
  let rated := known.map fun k => (Similarity.of k.toList word.toList, k)
  let enough := rated.filter fun r => r.1.isEnough
  let ordered := enough.mergeSort fun r s =>
    if r.1.atLeast s.1 && s.1.atLeast r.1 then decide (s.2 ≤ r.2) else r.1.atLeast s.1
  (ordered.take 3).map Prod.snd

end Enclosure.Text
