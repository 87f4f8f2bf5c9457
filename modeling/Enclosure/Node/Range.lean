/-!
# Line ranges

The lines that a search starts from, such as one hunk of a patch.

What is here:

* `LineRange`: lines from one to another, both included.
* `LineRange.isEmpty`: the range ends before it starts.
-/

set_option autoImplicit false

namespace Enclosure

/-- The lines from `start` to `stop`, both included and counted from one. -/
structure LineRange where
  start : Int
  stop : Int
  one_le_start : 1 ≤ start
  one_le_stop : 1 ≤ stop
deriving Repr, DecidableEq

namespace LineRange

/-- A range that ends before it starts holds no line. -/
def isEmpty (r : LineRange) : Bool := r.stop < r.start

/-- The range between two lines, if both are lines. -/
def ofLines? (start stop : Int) : Option LineRange :=
  if h : 1 ≤ start ∧ 1 ≤ stop then some ⟨start, stop, h.1, h.2⟩ else none

theorem isEmpty_eq_true_iff (r : LineRange) : r.isEmpty = true ↔ r.stop < r.start := by
  simp [isEmpty]

theorem isEmpty_eq_false_iff (r : LineRange) : r.isEmpty = false ↔ r.start ≤ r.stop := by
  simp [isEmpty]

theorem ofLines?_eq_none_iff (start stop : Int) :
    ofLines? start stop = none ↔ start < 1 ∨ stop < 1 := by
  unfold ofLines?
  split <;> simp <;> omega

end LineRange
end Enclosure
