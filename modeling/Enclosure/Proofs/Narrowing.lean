import Enclosure.Proofs.Selection
import Enclosure.Proofs.Widening

/-!
# Searching around fewer lines

A node that competes in a search around a range also competes, and with the same width, in a search
around a part of that range.  So the search around fewer lines has more to choose from: it finds
something whenever the other one does, and what it finds is at least as good in the eyes of either
mode.  That says nothing about *which* node it finds.  In largest mode it is the same node, at the same
place of the list, wherever spans come in layers: a node that is as wide as the one found around more
lines and shares a line with it has all of its lines, and so it was there to be found before.

What is here:

* `Node.Competes.of_within`: who competes around a range competes around a part of it.
* `select_no_better_around_more_lines`: what is found around more lines is not the better one.
* `Node.Layered`: of two nodes that share a line one lies within the other.
* `Node.Competes.around_more_lines`: a node that is wide enough also competes around more lines.
* `IsFirstBestAt.around_fewer_lines`: the widest node stays the widest one.
* `select_around_fewer_lines`: all of it together.
-/

set_option autoImplicit false

namespace Enclosure

variable {inner outer range : LineRange} {mode : Mode} {kinds : Kinds} {nodes : List Node}

/-! ## More to choose from -/

/-- A node that competes around a range also competes, just as wide, around a part of it. -/
theorem Node.Competes.of_within {n : Node} {w : Int} (h : n.Competes outer kinds w)
    (hwithin : inner.Within outer) : n.Competes inner kinds w := by
  rw [competes_iff] at h ⊢
  exact ⟨h.1.of_within hwithin, h.2⟩

/-- The place of the node that a search finds. -/
theorem exists_place_of_select {n : Node} (h : select nodes range mode kinds = some n) :
    ∃ i, selectBy Prod.fst nodes.zipIdx range mode kinds = some (n, i) := by
  obtain ⟨hrange, i, hbest⟩ := select_eq_some_iff.mp h
  exact ⟨i, selectBy_zipIdx_eq_some_iff.mpr ⟨hrange, hbest⟩⟩

/-- **More lines are no better**: a search around fewer lines finds something too, and what is found
around more lines is not preferred to it, whatever the mode prefers. -/
theorem select_no_better_around_more_lines (hinner : inner.start ≤ inner.stop)
    (hwithin : inner.Within outer) {n : Node} (h : select nodes outer mode kinds = some n) :
    ∃ m v w, select nodes inner mode kinds = some m ∧ m.width? = some v ∧ n.width? = some w ∧
      mode.prefers w v = false := by
  obtain ⟨-, i, w, hbest⟩ := select_eq_some_iff.mp h
  have hcompetes : n.Competes inner kinds w := hbest.competes.of_within hwithin
  have hmem : n ∈ nodes := List.mem_of_getElem? hbest.getElem?_eq
  obtain ⟨m, hm⟩ := exists_select ((LineRange.isEmpty_eq_false_iff inner).mpr hinner) hmem
    (Node.competes_iff.mp hcompetes).1
  obtain ⟨-, j, v, hbest'⟩ := select_eq_some_iff.mp hm
  obtain ⟨-, -, hall⟩ := isFirstBestAt_iff.mp hbest'
  exact ⟨m, v, w, hm, (Node.competes_iff.mp hbest'.competes).2,
    (Node.competes_iff.mp hbest.competes).2, (hall i n w hbest.getElem?_eq hcompetes).1⟩

/-! ## Layers -/

/-- Of two nodes that share a line, one lies within the other. -/
def Node.Layered (m n : Node) : Prop :=
  ∀ s ∈ m.span?, ∀ u ∈ n.span?, ∀ line, s.1 ≤ line ∧ line ≤ s.2 ∧ u.1 ≤ line ∧ line ≤ u.2 →
    (s.1 ≤ u.1 ∧ u.2 ≤ s.2) ∨ (u.1 ≤ s.1 ∧ s.2 ≤ u.2)

/-- If two spans share a line, then they share the line on which the later one of them starts. -/
theorem Node.layered_iff (m n : Node) :
    m.Layered n ↔ ∀ s ∈ m.span?, ∀ u ∈ n.span?,
      min s.2 u.2 < max s.1 u.1 ∨ (s.1 ≤ u.1 ∧ u.2 ≤ s.2) ∨ (u.1 ≤ s.1 ∧ s.2 ≤ u.2) := by
  refine forall₂_congr fun s _ => forall₂_congr fun u _ => ⟨fun h => ?_, fun h line hline => ?_⟩
  · have hstart := h (max s.1 u.1)
    omega
  · omega

instance (m n : Node) : Decidable (m.Layered n) := decidable_of_iff _ (m.layered_iff n).symm

/-- The nodes of the kinds that are looked for come in layers. -/
def InLayers (nodes : List Node) (kinds : Kinds) : Prop :=
  ∀ m ∈ nodes, ∀ n ∈ nodes, admits kinds m.kind = true → admits kinds n.kind = true → m.Layered n

instance (nodes : List Node) (kinds : Kinds) : Decidable (InLayers nodes kinds) :=
  inferInstanceAs (Decidable (∀ m ∈ nodes, ∀ n ∈ nodes, _ → _ → _))

/-- **Wide enough is enough**: a node that competes around fewer lines, and is as wide as one that
competes around more, competes around more lines as well if the two of them are in layers. -/
theorem Node.Competes.around_more_lines {m n : Node} {v w : Int} (hlayered : m.Layered n)
    (hinner : inner.start ≤ inner.stop) (hwithin : inner.Within outer)
    (hm : m.Competes inner kinds v) (hn : n.Competes outer kinds w) (hwide : w ≤ v) :
    m.Competes outer kinds v := by
  obtain ⟨hfirst, hlast, hkind⟩ := hm
  obtain ⟨hfirst', hlast', -⟩ := hn
  have hstart := hwithin.start_le
  have hstop := hwithin.stop_le
  -- both have the first line of the smaller range
  have hnested := hlayered _ rfl _ rfl inner.start ⟨hfirst, by omega, by omega, by omega⟩
  dsimp only at hnested
  exact .intro (by omega) (by omega) hkind

/-- **The widest node stays**: the first one of the widest nodes around a range is the first one of the
widest around each part of it, if the nodes come in layers. -/
theorem IsFirstBestAt.around_fewer_lines (hlayers : InLayers nodes kinds)
    (hinner : inner.start ≤ inner.stop) (hwithin : inner.Within outer) {i : Nat} {n : Node} {w : Int}
    (h : IsFirstBestAt nodes outer .largest kinds i n w) :
    IsFirstBestAt nodes inner .largest kinds i n w := by
  refine ⟨h.getElem?_eq, h.competes.of_within hwithin, fun _ j m v hj hm => ?_, nofun⟩
  rcases Int.lt_or_le v w with hlt | hle
  · exact ⟨hlt.le, fun _ => hlt⟩
  · -- this node was there to be found around more lines
    have hlayered : m.Layered n :=
      hlayers m (List.mem_of_getElem? hj) n (List.mem_of_getElem? h.getElem?_eq)
        (Node.competes_iff.mp hm).1.2 (Node.competes_iff.mp h.competes).1.2
    exact h.largest rfl j m v hj (hm.around_more_lines hlayered hinner hwithin h.competes hle)

/-! ## All of it -/

/-- **A search around fewer lines**, compared with one around more lines among the same nodes.  If the
search around more lines finds something, so does the other one: in smallest mode nothing wider, in
largest mode nothing narrower.  And if the nodes that are looked for come in layers, both find the same
element of the list in largest mode. -/
theorem select_around_fewer_lines (nodes : List Node) (kinds : Kinds) {inner outer : LineRange}
    (hinner : inner.start ≤ inner.stop) (hwithin : inner.Within outer) :
    (∀ mode n, select nodes outer mode kinds = some n →
      ∃ m v w, select nodes inner mode kinds = some m ∧ m.width? = some v ∧ n.width? = some w ∧
        (mode = .smallest → v ≤ w) ∧ (mode = .largest → w ≤ v)) ∧
    (InLayers nodes kinds → ∀ n, select nodes outer .largest kinds = some n →
      ∃ i, nodes[i]? = some n ∧ select nodes inner .largest kinds = some n ∧
        selectBy Prod.fst nodes.zipIdx outer .largest kinds = some (n, i) ∧
        selectBy Prod.fst nodes.zipIdx inner .largest kinds = some (n, i)) := by
  refine ⟨fun mode n h => ?_, fun hlayers n h => ?_⟩
  · obtain ⟨m, v, w, hm, hv, hw, hbetter⟩ := select_no_better_around_more_lines hinner hwithin h
    refine ⟨m, v, w, hm, hv, hw, ?_, ?_⟩
    · rintro rfl
      simpa [Mode.prefers] using hbetter
    · rintro rfl
      simpa [Mode.prefers] using hbetter
  · obtain ⟨i, hi⟩ := exists_place_of_select h
    obtain ⟨-, w, hbest⟩ := selectBy_zipIdx_eq_some_iff.mp hi
    have hstays := hbest.around_fewer_lines hlayers hinner hwithin
    exact ⟨i, hbest.getElem?_eq, select_eq_some_iff.mpr ⟨hinner, i, w, hstays⟩, hi,
      selectBy_zipIdx_eq_some_iff.mpr ⟨hinner, w, hstays⟩⟩

/-- The nodes of a function with a loop in it; the block of the function has the same lines as it. -/
def loopNodes : List Node :=
  [⟨"Module", none, none, none⟩, ⟨"FunctionDef", some 1, some 6, some "f"⟩,
    ⟨"Block", some 1, some 6, none⟩, ⟨"For", some 2, some 4, none⟩, ⟨"Expr", some 3, some 3, none⟩,
    ⟨"Return", some 6, some 6, none⟩]

/-- Around one line of the loop and around all of its lines, the widest node is the function, which comes
before the block with the same lines; the narrowest one is the statement, and then the loop. -/
theorem loopNodes_around_fewer_lines :
    InLayers loopNodes none ∧
      selectBy Prod.fst loopNodes.zipIdx ⟨3, 3, by decide, by decide⟩ .largest none =
        some (⟨"FunctionDef", some 1, some 6, some "f"⟩, 1) ∧
      ∃ m v w, select loopNodes ⟨3, 3, by decide, by decide⟩ .smallest none = some m ∧
        m.width? = some v ∧ Node.width? ⟨"For", some 2, some 4, none⟩ = some w ∧ v ≤ w := by
  have hlayers : InLayers loopNodes none := by decide
  have hwithin : LineRange.Within ⟨3, 3, by decide, by decide⟩ ⟨2, 4, by decide, by decide⟩ :=
    ⟨by decide, by decide⟩
  obtain ⟨hwidths, hsame⟩ := select_around_fewer_lines loopNodes none (by decide) hwithin
  refine ⟨hlayers, ?_, ?_⟩
  · obtain ⟨i, -, -, hplace, hplace'⟩ := hsame hlayers ⟨"FunctionDef", some 1, some 6, some "f"⟩ rfl
    have hi : selectBy Prod.fst loopNodes.zipIdx ⟨2, 4, by decide, by decide⟩ .largest none =
      some (⟨"FunctionDef", some 1, some 6, some "f"⟩, 1) := rfl
    obtain rfl : i = 1 := (Prod.mk.inj (Option.some_inj.mp (hplace.symm.trans hi))).2
    exact hplace'
  · obtain ⟨m, v, w, hm, hv, hw, hle, -⟩ := hwidths .smallest ⟨"For", some 2, some 4, none⟩ rfl
    exact ⟨m, v, w, hm, hv, hw, hle rfl⟩

end Enclosure
