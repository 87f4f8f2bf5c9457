import Enclosure.Proofs.Concrete.Faults

/-!
# Lines of nodes inside each other

The spans of a concrete tree lie inside each other, but a node that stops at the very start of a
line does not reach that line, and so loses it.  Whatever else stops there loses the same line, so
lines stay inside each other as well.  There is one exception.  An empty node that stands at the
start of a line has no other line to go to: it keeps the line that a node around it gives up.

What is here:

* `Tree.SpansOrdered`: spans end where they start or later, and lie within those above.
* `Span.TrailsEmpty`: an empty span at the end of another one, at the start of a line.
* `lineSpan_within` and `lineSpan_of_trailsEmpty`: the rule for lines, and the exception.
* `emitted_lines_nest`: the lines of the nodes that are reported.
* `trailingTree_lines_apart`: the exception happens.
-/

set_option autoImplicit false

namespace Enclosure

namespace Concrete

/-! ## Points in order -/

/-- Points are ordered by their rows, and in one row by their columns. -/
instance : LE Point :=
  ⟨fun p q => p.row < q.row ∨ p.row = q.row ∧ p.column ≤ q.column⟩

instance (p q : Point) : Decidable (p ≤ q) :=
  inferInstanceAs (Decidable (p.row < q.row ∨ p.row = q.row ∧ p.column ≤ q.column))

theorem Point.le_def (p q : Point) :
    p ≤ q ↔ p.row < q.row ∨ p.row = q.row ∧ p.column ≤ q.column := Iff.rfl

theorem Point.le_refl (p : Point) : p ≤ p := .inr ⟨rfl, Nat.le_refl _⟩

theorem Point.le_trans {p q r : Point} (hpq : p ≤ q) (hqr : q ≤ r) : p ≤ r := by
  rw [le_def] at *
  omega

theorem Point.le_antisymm {p q : Point} (hpq : p ≤ q) (hqp : q ≤ p) : p = q := by
  obtain ⟨row, column⟩ := p
  obtain ⟨row', column'⟩ := q
  simp only [le_def] at hpq hqp
  rw [Point.mk.injEq]
  omega

namespace Span

/-- A span lies between the two ends of another one. -/
structure IsWithin (s u : Span) : Prop where
  /-- It does not start earlier. -/
  start : u.start ≤ s.start
  /-- It does not stop later. -/
  stop : s.stop ≤ u.stop

theorem IsWithin.refl (s : Span) : s.IsWithin s := ⟨Point.le_refl _, Point.le_refl _⟩

theorem IsWithin.trans {s u v : Span} (hsu : s.IsWithin u) (huv : u.IsWithin v) : s.IsWithin v :=
  ⟨Point.le_trans huv.start hsu.start, Point.le_trans hsu.stop huv.stop⟩

/-- An empty span stands where another one stops, and that is the start of a line below the one
where the other one starts. -/
structure TrailsEmpty (s u : Span) : Prop where
  /-- The span is empty. -/
  empty : s.start = s.stop
  /-- It stands at the end of the other one. -/
  atStop : s.stop = u.stop
  /-- A line starts there. -/
  column : u.stop.column = 0
  /-- The other one starts on an earlier line. -/
  later : u.start.row < u.stop.row

end Span

/-! ## Lines -/

/-- The lines of a node are those from its first row to its last one; a last row that is not the
first one does not count if the node stops at its very start. -/
theorem lineSpan_eq (s : Span) :
    lineSpan s = (s.start.row + 1,
      if s.stop.column = 0 ∧ s.start.row < s.stop.row then s.stop.row else s.stop.row + 1) := by
  rw [lineSpan]
  split <;> rfl

theorem lineSpan_ordered {s : Span} (h : s.start ≤ s.stop) :
    1 ≤ (lineSpan s).1 ∧ (lineSpan s).1 ≤ (lineSpan s).2 := by
  rw [Point.le_def] at h
  rw [lineSpan_eq]
  dsimp only
  split <;> omega

/-- **Lines lie inside each other** as spans do, but for one case. -/
theorem lineSpan_within {s u : Span} (hs : s.start ≤ s.stop) (h : s.IsWithin u)
    (hnot : ¬s.TrailsEmpty u) :
    (lineSpan u).1 ≤ (lineSpan s).1 ∧ (lineSpan s).2 ≤ (lineSpan u).2 := by
  obtain ⟨hstart, hstop⟩ := h
  -- an inner span that stays on the line that the outer one gives up would be empty
  have hinner : u.stop.column = 0 → u.start.row < u.stop.row → s.stop.row = u.stop.row →
      s.start.row < s.stop.row := by
    intro hcolumn hlater hrow
    by_contra hsame
    rw [Point.le_def] at hs hstop
    refine hnot ⟨Point.le_antisymm hs ?_, Point.le_antisymm hstop ?_, hcolumn, hlater⟩
    · rw [Point.le_def]
      omega
    · rw [Point.le_def]
      omega
  rw [Point.le_def] at hs hstart hstop
  rw [lineSpan_eq, lineSpan_eq]
  dsimp only
  refine ⟨by omega, ?_⟩
  split <;> split <;> omega

/-- **The exception**: the empty node has one line, the one after all lines of the other node. -/
theorem lineSpan_of_trailsEmpty {s u : Span} (h : s.TrailsEmpty u) :
    lineSpan s = ((lineSpan u).2 + 1, (lineSpan u).2 + 1) := by
  have hrow : s.start.row = u.stop.row := by rw [h.empty, h.atStop]
  have hstop : s.stop.row = u.stop.row := by rw [h.atStop]
  rw [lineSpan_eq, lineSpan_eq, if_neg (by omega), if_pos ⟨h.column, h.later⟩, hrow, hstop]

/-! ## Trees -/

namespace Tree

open Enclosure.Tree

/-- No span stops before it starts, and each lies within the span of the node above it. -/
structure SpansOrdered (t : Tree) : Prop where
  /-- A node stops where it starts or later. -/
  ordered : ∀ {p l}, t.labelAt? p = some l → l.span.start ≤ l.span.stop
  /-- The nodes right below a node lie within it. -/
  within : ∀ {p i l m}, t.labelAt? p = some l → t.labelAt? (p ++ [i]) = some m →
    m.span.IsWithin l.span

/-- All nodes below a node lie within it, however deep they are. -/
theorem SpansOrdered.isWithin {t : Tree} (h : t.SpansOrdered) {p r : List Nat} {l m : Label}
    (hl : t.labelAt? p = some l) (hm : t.labelAt? (p ++ r) = some m) :
    m.span.IsWithin l.span := by
  induction r using List.reverseRecOn generalizing m with
  | nil =>
    rw [List.append_nil, hl, Option.some_inj] at hm
    exact hm ▸ Span.IsWithin.refl l.span
  | append_singleton r i ih =>
    rw [← List.append_assoc] at hm
    obtain ⟨k, hk⟩ := exists_labelAt?_of_append hm
    exact (h.within hk hm).trans (ih hk)

/-- It is enough to look at the places that are listed. -/
theorem SpansOrdered.of_places {t : Tree}
    (hordered : ∀ x ∈ t.places, x.2.span.start ≤ x.2.span.stop)
    (hwithin : ∀ x ∈ t.places, ∀ y ∈ t.places, y.1.dropLast = x.1 →
      x.2.span.start ≤ y.2.span.start ∧ y.2.span.stop ≤ x.2.span.stop) : t.SpansOrdered where
  ordered hl := hordered _ ((mem_places_iff t _ _).mpr hl)
  within hl hm := by
    obtain ⟨hstart, hstop⟩ := hwithin _ ((mem_places_iff t _ _).mpr hl) _
      ((mem_places_iff t _ _).mpr hm) List.dropLast_concat
    exact ⟨hstart, hstop⟩

/-- An answer with nodes is the outline, whether the flags agree or not. -/
theorem nodesOf_eq_ok {t : Tree} {bytes : Bytes} {ns : List Node} (h : nodesOf t bytes = .ok ns) :
    ns = { kind := t.kind } :: t.emitted.map fun x => x.2.node bytes := by
  cases herror : t.label.hasError with
  | true =>
    rw [nodesOf, if_pos herror] at h
    split at h <;> cases h
  | false =>
    rw [nodesOf_of_not_hasError herror] at h
    split at h
    · cases h
    · exact (Except.ok.inj h).symm

end Tree

theorem Label.span?_node (l : Label) (bytes : Bytes) :
    (l.node bytes).span? = some (((lineSpan l.span).1 : Int), ((lineSpan l.span).2 : Int)) := rfl

end Concrete

open Concrete

/-- **The lines of reported nodes.**  Where the spans of a tree lie within those above them, every
reported node but the root starts on a line from the first one on and does not stop before, and its
lines lie within those of each reported node above it other than the root.  Only an empty node at
the end of the one above, at the start of a line, has the line after it instead. -/
theorem emitted_lines_nest {read : List Char → Concrete.Tree} {source : Codes} {t : Concrete.Tree} {ns : List Node}
    (hread : ∀ cs, Codes.ofChars cs = Text.oneNewline source → read cs = t) {earlier : Nat}
    (hok : ((Backend.concrete read).answer earlier source).value = .ok ns)
    (hspans : t.SpansOrdered) :
    ∃ xs, t.Lists (fun p l => p ≠ [] ∧ l.named = true) xs ∧
      ns = { kind := t.kind } ::
        xs.map (fun x => x.2.node (Utf8.encode (Text.oneNewline source))) ∧
      (∀ x ∈ xs, ∃ first last : Int,
        (x.2.node (Utf8.encode (Text.oneNewline source))).span? = some (first, last) ∧
          1 ≤ first ∧ first ≤ last) ∧
      (∀ x ∈ xs, ∀ y ∈ xs, x.1 <+: y.1 → x.1 ≠ y.1 → ∀ s u,
        (x.2.node (Utf8.encode (Text.oneNewline source))).span? = some s →
        (y.2.node (Utf8.encode (Text.oneNewline source))).span? = some u →
          (¬y.2.span.TrailsEmpty x.2.span → s.1 ≤ u.1 ∧ u.2 ≤ s.2) ∧
          (y.2.span.TrailsEmpty x.2.span → u = (s.2 + 1, s.2 + 1))) := by
  have hlists := t.lists_emitted
  have hlabel : ∀ x ∈ t.emitted, t.labelAt? x.1 = some x.2 :=
    fun x hx => ((hlists.mem_iff x.1 x.2).mp hx).1
  refine ⟨t.emitted, hlists, Tree.nodesOf_eq_ok (Backend.nodesOf_of_answer_eq_ok hread hok),
    fun x hx => ?_, fun x hx y hy hxy _ s u hs hu => ?_⟩
  · obtain ⟨hone, hle⟩ := lineSpan_ordered (hspans.ordered (hlabel x hx))
    exact ⟨_, _, x.2.span?_node _, by omega, by omega⟩
  · rw [Label.span?_node, Option.some_inj] at hs hu
    subst hs hu
    constructor
    · intro hnot
      obtain ⟨r, hr⟩ := hxy
      have hin := hspans.isWithin (hlabel x hx) (hr ▸ hlabel y hy)
      have hlines := lineSpan_within (hspans.ordered (hlabel y hy)) hin hnot
      omega
    · intro htrails
      rw [lineSpan_of_trailsEmpty htrails]
      rfl

/-- A block that stops at the start of the second line, with an empty node at its end. -/
def trailingTree : Concrete.Tree :=
  .node { kind := "module", span := ⟨⟨0, 0⟩, ⟨1, 0⟩, 0, 2⟩ }
    [.node { kind := "block", span := ⟨⟨0, 0⟩, ⟨1, 0⟩, 0, 2⟩ }
      [Tree.leaf "identifier" ⟨⟨0, 0⟩, ⟨0, 1⟩, 0, 1⟩ true,
        Tree.leaf "empty" ⟨⟨1, 0⟩, ⟨1, 0⟩, 2, 2⟩ true]]

theorem spansOrdered_trailingTree : trailingTree.SpansOrdered :=
  Tree.SpansOrdered.of_places (by decide) (by decide)

theorem value_answer_trailingTree :
    ((Backend.concrete fun _ => trailingTree).answer 0 (Codes.ofString "x\n")).value =
      .ok [{ kind := "module" }, ⟨"block", some 1, some 1, none⟩,
        ⟨"identifier", some 1, some 1, none⟩, ⟨"empty", some 2, some 2, none⟩] := by
  rw [Backend.value_answer_concrete (Codes.noSurrogates_ofString "x\n") (fun _ _ => rfl),
    Tree.nodesOf_of_not_hasError (by decide)]
  rfl

/-- All but the empty node have their lines inside those of the block. -/
theorem trailingTree_lines_nest :
    trailingTree.SpansOrdered ∧
      ∃ xs, trailingTree.Lists (fun p l => p ≠ [] ∧ l.named = true) xs ∧
        ∀ x ∈ xs, ∀ y ∈ xs, x.1 <+: y.1 → x.1 ≠ y.1 → ¬y.2.span.TrailsEmpty x.2.span →
          (lineSpan x.2.span).1 ≤ (lineSpan y.2.span).1 ∧
            (lineSpan y.2.span).2 ≤ (lineSpan x.2.span).2 := by
  refine ⟨spansOrdered_trailingTree, ?_⟩
  obtain ⟨xs, hxs, -, -, hnest⟩ := emitted_lines_nest (fun _ _ => rfl) value_answer_trailingTree
    spansOrdered_trailingTree
  refine ⟨xs, hxs, fun x hx y hy hxy hne hnot => ?_⟩
  have hlines := (hnest x hx y hy hxy hne _ _ (x.2.span?_node _) (y.2.span?_node _)).1 hnot
  exact ⟨Int.ofNat_le.mp hlines.1, Int.ofNat_le.mp hlines.2⟩

/-- **The exception happens**: the spans of this tree lie inside each other and it is accepted, but
the empty node is reported on the second line, and the block around it on the first one alone. -/
theorem trailingTree_lines_apart :
    trailingTree.SpansOrdered ∧
      ((Backend.concrete fun _ => trailingTree).answer 0 (Codes.ofString "x\n")).value =
        .ok [{ kind := "module" }, ⟨"block", some 1, some 1, none⟩,
          ⟨"identifier", some 1, some 1, none⟩, ⟨"empty", some 2, some 2, none⟩] ∧
      ∃ l m, trailingTree.labelAt? [0] = some l ∧ trailingTree.labelAt? [0, 1] = some m ∧
        l.named = true ∧ m.named = true ∧ lineSpan l.span = (1, 1) ∧ lineSpan m.span = (2, 2) ∧
        ¬(lineSpan m.span).2 ≤ (lineSpan l.span).2 :=
  ⟨spansOrdered_trailingTree, value_answer_trailingTree, _, _, rfl, rfl, rfl, rfl, rfl, rfl,
    by decide⟩

end Enclosure
