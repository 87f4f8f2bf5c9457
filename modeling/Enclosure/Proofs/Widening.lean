import Enclosure.Proofs.Enclosing
import Mathlib.Data.Int.Order.Basic

/-!
# Widening a range

A range that is made wider is contained in fewer constructs.  So the widest construct around it can
only get narrower: in largest mode a search around more lines is meant to find at least as much, and
it finds at most as much.  It finds just as much if and only if constructs that share a line are
covered by one that is wide enough.  That is so where spans come in layers, as they do when each
statement has its own lines, but not where a statement starts on the line on which the one before it
ends.

What is here:

* `LineRange.Within`: one range within another one.
* `select_spec`: what a search among nodes finds.
* `Backend.KeepsWidth`: a search that never finds less around a wider range.
* `Covered`: nodes that share a line are covered by one that is wide enough.
* `Backend.keepsWidth_iff_covered`: the one is the other, in every back end.
* `Tree.SpansLayered`: of two spans that share a line one lies within the other.
* `find_largest_on_wider_range`: a search in a tree when its range is made wider.
-/

set_option autoImplicit false

namespace Enclosure

/-! ## Ranges and lines -/

/-- All lines of a range belong to another one. -/
structure LineRange.Within (inner outer : LineRange) : Prop where
  /-- It starts no earlier. -/
  start_le : outer.start ≤ inner.start
  /-- It stops no later. -/
  stop_le : inner.stop ≤ outer.stop

/-- How far apart the lines of a context are. -/
def Context.width (c : Context) : Int := c.lastLine - c.firstLine

namespace Node

variable {n : Node} {line : Int}

theorem width?_eq_some_of_context? {c : Context} (h : n.context? = some c) :
    n.width? = some c.width := by
  obtain ⟨s, hs, rfl⟩ := Option.map_eq_some_iff.mp h
  rw [width?, hs, Option.map_some]
  rfl

/-- A line of the text that belongs to a node. -/
def HasLine (n : Node) (line : Int) : Prop :=
  1 ≤ line ∧ ∃ s, n.span? = some s ∧ s.1 ≤ line ∧ line ≤ s.2

/-- A node that takes part in a search has the first line of the range. -/
theorem IsEligible.hasLine_start {range : LineRange} {kinds : Kinds} (h : n.IsEligible range kinds)
    (hrange : range.isEmpty = false) : n.HasLine range.start := by
  obtain ⟨first, last, hs, hfirst, hlast⟩ := (contains_eq_true_iff n range).mp h.1
  have hle := (LineRange.isEmpty_eq_false_iff range).mp hrange
  exact ⟨range.one_le_start, (first, last), hs, hfirst, hle.trans hlast⟩

/-- A node that takes part in a search around a range also takes part around a narrower one. -/
theorem IsEligible.of_within {inner outer : LineRange} {kinds : Kinds}
    (h : n.IsEligible outer kinds) (hwithin : inner.Within outer) : n.IsEligible inner kinds := by
  obtain ⟨first, last, hs, hfirst, hlast⟩ := (contains_eq_true_iff n outer).mp h.1
  exact ⟨(contains_eq_true_iff n inner).mpr ⟨first, last, hs, hfirst.trans hwithin.start_le,
    hwithin.stop_le.trans hlast⟩, h.2⟩

/-- The range that consists of one line of a node, and the range of all its lines. -/
theorem HasLine.exists_ranges (h : n.HasLine line) :
    ∃ one all : LineRange, one.isEmpty = false ∧ all.isEmpty = false ∧ one.Within all ∧
      (∀ m : Node, m.contains one = true ↔ m.HasLine line) ∧
      (∀ m : Node, m.contains all = true ↔ ∀ l, n.HasLine l → m.HasLine l) := by
  obtain ⟨hline, s, hs, hfirst, hlast⟩ := h
  refine ⟨⟨line, line, hline, hline⟩, ⟨max 1 s.1, s.2, le_max_left 1 s.1, hline.trans hlast⟩,
    (LineRange.isEmpty_eq_false_iff _).mpr (le_refl line),
    (LineRange.isEmpty_eq_false_iff _).mpr ((max_le hline hfirst).trans hlast),
    ⟨max_le hline hfirst, hlast⟩, fun m => ?_, fun m => ?_⟩
  · rw [contains_eq_true_iff]
    constructor
    · rintro ⟨first, last, hm, h1, h2⟩
      exact ⟨hline, (first, last), hm, h1, h2⟩
    · rintro ⟨-, u, hm, h1, h2⟩
      exact ⟨u.1, u.2, hm, h1, h2⟩
  · rw [contains_eq_true_iff]
    constructor
    · rintro ⟨first, last, hm, h1, h2⟩ l ⟨hl, u, hu, hl1, hl2⟩
      obtain rfl := Option.some_inj.mp (hs.symm.trans hu)
      exact ⟨hl, (first, last), hm, h1.trans (max_le hl hl1), hl2.trans h2⟩
    · intro hall
      -- it is enough to look at the two ends
      obtain ⟨-, u, hu, h1, -⟩ := hall (max 1 s.1)
        ⟨le_max_left 1 s.1, s, hs, le_max_right 1 s.1, (max_le hline hfirst).trans hlast⟩
      obtain ⟨-, v, hv, -, h2⟩ := hall s.2 ⟨hline.trans hlast, s, hs, hfirst.trans hlast, le_refl _⟩
      obtain rfl := Option.some_inj.mp (hu.symm.trans hv)
      exact ⟨u.1, u.2, hu, h1, h2⟩

end Node

/-! ## Searching among nodes -/

section

variable {nodes : List Node} {range : LineRange} {mode : Mode} {kinds : Kinds}

/-- **What a search among nodes finds** takes part in it, and none that takes part is better. -/
theorem select_spec {n : Node} (h : select nodes range mode kinds = some n) :
    range.isEmpty = false ∧ n ∈ nodes ∧ n.IsEligible range kinds ∧
      ∀ m ∈ nodes, m.IsEligible range kinds → ∀ v w, m.width? = some v → n.width? = some w →
        mode.prefers v w = false := by
  obtain ⟨hmem, helig⟩ := isEligible_of_select_eq_some h
  rw [select, selectBy] at h
  split at h
  · exact absurd h (by simp)
  next hrange =>
  obtain ⟨before, w, after, rfl, hbest⟩ := (Mode.choose_eq_some_iff _ _ _ _).mp h
  refine ⟨by simpa using hrange, hmem, helig, fun m hm hm' v w' hv hw' => ?_⟩
  have hw := ((Node.eligibleWidth?_eq_some_iff _ _ _ _).mp hbest.width_eq).2
  obtain rfl := Option.some_inj.mp (hw.symm.trans hw')
  exact hbest.no_better hm ((Node.eligibleWidth?_eq_some_iff _ _ _ _).mpr ⟨hm', hv⟩)

/-- A search among nodes finds something if any of them takes part. -/
theorem exists_select (hrange : range.isEmpty = false) {n : Node} (hn : n ∈ nodes)
    (helig : n.IsEligible range kinds) : ∃ m, select nodes range mode kinds = some m := by
  rw [← Option.ne_none_iff_exists', select, selectBy, if_neg (by simp [hrange]), ne_eq,
    Mode.choose_eq_none_iff]
  intro h
  exact (Node.eligibleWidth?_eq_none_iff _ _ _).mp (h n hn) helig

end

/-! ## The law of widening -/

/-- Nodes that share a line are covered: whenever two of them do that are of a kind that is looked
for, there is a third one that has all lines of the first and is as wide as the second. -/
def Covered (nodes : List Node) (kinds : Kinds) : Prop :=
  ∀ m ∈ nodes, ∀ n ∈ nodes, admits kinds m.kind = true → admits kinds n.kind = true →
    (∃ line, m.HasLine line ∧ n.HasLine line) →
    ∃ k ∈ nodes, admits kinds k.kind = true ∧ (∀ line, m.HasLine line → k.HasLine line) ∧
      ∀ v w, n.width? = some v → k.width? = some w → v ≤ w

namespace Backend

/-- A search in largest mode finds a context. -/
def FindsLargest (b : Backend) (earlier : Nat) (source : Codes) (kinds : Kinds) (range : LineRange)
    (c : Context) : Prop :=
  (b.find earlier source range .largest kinds).value = .ok (some c)

/-- The law of widening: if searches in largest mode find something around a range and around a wider
one, then what they find around the wider range is no narrower. -/
def KeepsWidth (b : Backend) (earlier : Nat) (source : Codes) (kinds : Kinds) : Prop :=
  ∀ inner outer : LineRange, inner.Within outer → ∀ c d,
    b.FindsLargest earlier source kinds inner c → b.FindsLargest earlier source kinds outer d →
      c.width ≤ d.width

variable {b : Backend} {earlier : Nat} {source : Codes} {nodes : List Node} {kinds : Kinds}

/-- Something is only found among nodes. -/
theorem FindsLargest.exists_nodes {range : LineRange} {c : Context}
    (h : b.FindsLargest earlier source kinds range c) :
    ∃ nodes, (b.answer earlier source).value = .ok nodes := by
  rw [FindsLargest, value_find] at h
  split at h
  · simp at h
  · cases hanswer : (b.answer earlier source).value with
    | ok nodes => exact ⟨nodes, rfl⟩
    | error failure =>
      rw [hanswer] at h
      dsimp only at h
      split at h <;> simp at h

/-- What is found in largest mode is the context of a node that takes part and is as wide as any. -/
theorem FindsLargest.exists_widest (hnodes : (b.answer earlier source).value = .ok nodes)
    {range : LineRange} {c : Context} (h : b.FindsLargest earlier source kinds range c) :
    range.isEmpty = false ∧ ∃ n ∈ nodes, n.IsEligible range kinds ∧ n.width? = some c.width ∧
      ∀ m ∈ nodes, m.IsEligible range kinds → ∀ v, m.width? = some v → v ≤ c.width := by
  rw [FindsLargest, value_find, hnodes] at h
  split at h
  · simp at h
  obtain ⟨n, hn, hc⟩ := Option.bind_eq_some_iff.mp (Except.ok.inj h)
  obtain ⟨hrange, hmem, helig, hbest⟩ := select_spec hn
  have hw := Node.width?_eq_some_of_context? hc
  refine ⟨hrange, n, hmem, helig, hw, fun m hm hm' v hv => ?_⟩
  simpa [Mode.prefers] using hbest m hm hm' v _ hv hw

/-- Something is found if there is a node that takes part. -/
theorem exists_findsLargest (hnodes : (b.answer earlier source).value = .ok nodes)
    {range : LineRange} (hrange : range.isEmpty = false) {n : Node} (hn : n ∈ nodes)
    (helig : n.IsEligible range kinds) : ∃ c, b.FindsLargest earlier source kinds range c := by
  obtain ⟨m, hm⟩ := exists_select hrange hn helig
  obtain ⟨c, hc⟩ := m.exists_context?_of_contains (isEligible_of_select_eq_some hm).2.1
  refine ⟨c, ?_⟩
  rw [FindsLargest, value_find, if_neg (by simp [hrange]), hnodes]
  dsimp only
  rw [hm, Option.bind_some, hc]

/-- **A wider range finds no more.**  This is the other direction of the law, and it always holds. -/
theorem FindsLargest.width_le {inner outer : LineRange} (hwithin : inner.Within outer)
    {c d : Context} (hc : b.FindsLargest earlier source kinds inner c)
    (hd : b.FindsLargest earlier source kinds outer d) : d.width ≤ c.width := by
  obtain ⟨nodes, hnodes⟩ := hc.exists_nodes
  obtain ⟨-, n, hn, helig, hw, -⟩ := hd.exists_widest hnodes
  obtain ⟨-, -, -, -, -, hbest⟩ := hc.exists_widest hnodes
  exact hbest n hn (helig.of_within hwithin) _ hw

/-- **The law of widening holds exactly where nodes that share a line are covered.** -/
theorem keepsWidth_iff_covered (hnodes : (b.answer earlier source).value = .ok nodes)
    (kinds : Kinds) : b.KeepsWidth earlier source kinds ↔ Covered nodes kinds := by
  constructor
  · -- search around the shared line, and around all lines of the first node
    rintro hkeeps m hm n hn hmk hnk ⟨line, hmline, hnline⟩
    obtain ⟨one, all, hone, hall, hwithin, hcontains, hcontainsAll⟩ := hmline.exists_ranges
    have hmelig : m.IsEligible all kinds := ⟨(hcontainsAll m).mpr fun _ h => h, hmk⟩
    have hnelig : n.IsEligible one kinds := ⟨(hcontains n).mpr hnline, hnk⟩
    obtain ⟨c, hc⟩ := exists_findsLargest hnodes hone hn hnelig
    obtain ⟨d, hd⟩ := exists_findsLargest hnodes hall hm hmelig
    obtain ⟨-, k, hk, hkelig, hkw, -⟩ := hd.exists_widest hnodes
    obtain ⟨-, -, -, -, -, hbest⟩ := hc.exists_widest hnodes
    refine ⟨k, hk, hkelig.2, (hcontainsAll k).mp hkelig.1, fun v w hv hw => ?_⟩
    obtain rfl := Option.some_inj.mp (hkw.symm.trans hw)
    exact (hbest n hn hnelig v hv).trans (hkeeps one all hwithin c d hc hd)
  · -- the widest nodes around both ranges share the first line of the narrower one
    intro hcovered inner outer hwithin c d hc hd
    obtain ⟨hinner, n, hn, hnelig, hnw, -⟩ := hc.exists_widest hnodes
    obtain ⟨houter, m, hm, hmelig, -, hbest⟩ := hd.exists_widest hnodes
    obtain ⟨k, hk, hkk, hlines, hwide⟩ := hcovered m hm n hn hmelig.2 hnelig.2
      ⟨inner.start, (hmelig.of_within hwithin).hasLine_start hinner, hnelig.hasLine_start hinner⟩
    have hkelig : k.IsEligible outer kinds := by
      obtain ⟨first, last, hs, hfirst, hlast⟩ := (Node.contains_eq_true_iff m outer).mp hmelig.1
      have hle := (LineRange.isEmpty_eq_false_iff outer).mp houter
      obtain ⟨-, s, hks, h1, -⟩ := hlines outer.start (hmelig.hasLine_start houter)
      obtain ⟨-, u, hku, -, h2⟩ := hlines outer.stop
        ⟨outer.one_le_stop, (first, last), hs, hfirst.trans hle, hlast⟩
      obtain rfl := Option.some_inj.mp (hks.symm.trans hku)
      exact ⟨(Node.contains_eq_true_iff k outer).mpr ⟨s.1, s.2, hks, h1, h2⟩, hkk⟩
    obtain ⟨w, hw⟩ := Node.exists_width?_of_contains hkelig.1
    exact (hwide _ w hnw hw).trans (hbest k hk hkelig w hw)

end Backend

/-! ## Trees -/

namespace Abstract.Tree

open Enclosure.Tree

/-- Spans come in layers: each lies within those above it, and of two that share a line one lies
within the other. -/
structure SpansLayered (t : Tree) : Prop extends SpansWithin t where
  /-- Nodes of different branches that share a line are one within the other. -/
  layered : ∀ {p q s u}, t.spanAt? p = some s → t.spanAt? q = some u → ¬p <+: q → ¬q <+: p →
    ∀ line, s.1 ≤ line ∧ line ≤ s.2 ∧ u.1 ≤ line ∧ line ≤ u.2 →
      (s.1 ≤ u.1 ∧ u.2 ≤ s.2) ∨ (u.1 ≤ s.1 ∧ s.2 ≤ u.2)

variable {t : Tree}

theorem exists_nodeAt?_of_mem {ns : List Node} (hns : t.nodes = .ok ns) {n : Node} (hn : n ∈ ns) :
    ∃ p, t.nodeAt? p = some n := by
  rw [nodes_eq_map_places hns] at hn
  obtain ⟨⟨p, l⟩, hp, rfl⟩ := List.mem_map.mp hn
  exact ⟨p, nodeAt?_of_mem_places hns hp⟩

/-- **Layers are covered**: of two nodes that share a line, the one around the other covers both. -/
theorem SpansLayered.covered (h : t.SpansLayered) {ns : List Node} (hns : t.nodes = .ok ns)
    (kinds : Kinds) : Covered ns kinds := by
  rintro m hm n hn hmk hnk ⟨line, ⟨-, s, hs, hs1, hs2⟩, -, u, hu, hu1, hu2⟩
  obtain ⟨p, hp⟩ := exists_nodeAt?_of_mem hns hm
  obtain ⟨q, hq⟩ := exists_nodeAt?_of_mem hns hn
  have hsp := spanAt?_eq_some_of_nodeAt? hp hs
  have huq := spanAt?_eq_some_of_nodeAt? hq hu
  have hlayers : (s.1 ≤ u.1 ∧ u.2 ≤ s.2) ∨ (u.1 ≤ s.1 ∧ s.2 ≤ u.2) := by
    by_cases hpq : p <+: q
    · exact .inl (h.within hsp huq hpq)
    by_cases hqp : q <+: p
    · exact .inr (h.within huq hsp hqp)
    exact h.layered hsp huq hpq hqp line ⟨hs1, hs2, hu1, hu2⟩
  rcases hlayers with ⟨h1, h2⟩ | ⟨h1, h2⟩
  · refine ⟨m, hm, hmk, fun _ hl => hl, fun v w hv hw => ?_⟩
    simp only [Node.width?, hs, hu, Option.map_some, Option.some_inj] at hv hw
    omega
  · refine ⟨n, hn, hnk, ?_, fun v w hv hw => (Option.some_inj.mp (hv.symm.trans hw)).le⟩
    rintro l ⟨hl, s', hs', hl1, hl2⟩
    obtain rfl := Option.some_inj.mp (hs.symm.trans hs')
    exact ⟨hl, u, hu, h1.trans hl1, hl2.trans h2⟩

end Abstract.Tree

open Abstract

/-- **A search in a tree in largest mode when its range is made wider.**  What it finds around the
wider range is never wider.  It is never narrower either, whatever the two ranges, if and only if
the nodes that share a line are covered; and they are if spans come in layers. -/
theorem find_largest_on_wider_range {read : Codes → Except Abstract.Fault Abstract.Tree} {source : Codes}
    {t : Abstract.Tree} (hread : read source = .ok t) (earlier : Nat) (kinds : Kinds) :
    (∀ inner outer : LineRange, inner.Within outer → ∀ c d,
      (Backend.abstract read).FindsLargest earlier source kinds inner c →
        (Backend.abstract read).FindsLargest earlier source kinds outer d → d.width ≤ c.width) ∧
    (∀ ns, t.nodes = .ok ns →
      ((Backend.abstract read).KeepsWidth earlier source kinds ↔ Covered ns kinds)) ∧
    (t.SpansLayered → (Backend.abstract read).KeepsWidth earlier source kinds) := by
  have hiff : ∀ ns, t.nodes = .ok ns →
      ((Backend.abstract read).KeepsWidth earlier source kinds ↔ Covered ns kinds) := by
    intro ns hns
    refine Backend.keepsWidth_iff_covered ?_ kinds
    rw [Backend.value_answer_abstract hread, hns]
    rfl
  refine ⟨fun inner outer hwithin c d hc hd => hc.width_le hwithin hd, hiff, fun hlayered => ?_⟩
  cases hns : t.nodes with
  | ok ns => exact (hiff ns hns).mpr (hlayered.covered hns kinds)
  | error fs =>
    intro inner outer hwithin c d hc hd
    obtain ⟨nodes, hnodes⟩ := hc.exists_nodes
    rw [Backend.value_answer_abstract hread, hns] at hnodes
    cases hnodes

/-- Two assignments, the second of which starts on the line on which the first one ends. -/
def joinedTree : Abstract.Tree :=
  .node { kind := "Module" }
    [.node { kind := "Assign", first := .int 1, last := .int 4 } [],
      .node { kind := "Assign", first := .int 4, last := .int 5 } []]

/-- A reader that knows this tree alone. -/
def joinedReader (_ : Codes) : Except Abstract.Fault Abstract.Tree := .ok joinedTree

/-- No span of this tree is reversed and each lies within those above it, and still a search finds
less when its range is made wider by the line after the shared one. -/
theorem joinedTree_shrinks :
    joinedTree.SpansWithin ∧ (∀ p s, joinedTree.spanAt? p = some s → s.1 ≤ s.2) ∧
      (Backend.abstract joinedReader).FindsLargest 0 [] none ⟨4, 4, by decide, by decide⟩
        ⟨"Assign", 1, 4, none⟩ ∧
      (Backend.abstract joinedReader).FindsLargest 0 [] none ⟨4, 5, by decide, by decide⟩
        ⟨"Assign", 4, 5, none⟩ ∧
      ¬(Backend.abstract joinedReader).KeepsWidth 0 [] none ∧ ¬joinedTree.SpansLayered := by
  have hread : joinedReader [] = .ok joinedTree := rfl
  obtain ⟨-, -, hlayered⟩ := find_largest_on_wider_range hread 0 none
  have hns : joinedTree.nodes =
      .ok [⟨"Module", none, none, none⟩, ⟨"Assign", some 1, some 4, none⟩,
        ⟨"Assign", some 4, some 5, none⟩] := by
    rw [Tree.nodes_eq_nodesOf_preorder]
    rfl
  have hinner : (Backend.abstract joinedReader).FindsLargest 0 [] none
      ⟨4, 4, by decide, by decide⟩ ⟨"Assign", 1, 4, none⟩ := by
    rw [Backend.FindsLargest, Backend.value_find_abstract hread hns 0 (by decide)]
    rfl
  have houter : (Backend.abstract joinedReader).FindsLargest 0 [] none
      ⟨4, 5, by decide, by decide⟩ ⟨"Assign", 4, 5, none⟩ := by
    rw [Backend.FindsLargest, Backend.value_find_abstract hread hns 0 (by decide)]
    rfl
  have hshrinks : ¬(Backend.abstract joinedReader).KeepsWidth 0 [] none := by
    intro hkeeps
    have hle := hkeeps _ _ ⟨by decide, by decide⟩ _ _ hinner houter
    revert hle
    decide
  have hwithin : joinedTree.SpansWithin := .of_places (by decide)
  have hforward : ∀ x ∈ joinedTree.places, ∀ s ∈ x.2.nodeOrBare.span?, s.1 ≤ s.2 := by decide
  refine ⟨hwithin, fun p s hs => ?_, hinner, houter, hshrinks, fun h => hshrinks (hlayered h)⟩
  obtain ⟨l, hl, hs⟩ := Tree.exists_mem_places_of_spanAt? hs
  exact hforward _ hl s hs

end Enclosure
