import Enclosure.Proofs.Labels

/-!
# Outermost and innermost constructs

A search sees the nodes of a tree as a list in which each node stands before those below it, and it
keeps the first of equally wide ones.  On the tree this means that the outermost of a tie is found.
Where spans nest, as those of a program do, the nodes around a range form one chain from the root
downwards, and a search finds an end of it.

What is here:

* `Tree.EligibleAt`: a node that takes part in a search, with its place.
* `Tree.SpansWithin` and `Tree.SpansNest`: spans lie within those above, and apart from all others.
* `Tree.chosen_spec`: the chosen node beats every other one that takes part, and those above it
  strictly.
* `Tree.exists_ends_of_chain`: the topmost and the deepest of a chain.
* `find_on_tree_outermost`: what a search finds in a tree, in both modes.
-/

set_option autoImplicit false

namespace Enclosure.Abstract.Tree

open Enclosure.Tree

/-- A list in which everything is related to all that follows has a first and a last element. -/
theorem exists_ends_of_pairwise {α : Type} {r : α → α → Prop} (hrefl : ∀ x, r x x) {xs : List α}
    (h : xs.Pairwise r) (hne : xs ≠ []) :
    ∃ a ∈ xs, ∃ b ∈ xs, ∀ x ∈ xs, r a x ∧ r x b := by
  refine ⟨xs.head hne, List.head_mem hne, xs.getLast hne, List.getLast_mem hne, fun x hx => ?_⟩
  constructor
  · rw [← List.cons_head_tail hne] at h hx
    rcases List.mem_cons.mp hx with rfl | hx
    · exact hrefl _
    · exact (List.pairwise_cons.mp h).1 x hx
  · rw [← List.dropLast_append_getLast hne] at h hx
    rcases List.mem_append.mp hx with hx | hx
    · exact (List.pairwise_append.mp h).2.2 x hx _ (List.mem_singleton_self _)
    · exact List.mem_singleton.mp hx ▸ hrefl _

/-! ## Spans at places -/

/-- The span of the node at a place. -/
def spanAt? (t : Tree) (p : List Nat) : Option (Int × Int) := (t.nodeAt? p).bind Node.span?

/-- Every span lies within the spans above it. -/
structure SpansWithin (t : Tree) : Prop where
  /-- A node below another one has no line that the other one does not have. -/
  within : ∀ {p q s u}, t.spanAt? p = some s → t.spanAt? q = some u → p <+: q →
    s.1 ≤ u.1 ∧ u.2 ≤ s.2

/-- Spans are nested: each lies within those above it, and shares no line with one that is neither
above nor below it.  Whether a span is reversed does not matter. -/
structure SpansNest (t : Tree) : Prop extends SpansWithin t where
  /-- Nodes of different branches share no line. -/
  apart : ∀ {p q s u}, t.spanAt? p = some s → t.spanAt? q = some u → ¬p <+: q → ¬q <+: p →
    ∀ line, ¬(s.1 ≤ line ∧ line ≤ s.2 ∧ u.1 ≤ line ∧ line ≤ u.2)

theorem exists_mem_places_of_spanAt? {t : Tree} {p : List Nat} {s : Int × Int}
    (h : t.spanAt? p = some s) : ∃ l, (p, l) ∈ t.places ∧ l.nodeOrBare.span? = some s := by
  obtain ⟨n, hn, hs⟩ := Option.bind_eq_some_iff.mp h
  obtain ⟨l, hl, rfl⟩ := exists_mem_places_of_nodeAt? hn
  exact ⟨l, hl, hs⟩

/-- It is enough to compare the spans of the places that are listed. -/
theorem SpansWithin.of_places {t : Tree}
    (h : ∀ x ∈ t.places, ∀ y ∈ t.places, ∀ s ∈ x.2.nodeOrBare.span?, ∀ u ∈ y.2.nodeOrBare.span?,
      x.1 <+: y.1 → s.1 ≤ u.1 ∧ u.2 ≤ s.2) : t.SpansWithin where
  within hs hu hpq := by
    obtain ⟨l, hl, hs⟩ := exists_mem_places_of_spanAt? hs
    obtain ⟨k, hk, hu⟩ := exists_mem_places_of_spanAt? hu
    exact h _ hl _ hk _ hs _ hu hpq

theorem SpansNest.of_places {t : Tree}
    (h : ∀ x ∈ t.places, ∀ y ∈ t.places, ∀ s ∈ x.2.nodeOrBare.span?, ∀ u ∈ y.2.nodeOrBare.span?,
      (x.1 <+: y.1 → s.1 ≤ u.1 ∧ u.2 ≤ s.2) ∧
        (x.1 <+: y.1 ∨ y.1 <+: x.1 ∨ s.2 < u.1 ∨ u.2 < s.1)) : t.SpansNest where
  toSpansWithin := .of_places fun x hx y hy s hs u hu => (h x hx y hy s hs u hu).1
  apart hs hu hpq hqp line hline := by
    obtain ⟨l, hl, hs⟩ := exists_mem_places_of_spanAt? hs
    obtain ⟨k, hk, hu⟩ := exists_mem_places_of_spanAt? hu
    have hsep := ((h _ hl _ hk _ hs _ hu).2.resolve_left hpq).resolve_left hqp
    omega

theorem spanAt?_eq_some_of_nodeAt? {t : Tree} {p : List Nat} {n : Node} {s : Int × Int}
    (hn : t.nodeAt? p = some n) (hs : n.span? = some s) : t.spanAt? p = some s := by
  rw [spanAt?, hn, Option.bind_some, hs]

/-- The node at a place takes part in a search. -/
def EligibleAt (t : Tree) (range : LineRange) (kinds : Kinds) (p : List Nat) (n : Node) : Prop :=
  t.nodeAt? p = some n ∧ n.IsEligible range kinds

section

variable {t : Tree} {range : LineRange} {kinds : Kinds}

/-- A node that takes part has a span, and the range lies within it. -/
theorem EligibleAt.exists_span {p : List Nat} {n : Node} (h : t.EligibleAt range kinds p n) :
    ∃ s, n.span? = some s ∧ t.spanAt? p = some s ∧ n.width? = some (s.2 - s.1) ∧
      s.1 ≤ range.start ∧ range.stop ≤ s.2 := by
  obtain ⟨first, last, hs, hfirst, hlast⟩ := (Node.contains_eq_true_iff n range).mp h.2.1
  exact ⟨(first, last), hs, spanAt?_eq_some_of_nodeAt? h.1 hs, by rw [Node.width?, hs]; rfl,
    hfirst, hlast⟩

/-- **The nodes around a range form a chain**: of two places, one is above the other. -/
theorem SpansNest.chain (hnest : t.SpansNest) (hrange : range.isEmpty = false)
    {p q : List Nat} {m n : Node} (hp : t.EligibleAt range kinds p m)
    (hq : t.EligibleAt range kinds q n) : p <+: q ∨ q <+: p := by
  obtain ⟨s, -, hs, -, hs1, hs2⟩ := hp.exists_span
  obtain ⟨u, -, hu, -, hu1, hu2⟩ := hq.exists_span
  have hle := (LineRange.isEmpty_eq_false_iff range).mp hrange
  by_contra h
  rw [not_or] at h
  -- both spans hold the first line of the range
  exact hnest.apart hs hu h.1 h.2 range.start ⟨hs1, by omega, hu1, by omega⟩

/-! ## The chosen node -/

/-- The label that a search chooses, with its place. -/
def chosen (t : Tree) (range : LineRange) (mode : Mode) (kinds : Kinds) :
    Option (List Nat × Label) :=
  selectBy (fun x => x.2.nodeOrBare) t.places range mode kinds

variable {ns : List Node} (hns : t.nodes = .ok ns)

include hns

theorem eligibleAt_of_mem_places {p : List Nat} {l : Label} {w : Int} (hp : (p, l) ∈ t.places)
    (hw : l.nodeOrBare.eligibleWidth? range kinds = some w) :
    t.EligibleAt range kinds p l.nodeOrBare ∧ l.nodeOrBare.width? = some w := by
  obtain ⟨helig, hwidth⟩ := (Node.eligibleWidth?_eq_some_iff _ _ _ _).mp hw
  exact ⟨⟨nodeAt?_of_mem_places hns hp, helig⟩, hwidth⟩

/-- The chosen node takes part; none that takes part is better; and those above it are worse,
because they come first. -/
theorem chosen_spec {mode : Mode} {p : List Nat} {l : Label}
    (h : t.chosen range mode kinds = some (p, l)) :
    ∃ w, t.EligibleAt range kinds p l.nodeOrBare ∧ l.nodeOrBare.width? = some w ∧
      (∀ q m v, t.EligibleAt range kinds q m → m.width? = some v → mode.prefers v w = false) ∧
      (∀ q m v, t.EligibleAt range kinds q m → m.width? = some v → q <+: p → q ≠ p →
        mode.prefers w v = true) := by
  rw [chosen, selectBy] at h
  split at h
  · exact absurd h (by simp)
  obtain ⟨before, w, after, hsplit, hbest⟩ := (Mode.choose_eq_some_iff _ _ _ _).mp h
  have hp : (p, l) ∈ t.places := by simp [hsplit]
  obtain ⟨helig, hwidth⟩ := eligibleAt_of_mem_places hns hp hbest.width_eq
  refine ⟨w, helig, hwidth, fun q m v hq hv => ?_, fun q m v hq hv hqp hne => ?_⟩
  · obtain ⟨k, hk, rfl⟩ := exists_mem_places_of_nodeAt? hq.1
    rw [hsplit] at hk
    exact hbest.no_better hk ((Node.eligibleWidth?_eq_some_iff _ _ _ _).mpr ⟨hq.2, hv⟩)
  · obtain ⟨k, hk, rfl⟩ := exists_mem_places_of_nodeAt? hq.1
    have hbefore := mem_before_of_prefix hsplit ((mem_places_iff t q k).mp hk) hqp hne
    exact hbest.before_worse _ hbefore v ((Node.eligibleWidth?_eq_some_iff _ _ _ _).mpr ⟨hq.2, hv⟩)

theorem chosen_eq_none_iff (hrange : range.isEmpty = false) (mode : Mode) :
    t.chosen range mode kinds = none ↔ ∀ p n, ¬t.EligibleAt range kinds p n := by
  rw [chosen, selectBy, if_neg (by simp [hrange]), Mode.choose_eq_none_iff]
  constructor
  · intro h p n hpn
    obtain ⟨l, hl, rfl⟩ := exists_mem_places_of_nodeAt? hpn.1
    exact (Node.eligibleWidth?_eq_none_iff _ _ _).mp (h _ hl) hpn.2
  · intro h x hx
    rw [Node.eligibleWidth?_eq_none_iff]
    exact fun helig => h x.1 _ ⟨nodeAt?_of_mem_places hns hx, helig⟩

/-! ## The ends of a chain -/

/-- A chain that is not empty has a topmost and a deepest place. -/
theorem exists_ends_of_chain
    (hchain : ∀ p q m n, t.EligibleAt range kinds p m → t.EligibleAt range kinds q n →
      p <+: q ∨ q <+: p)
    {p : List Nat} {n : Node} (hp : t.EligibleAt range kinds p n) :
    ∃ top m bottom k, t.EligibleAt range kinds top m ∧ t.EligibleAt range kinds bottom k ∧
      ∀ q x, t.EligibleAt range kinds q x → top <+: q ∧ q <+: bottom := by
  -- the places that take part, in order: each is above all that follow
  let taking := t.places.filter fun x => (x.2.nodeOrBare.eligibleWidth? range kinds).isSome
  have helig : ∀ x ∈ taking, t.EligibleAt range kinds x.1 x.2.nodeOrBare := by
    intro x hx
    obtain ⟨hx, hw⟩ := List.mem_filter.mp hx
    obtain ⟨w, hw⟩ := Option.isSome_iff_exists.mp hw
    exact (eligibleAt_of_mem_places hns hx hw).1
  have htaking : ∀ q m, t.EligibleAt range kinds q m → ∃ l, (q, l) ∈ taking := by
    intro q m hq
    obtain ⟨l, hl, rfl⟩ := exists_mem_places_of_nodeAt? hq.1
    obtain ⟨s, -, -, hw, -⟩ := hq.exists_span
    have hw' := (Node.eligibleWidth?_eq_some_iff _ _ _ _).mpr ⟨hq.2, hw⟩
    exact ⟨l, List.mem_filter.mpr ⟨hl, by simp [hw']⟩⟩
  have hsorted : taking.Pairwise fun x y => x.1 <+: y.1 := by
    refine ((pairwise_places_not_isPrefix t).sublist List.filter_sublist).imp_of_mem fun hx hy hxy => ?_
    exact (hchain _ _ _ _ (helig _ hx) (helig _ hy)).resolve_right hxy
  obtain ⟨l, hl⟩ := htaking p n hp
  obtain ⟨top, htop, bottom, hbottom, hends⟩ :=
    exists_ends_of_pairwise (fun x => List.prefix_refl x.1) hsorted (List.ne_nil_of_mem hl)
  refine ⟨top.1, _, bottom.1, _, helig top htop, helig bottom hbottom, fun q x hq => ?_⟩
  obtain ⟨l, hl⟩ := htaking q x hq
  exact hends (q, l) hl

/-- In largest mode the chosen place is the topmost one. -/
theorem chosen_largest (hwithin : t.SpansWithin) {p top : List Nat} {l : Label} {m : Node}
    (h : t.chosen range .largest kinds = some (p, l)) (htop : t.EligibleAt range kinds top m)
    (hp : top <+: p) : top = p := by
  obtain ⟨w, helig, hw, -, habove⟩ := chosen_spec hns h
  obtain ⟨s, -, hs, hsw, -⟩ := helig.exists_span
  obtain ⟨u, -, hu, huw, -⟩ := htop.exists_span
  by_contra hne
  have hworse := habove top m _ htop huw hp hne
  have hsub := hwithin.within hu hs hp
  rw [hw, Option.some_inj] at hsw
  simp only [Mode.prefers, decide_eq_true_eq] at hworse
  omega

/-- In smallest mode the chosen place is the topmost one among those that have the span of the
deepest one. -/
theorem chosen_smallest (hwithin : t.SpansWithin) {p bottom : List Nat} {l : Label} {k : Node}
    (h : t.chosen range .smallest kinds = some (p, l))
    (hbottom : t.EligibleAt range kinds bottom k) (hp : p <+: bottom) :
    l.nodeOrBare.span? = k.span? ∧
      ∀ q y, t.EligibleAt range kinds q y → y.span? = k.span? → q <+: p → q = p := by
  obtain ⟨w, helig, hw, hbest, habove⟩ := chosen_spec hns h
  obtain ⟨s, hs, hsp, hsw, -⟩ := helig.exists_span
  obtain ⟨u, hu, hup, huw, -⟩ := hbottom.exists_span
  rw [hw, Option.some_inj] at hsw
  -- the chosen span holds the deepest one and is no wider, so it is the same
  have hspan : s = u := by
    have hsub := hwithin.within hsp hup hp
    have hle := hbest bottom k _ hbottom huw
    simp only [Mode.prefers, decide_eq_false_iff_not] at hle
    exact Prod.ext (by omega) (by omega)
  refine ⟨by rw [hs, hu, hspan], fun q y hq hy hqp => ?_⟩
  obtain ⟨v, hv, -, hvw, -⟩ := hq.exists_span
  rw [hy, hu, Option.some_inj] at hv
  by_contra hne
  have hworse := habove q y _ hq hvw hqp hne
  simp only [Mode.prefers, decide_eq_true_eq] at hworse
  rw [hsw, hspan, hv] at hworse
  omega

end
end Enclosure.Abstract.Tree

/-! ## What a search finds in a tree -/

namespace Enclosure

open Abstract

/-- **A search in a tree.**  Whatever the tree, nothing above the construct that is found is just as
wide and takes part as well.  Where spans nest, the nodes that take part form a chain; nothing is
found exactly when it is empty; otherwise its topmost node is found in largest mode, and in smallest
mode the topmost one of those that have the span of its deepest node. -/
theorem find_on_tree_outermost {read : Codes → Except Abstract.Fault Abstract.Tree} {source : Codes}
    {t : Abstract.Tree} (hread : read source = .ok t) (earlier : Nat) {range : LineRange}
    (hrange : range.isEmpty = false) (mode : Mode) (kinds : Kinds) :
    (∀ c, ((Backend.abstract read).find earlier source range mode kinds).value = .ok (some c) →
      ∃ p n, t.EligibleAt range kinds p n ∧ c.IsOf n ∧
        ∀ q m, q <+: p → q ≠ p → t.EligibleAt range kinds q m → m.width? ≠ n.width?) ∧
    ((∀ l ∈ t.preorder, l.IsProper) → t.SpansNest →
      (∀ p q m n, t.EligibleAt range kinds p m → t.EligibleAt range kinds q n →
        p <+: q ∨ q <+: p) ∧
      (((Backend.abstract read).find earlier source range mode kinds).value = .ok none ↔
        ∀ p n, ¬t.EligibleAt range kinds p n) ∧
      (∀ p n, t.EligibleAt range kinds p n →
        ∃ top m bottom k, t.EligibleAt range kinds top m ∧ t.EligibleAt range kinds bottom k ∧
          (∀ q x, t.EligibleAt range kinds q x → top <+: q ∧ q <+: bottom) ∧
          (mode = .largest → ∃ c, c.IsOf m ∧
            ((Backend.abstract read).find earlier source range mode kinds).value = .ok (some c)) ∧
          (mode = .smallest → ∃ r x, t.EligibleAt range kinds r x ∧ x.span? = k.span? ∧
            (∀ q y, t.EligibleAt range kinds q y → y.span? = k.span? → r <+: q) ∧ ∃ c, c.IsOf x ∧
            ((Backend.abstract read).find earlier source range mode kinds).value =
              .ok (some c)))) := by
  constructor
  · intro c hc
    cases hns : t.nodes with
    | error fs =>
      rw [Backend.value_find, if_neg (by simp [hrange]), Backend.value_answer_abstract hread,
        hns] at hc
      simp [Except.mapError, Failure.invalid, Failure.isForeign] at hc
    | ok ns =>
      rw [Backend.value_find_abstract hread hns earlier hrange, Except.ok.injEq,
        Option.bind_eq_some_iff] at hc
      obtain ⟨⟨p, l⟩, hchosen, hc⟩ := hc
      obtain ⟨w, helig, hw, -, habove⟩ := Tree.chosen_spec hns hchosen
      refine ⟨p, _, helig, Node.context?_eq_some_iff.mp hc, fun q m hqp hne hq heq => ?_⟩
      -- a node above that is just as wide would have to be worse than itself
      have hworse := habove q m w hq (heq.trans hw) hqp hne
      cases mode <;> simp [Mode.prefers] at hworse
  · intro hproper hnest
    have hns : t.nodes = .ok (t.preorder.map Label.nodeOrBare) := by
      rw [Tree.nodes_eq_nodesOf_preorder, nodesOf_eq_ok_of_isProper hproper]
    have hchain : ∀ p q m n, t.EligibleAt range kinds p m → t.EligibleAt range kinds q n →
        p <+: q ∨ q <+: p := fun p q m n hp hq => hnest.chain hrange hp hq
    rw [Backend.value_find_abstract hread hns earlier hrange]
    refine ⟨hchain, ?_, ?_⟩
    · rw [← Tree.chosen_eq_none_iff hns hrange mode, Except.ok.injEq,
        Option.bind_eq_none_iff, Tree.chosen, Option.eq_none_iff_forall_ne_some]
      refine forall_congr' fun x => ⟨fun h hx => ?_, fun h hx => absurd hx h⟩
      obtain ⟨w, helig, -⟩ := Tree.chosen_spec hns (p := x.1) (l := x.2) hx
      obtain ⟨c, hc⟩ := Node.exists_context?_of_contains helig.2.1
      simp [h hx] at hc
    · intro p n hp
      obtain ⟨top, m, bottom, k, htop, hbottom, hends⟩ := Tree.exists_ends_of_chain hns hchain hp
      obtain ⟨⟨r, l⟩, hchosen⟩ : ∃ x, t.chosen range mode kinds = some x := by
        rw [← Option.ne_none_iff_exists', ne_eq, Tree.chosen_eq_none_iff hns hrange]
        exact fun h => h p n hp
      obtain ⟨w, helig, -⟩ := Tree.chosen_spec hns hchosen
      obtain ⟨hfirst, hlast⟩ := hends r _ helig
      obtain ⟨c, hc⟩ := Node.exists_context?_of_contains helig.2.1
      have hof : c.IsOf l.nodeOrBare := Node.context?_eq_some_iff.mp hc
      refine ⟨top, m, bottom, k, htop, hbottom, hends, ?_, ?_⟩
      · rintro rfl
        obtain rfl := Tree.chosen_largest hns hnest.toSpansWithin hchosen htop hfirst
        have hm : m = l.nodeOrBare := Option.some_inj.mp (htop.1.symm.trans helig.1)
        exact ⟨c, hm ▸ hof, by rw [← Tree.chosen, hchosen, Option.bind_some, hc]⟩
      · rintro rfl
        obtain ⟨hspan, htopmost⟩ :=
          Tree.chosen_smallest hns hnest.toSpansWithin hchosen hbottom hlast
        refine ⟨r, _, helig, hspan, fun q y hq hy => ?_, c, hof,
          by rw [← Tree.chosen, hchosen, Option.bind_some, hc]⟩
        rcases hchain r q _ y helig hq with hrq | hqr
        · exact hrq
        · exact (htopmost q y hq hy hqr) ▸ List.prefix_refl _

/-- A function whose body is one block with another one of the same lines in it. -/
def nestedTree : Abstract.Tree :=
  .node { kind := "Module" }
    [.node { kind := "FunctionDef", first := .int 1, last := .int 4, name := .ofString "f" }
      [.node { kind := "arguments" } [],
        .node { kind := "With", first := .int 2, last := .int 4 }
          [.node { kind := "If", first := .int 2, last := .int 4 }
            [.node { kind := "Pass", first := .int 4, last := .int 4 } []]]],
      .node { kind := "Expr", first := .int 6, last := .int 6 } []]

/-- A reader that knows this tree alone. -/
def nestedReader (_ : Codes) : Except Abstract.Fault Abstract.Tree := .ok nestedTree

/-- The chain around lines 3 and 4 of the example, searched for its innermost construct. -/
theorem find_on_nestedTree :
    nestedTree.SpansNest ∧ (∀ l ∈ nestedTree.preorder, l.IsProper) ∧
      nestedTree.EligibleAt ⟨3, 4, by decide, by decide⟩ none [0, 1]
        ⟨"With", some 2, some 4, none⟩ ∧
      ∃ r x c, nestedTree.EligibleAt ⟨3, 4, by decide, by decide⟩ none r x ∧ c.IsOf x ∧
        ((Backend.abstract nestedReader).find 0 [] ⟨3, 4, by decide, by decide⟩
          .smallest none).value = .ok (some c) := by
  have hread : nestedReader [] = .ok nestedTree := rfl
  have hrange : LineRange.isEmpty ⟨3, 4, by decide, by decide⟩ = false := by decide
  have hnest : nestedTree.SpansNest := Tree.SpansNest.of_places (by decide)
  have hproper : ∀ l ∈ nestedTree.preorder, l.IsProper := by
    simp only [nestedTree, Tree.preorder, Tree.preorderAll, List.cons_append, List.nil_append,
      List.append_nil, List.forall_mem_cons, List.not_mem_nil, false_imp_iff, implies_true]
    exact ⟨⟨.absent, .absent, trivial⟩, ⟨.whole 1, .whole 4, Codes.noSurrogates_ofString "f"⟩,
      ⟨.absent, .absent, trivial⟩, ⟨.whole 2, .whole 4, trivial⟩, ⟨.whole 2, .whole 4, trivial⟩,
      ⟨.whole 4, .whole 4, trivial⟩, ⟨.whole 6, .whole 6, trivial⟩, trivial⟩
  have helig : nestedTree.EligibleAt ⟨3, 4, by decide, by decide⟩ none [0, 1]
      ⟨"With", some 2, some 4, none⟩ := ⟨by decide, by decide, by decide⟩
  obtain ⟨_, _, _, _, -, -, -, -, hsmallest⟩ :=
    (find_on_tree_outermost hread 0 hrange .smallest none).2 hproper hnest |>.2.2 [0, 1] _ helig
  obtain ⟨r, x, hr, -, -, c, hc, hfind⟩ := hsmallest rfl
  exact ⟨hnest, hproper, helig, r, x, c, hr, hc, hfind⟩

end Enclosure
