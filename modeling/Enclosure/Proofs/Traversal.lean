import Enclosure.Proofs.Labels
import Mathlib.Logic.Function.Iterate

/-!
# Visiting a tree with a stack

A visit does not recurse.  It keeps the trees that are still to be visited on a stack; in each turn it
takes the top one off, lists its label, and puts the trees below it on the stack, the last one first.
The stack holds trees from all levels, so nothing that is said of the tree on top outlives a turn.
What does is said of the stack as a whole: the labels that have been listed, followed by the recursive
order of all that is pending, are the recursive order of the tree.  A turn may put any number of trees
on the stack, but it always takes one node off what is pending, and so a visit is over after as many
turns as the tree has nodes.

What is here:

* `Walk.listed_turn_append` and `Walk.size_turn`: what a turn keeps, and what it takes off.
* `Walk.iterate_size`: a visit ends, with all labels in recursive order.
* `Tree.subtreeAt?` and `Tree.exists_block`: a tree below another one is listed without a gap.
* `Tree.IsVisitOrder`: what is asked of the order of a visit.
* `visit_is_preorder`: all of it together, up to the nodes that the back end reports.
-/

set_option autoImplicit false

namespace Enclosure

variable {α : Type}

/-! ## Turns -/

namespace Walk

/-- What is pending, from the top of the stack downwards. -/
def pending (w : Walk α) : List (Tree α) := w.stack.reverse

theorem stack_eq (w : Walk α) : w.stack = w.pending.reverse := (List.reverse_reverse _).symm

variable {w : Walk α}

theorem turn_of_pending_nil (h : w.pending = []) : w.turn = w := by
  rw [turn, stack_eq, h]
  rfl

/-- A turn lists the label on top, and the trees below it are pending instead, before all others. -/
theorem turn_of_pending_cons {l : α} {below rest : List (Tree α)}
    (h : w.pending = .node l below :: rest) :
    w.turn.listed = w.listed ++ [l] ∧ w.turn.pending = below ++ rest := by
  have htop : w.stack = rest.reverse ++ [.node l below] := by
    rw [stack_eq, h, List.reverse_cons]
  have hturn : w.turn = ⟨w.listed ++ [l], rest.reverse ++ below.reverse⟩ := by
    simp only [turn, htop, List.getLast?_concat, List.dropLast_concat]
  rw [hturn]
  exact ⟨rfl, by rw [pending, ← List.reverse_append, List.reverse_reverse]⟩

/-- **What a turn keeps**: the labels that have been listed, and then those that are pending. -/
theorem listed_turn_append (w : Walk α) :
    w.turn.listed ++ Tree.preorderAll w.turn.pending = w.listed ++ Tree.preorderAll w.pending := by
  rcases hpending : w.pending with _ | ⟨⟨l, below⟩, rest⟩
  · rw [turn_of_pending_nil hpending, hpending]
  · obtain ⟨hlisted, hnext⟩ := turn_of_pending_cons hpending
    rw [hlisted, hnext, Tree.preorderAll_append, Tree.preorderAll, Tree.preorder, List.append_assoc]
    rfl

/-- **What a turn takes off**: one node, wherever it stands in the tree. -/
theorem size_turn (w : Walk α) : Tree.sizeAll w.turn.pending = Tree.sizeAll w.pending - 1 := by
  rcases hpending : w.pending with _ | ⟨⟨l, below⟩, rest⟩
  · rw [turn_of_pending_nil hpending, hpending]
    rfl
  · rw [(turn_of_pending_cons hpending).2, Tree.sizeAll_append, Tree.sizeAll, Tree.size]
    omega

/-! ## Whole visits -/

theorem listed_iterate_append (w : Walk α) (n : Nat) :
    (turn^[n] w).listed ++ Tree.preorderAll (turn^[n] w).pending =
      w.listed ++ Tree.preorderAll w.pending := by
  induction n with
  | zero => rfl
  | succ n ih => rw [Function.iterate_succ_apply', listed_turn_append, ih]

theorem size_iterate (w : Walk α) (n : Nat) :
    Tree.sizeAll (turn^[n] w).pending = Tree.sizeAll w.pending - n := by
  induction n with
  | zero => rfl
  | succ n ih => rw [Function.iterate_succ_apply', size_turn, ih, Nat.sub_sub]

/-- Every tree has a node, so only no trees have none. -/
theorem sizeAll_eq_zero_iff {ts : List (Tree α)} : Tree.sizeAll ts = 0 ↔ ts = [] := by
  rcases ts with _ | ⟨⟨l, below⟩, rest⟩
  · exact iff_of_true rfl rfl
  · simp [Tree.sizeAll, Tree.size]

theorem pending_start (t : Tree α) : (start t).pending = [t] := rfl

theorem size_pending_start (t : Tree α) : Tree.sizeAll (start t).pending = t.size := by
  rw [pending_start, Tree.sizeAll, Tree.sizeAll, Nat.add_zero]

/-- **A visit is over** after as many turns as there are nodes, and not before. -/
theorem stack_iterate_eq_nil_iff (t : Tree α) (n : Nat) :
    (turn^[n] (start t)).stack = [] ↔ t.size ≤ n := by
  rw [← List.reverse_eq_nil_iff, ← sizeAll_eq_zero_iff]
  change Tree.sizeAll (turn^[n] (start t)).pending = 0 ↔ _
  rw [size_iterate, size_pending_start, Nat.sub_eq_zero_iff_le]

/-- **What a visit lists**, once it is over. -/
theorem iterate_size (t : Tree α) : turn^[t.size] (start t) = ⟨Tree.visit [t], []⟩ := by
  have hstack := (stack_iterate_eq_nil_iff t t.size).mpr le_rfl
  have hlisted := listed_iterate_append (start t) t.size
  rw [pending_start, ← Tree.visit_eq_preorderAll [t], pending, hstack, List.reverse_nil,
    Tree.preorderAll, List.append_nil] at hlisted
  calc turn^[t.size] (start t)
      = ⟨(turn^[t.size] (start t)).listed, (turn^[t.size] (start t)).stack⟩ := rfl
    _ = ⟨Tree.visit [t], []⟩ := by rw [hlisted, hstack]; rfl

end Walk

/-! ## The order of a visit -/

namespace Tree

/-- The root comes first, and then the trees below it, each in an order of its own. -/
theorem visit_node (t : Tree α) : visit [t] = t.label :: t.children.flatMap fun s => visit [s] := by
  have hbelow (ts : List (Tree α)) : preorderAll ts = ts.flatMap fun s => visit [s] := by
    induction ts with
    | nil => rfl
    | cons s ts ih => rw [preorderAll, ih, List.flatMap_cons, visit_singleton]
  obtain ⟨l, ts⟩ := t
  rw [visit_singleton, preorder, hbelow]
  rfl

/-- The tree at a place. -/
def subtreeAt? : Tree α → List Nat → Option (Tree α)
  | t, [] => some t
  | node _ ts, i :: p => ts[i]?.bind fun s => subtreeAt? s p

/-- The list of a tree among its neighbours is a part of theirs. -/
theorem exists_block_from {ts : List (Tree α)} {i : Nat} {s : Tree α} (h : ts[i]? = some s) (k : Nat) :
    ∃ before after, placesFrom k ts =
      before ++ s.places.map (fun x => ((k + i) :: x.1, x.2)) ++ after := by
  induction ts generalizing i k with
  | nil => cases h
  | cons t ts ih =>
    cases i with
    | zero =>
      obtain rfl := Option.some_inj.mp h
      exact ⟨[], placesFrom (k + 1) ts, rfl⟩
    | succ i =>
      obtain ⟨before, after, hblock⟩ := ih h (k + 1)
      refine ⟨t.places.map (fun x => (k :: x.1, x.2)) ++ before, after, ?_⟩
      rw [placesFrom, hblock, Nat.add_right_comm, Nat.add_assoc k i 1]
      simp only [List.append_assoc]

/-- **A tree below another one is listed without a gap**, in its own order. -/
theorem exists_block {t s : Tree α} {p : List Nat} (h : t.subtreeAt? p = some s) :
    ∃ before after, t.places = before ++ s.places.map (fun x => (p ++ x.1, x.2)) ++ after := by
  induction p generalizing t with
  | nil =>
    obtain rfl : t = s := by
      cases t
      exact Option.some_inj.mp h
    exact ⟨[], [], by simp⟩
  | cons i p ih =>
    obtain ⟨l, ts⟩ := t
    obtain ⟨u, hu, hs⟩ := Option.bind_eq_some_iff.mp h
    obtain ⟨front, back, houter⟩ := exists_block_from hu 0
    obtain ⟨before, after, hinner⟩ := ih hs
    refine ⟨([], l) :: front ++ before.map (fun x => (i :: x.1, x.2)),
      after.map (fun x => (i :: x.1, x.2)) ++ back, ?_⟩
    rw [places, houter, hinner, Nat.zero_add]
    simp [Function.comp_def]

/-- A list has the nodes of a tree, each with its place, in the order of a visit. -/
structure IsVisitOrder (t : Tree α) (xs : List (List Nat × α)) : Prop where
  /-- The nodes of the tree are listed, and no others. -/
  mem_iff : ∀ p l, (p, l) ∈ xs ↔ t.labelAt? p = some l
  /-- None is listed twice. -/
  once : (xs.map Prod.fst).Nodup
  /-- A node comes before all that are below it. -/
  before_below : ∀ {i j : Nat} {p q l m}, xs[i]? = some (p, l) → xs[j]? = some (q, m) → p <+: q →
    p ≠ q → i < j
  /-- A tree below comes in one piece, which is its own list. -/
  block : ∀ {p s}, t.subtreeAt? p = some s →
    ∃ before after, xs = before ++ s.places.map (fun x => (p ++ x.1, x.2)) ++ after

theorem isVisitOrder_places (t : Tree α) : t.IsVisitOrder t.places where
  mem_iff := mem_places_iff t
  once := by
    rw [List.Nodup, List.pairwise_map]
    refine t.pairwise_places_not_isPrefix.imp fun hlate heq => hlate ?_
    rw [heq]
  before_below := by
    intro i j p q l m hp hq hpq hne
    obtain ⟨hi, hp⟩ := List.getElem?_eq_some_iff.mp hp
    obtain ⟨hj, hq⟩ := List.getElem?_eq_some_iff.mp hq
    by_contra hle
    rcases Nat.lt_or_eq_of_le (Nat.not_lt.mp hle) with hlt | rfl
    · have hlate := List.pairwise_iff_getElem.mp t.pairwise_places_not_isPrefix j i hj hi hlt
      rw [hp, hq] at hlate
      exact hlate hpq
    · exact hne (congrArg Prod.fst (hp.symm.trans hq))
  block := exists_block

end Tree

/-! ## The nodes of a visit -/

namespace Abstract

/-- Nodes are made of labels one by one, up to the first one of which none can be made. -/
theorem nodesOf_eq_mapM (ls : List Label) : nodesOf ls = ls.mapM Label.node := by
  induction ls with
  | nil => rfl
  | cons l ls ih =>
    rw [nodesOf, List.mapM_cons, ih]
    cases l.node with
    | error fs => rfl
    | ok n =>
      cases ls.mapM Label.node with
      | error fs => rfl
      | ok ns => rfl

/-- **A visit is the recursive order.**  It is over after as many turns as the tree has nodes, and not
before.  It lists the root and then, one after the other, the lists of the trees below it; so it lists
every node once, before all that are below it, and each tree below in one piece.  The back end makes
the nodes that it reports of this list, one by one. -/
theorem visit_is_preorder (t : Tree) :
    (∀ n, (Walk.turn^[n] (.start t)).stack = [] ↔ t.size ≤ n) ∧
    Walk.turn^[t.size] (.start t) = ⟨Tree.visit [t], []⟩ ∧
    Tree.visit [t] = t.label :: t.children.flatMap (fun s => Tree.visit [s]) ∧
    t.places.map Prod.snd = Tree.visit [t] ∧ t.IsVisitOrder t.places ∧
    ∀ (read : Codes → Except Fault Tree) (source : Codes) (earlier : Nat), read source = .ok t →
      ((Backend.abstract read).answer earlier source).value =
        ((Tree.visit [t]).mapM Label.node).mapError fun fs => .invalid (faultsMessage fs) := by
  refine ⟨Walk.stack_iterate_eq_nil_iff t, Walk.iterate_size t, t.visit_node,
    t.map_snd_places.trans t.visit_singleton.symm, t.isVisitOrder_places,
    fun read source earlier hread => ?_⟩
  rw [Backend.value_answer_abstract hread, Tree.nodes, nodesOf_eq_mapM]

/-- A tree whose first branch has a level more than the second one. -/
def branchedTree : Tree :=
  .node { kind := "Module" }
    [.node { kind := "Expr", first := .int 1, last := .int 1 }
        [.node { kind := "Name", first := .int 1, last := .int 1 } []],
      .node { kind := "Pass", first := .int 2, last := .int 2 } []]

/-- The visit of this tree goes on after three turns and is over after four, and the back end reports
the name before the second statement, although that waits on the stack since the first turn. -/
theorem branchedTree_visited :
    (Walk.turn^[3] (.start branchedTree)).stack ≠ [] ∧
    (Walk.turn^[4] (.start branchedTree)).stack = [] ∧
    ((Backend.abstract fun _ => .ok branchedTree).answer 0 []).value =
      .ok [{ kind := "Module" }, ⟨"Expr", some 1, some 1, none⟩, ⟨"Name", some 1, some 1, none⟩,
        ⟨"Pass", some 2, some 2, none⟩] := by
  obtain ⟨hover, -, -, -, -, hanswer⟩ := visit_is_preorder branchedTree
  have hsize : branchedTree.size = 4 := rfl
  refine ⟨fun h => absurd ((hover 3).mp h) (by rw [hsize]; decide), (hover 4).mpr hsize.le, ?_⟩
  rw [hanswer (fun _ => .ok branchedTree) [] 0 rfl, Tree.visit_singleton]
  rfl

end Abstract
end Enclosure
