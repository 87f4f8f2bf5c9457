import Enclosure.Tree
import Mathlib.Data.List.Infix
import Mathlib.Tactic.Common

/-!
# Places in a tree

A node is found from the root by the numbers of the branches that lead to it.  This list of numbers
is the **place** of the node.  One place is above another one if it is a prefix of it, and it comes
earlier in the text if it is smaller in the lexicographic order: a construct starts before
everything below it, and what is below an earlier branch comes before what is below a later one.

The list of labels that a back end reports has lost the tree.  Writing the place beside each label
gets it back: `Tree.places` is the same list with the places left in, so statements about the list
become statements about the tree, and "the first node of the text that is wrong" can be said without
a traversal.

What is here:

* `Tree.labelAt?`: the label at a place.
* `Tree.Precedes`: the order of the text on places.
* `Tree.visit_eq_preorderAll`: visiting trees one after the other is the recursive order.
* `Tree.places`, with `Tree.map_snd_places`: the labels in order, each with its place.
* `Tree.mem_places_iff`: every place of the tree is listed, and no other one.
* `Tree.pairwise_places`: places are listed in the order of the text.
* `Tree.Lists`: a list that holds the nodes of a sort, each of them once, in the order of the text.
* `Tree.IsFirst`: the first node of a sort, with `Tree.exists_isFirst_of_find?_preorder`: looking
  through the recursive order finds it.
-/

set_option autoImplicit false

namespace Enclosure.Tree

variable {α : Type}

/-! ## Labels at places -/

/-- The label at a place, which is given by the branches that lead there from the root. -/
def labelAt? : Tree α → List Nat → Option α
  | node l _, [] => some l
  | node _ ts, i :: p => ts[i]?.bind fun t => labelAt? t p

@[simp] theorem labelAt?_nil (l : α) (ts : List (Tree α)) : (node l ts).labelAt? [] = some l := rfl

@[simp] theorem labelAt?_cons (l : α) (ts : List (Tree α)) (i : Nat) (p : List Nat) :
    (node l ts).labelAt? (i :: p) = ts[i]?.bind fun t => t.labelAt? p := rfl

theorem labelAt?_root (t : Tree α) : t.labelAt? [] = some t.label := by
  cases t
  rfl

/-- Above a place with a label there are labels all the way. -/
theorem exists_labelAt?_of_append {t : Tree α} {p q : List Nat} {l : α}
    (h : t.labelAt? (p ++ q) = some l) : ∃ m, t.labelAt? p = some m := by
  induction p generalizing t with
  | nil => exact ⟨t.label, t.labelAt?_root⟩
  | cons i p ih =>
    obtain ⟨m, ts⟩ := t
    rw [List.cons_append, labelAt?_cons, Option.bind_eq_some_iff] at h
    obtain ⟨s, hs, hl⟩ := h
    obtain ⟨k, hk⟩ := ih hl
    exact ⟨k, by rw [labelAt?_cons, hs, Option.bind_some, hk]⟩

/-- One place comes before another one in the order of the text. -/
def Precedes (p q : List Nat) : Prop := List.Lex (· < ·) p q

/-- A place comes neither before itself nor before a place above it. -/
theorem Precedes.not_prefix {p q : List Nat} (h : Precedes p q) : ¬q <+: p := by
  induction h with
  | nil => simp
  | cons _ ih => simpa using ih
  | rel hlt =>
    rw [List.cons_prefix_cons]
    exact fun hle => absurd hle.1 (Nat.ne_of_gt hlt)

/-! ## The order of a visit -/

theorem preorderAll_append (ss ts : List (Tree α)) :
    preorderAll (ss ++ ts) = preorderAll ss ++ preorderAll ts := by
  induction ss with
  | nil => rfl
  | cons s ss ih => rw [List.cons_append, preorderAll, preorderAll, ih, List.append_assoc]

/-- **A visit is the recursive order.**  The trees that are still to be visited are the rest of the
order, whichever levels of the tree they come from. -/
theorem visit_eq_preorderAll (ts : List (Tree α)) : visit ts = preorderAll ts := by
  fun_induction visit ts with
  | case1 => rfl
  | case2 l below rest ih =>
    rw [ih, preorderAll_append, preorderAll, preorder, List.cons_append]

theorem preorderAll_singleton (t : Tree α) : preorderAll [t] = t.preorder := by
  rw [preorderAll, preorderAll, List.append_nil]

theorem visit_singleton (t : Tree α) : visit [t] = preorder t := by
  rw [visit_eq_preorderAll, preorderAll_singleton]

/-! ## The order with places -/

mutual

/-- The labels of a tree with their places, each before those below it. -/
def places : Tree α → List (List Nat × α)
  | node l ts => ([], l) :: placesFrom 0 ts

/-- The labels of some neighbouring trees with their places; `i` is the branch of the first one. -/
def placesFrom (i : Nat) : List (Tree α) → List (List Nat × α)
  | [] => []
  | t :: ts => (places t).map (fun x => (i :: x.1, x.2)) ++ placesFrom (i + 1) ts

end

mutual

/-- Without the places this is the recursive order. -/
theorem map_snd_places : ∀ t : Tree α, t.places.map Prod.snd = t.preorder
  | node l ts => by rw [places, preorder, List.map_cons, map_snd_placesFrom]

theorem map_snd_placesFrom : ∀ (i : Nat) (ts : List (Tree α)),
    (placesFrom i ts).map Prod.snd = preorderAll ts
  | _, [] => by rw [placesFrom, preorderAll, List.map_nil]
  | i, t :: ts => by
    rw [placesFrom, preorderAll, List.map_append, map_snd_placesFrom, ← map_snd_places t,
      List.map_map]
    rfl

end

mutual

/-- **The places that are listed** are those at which the tree has a label. -/
theorem mem_places_iff : ∀ (t : Tree α) (p : List Nat) (l : α),
    (p, l) ∈ t.places ↔ t.labelAt? p = some l
  | node m ts, p, l => by
    rw [places, List.mem_cons, mem_placesFrom_iff 0 ts p l]
    cases p with
    | nil => simp [eq_comm]
    | cons i p => simp

theorem mem_placesFrom_iff : ∀ (k : Nat) (ts : List (Tree α)) (p : List Nat) (l : α),
    (p, l) ∈ placesFrom k ts ↔
      ∃ i q, p = (k + i) :: q ∧ (ts[i]?.bind fun t => t.labelAt? q) = some l
  | k, [], p, l => by simp [placesFrom]
  | k, t :: ts, p, l => by
    rw [placesFrom, List.mem_append, mem_placesFrom_iff (k + 1) ts p l, List.mem_map]
    constructor
    · rintro (⟨⟨q, m⟩, hmem, heq⟩ | ⟨i, q, rfl, hl⟩)
      · obtain ⟨rfl, rfl⟩ := Prod.mk.inj heq
        exact ⟨0, q, rfl, (mem_places_iff t q m).mp hmem⟩
      · exact ⟨i + 1, q, by rw [Nat.add_right_comm, Nat.add_assoc], hl⟩
    · rintro ⟨i, q, rfl, hl⟩
      cases i with
      | zero => exact .inl ⟨(q, l), (mem_places_iff t q l).mpr hl, rfl⟩
      | succ i => exact .inr ⟨i, q, by rw [Nat.add_right_comm, Nat.add_assoc], hl⟩

end

mutual

/-- **Places are listed in the order of the text.** -/
theorem pairwise_places : ∀ t : Tree α, t.places.Pairwise fun x y => Precedes x.1 y.1
  | node l ts => by
    rw [places, List.pairwise_cons]
    refine ⟨fun x hx => ?_, pairwise_placesFrom 0 ts⟩
    obtain ⟨i, q, hp, -⟩ := (mem_placesFrom_iff 0 ts x.1 x.2).mp hx
    rw [hp]
    exact .nil

theorem pairwise_placesFrom : ∀ (k : Nat) (ts : List (Tree α)),
    (placesFrom k ts).Pairwise fun x y => Precedes x.1 y.1
  | _, [] => by rw [placesFrom]; exact List.Pairwise.nil
  | k, t :: ts => by
    rw [placesFrom, List.pairwise_append, List.pairwise_map]
    refine ⟨(pairwise_places t).imp fun h => ?_, pairwise_placesFrom (k + 1) ts, ?_⟩
    · exact .cons h
    · intro x hx y hy
      obtain ⟨z, -, rfl⟩ := List.mem_map.mp hx
      obtain ⟨i, q, hp, -⟩ := (mem_placesFrom_iff (k + 1) ts y.1 y.2).mp hy
      rw [hp]
      exact .rel (by omega)

end

/-- **Nothing is listed late**: a place is not followed by itself or by a place above it. -/
theorem pairwise_places_not_isPrefix (t : Tree α) :
    t.places.Pairwise fun a b => ¬b.1 <+: a.1 :=
  t.pairwise_places.imp Precedes.not_prefix

/-- A place is listed before the places below it. -/
theorem mem_before_of_prefix {t : Tree α} {before after : List (List Nat × α)} {p q : List Nat}
    {l m : α} (h : t.places = before ++ (p, l) :: after) (hm : t.labelAt? q = some m)
    (hqp : q <+: p) (hne : q ≠ p) : (q, m) ∈ before := by
  have hpair := h ▸ t.pairwise_places_not_isPrefix
  have hmem := h ▸ (mem_places_iff t q m).mpr hm
  rcases List.mem_append.mp hmem with hmem | hmem
  · exact hmem
  · rcases List.mem_cons.mp hmem with heq | hmem
    · exact absurd (Prod.mk.inj heq).1 hne
    · have hafter := (List.pairwise_cons.mp (List.pairwise_append.mp hpair).2.1).1
      exact absurd hqp (hafter (q, m) hmem)

/-! ## Nodes of a sort -/

/-- A list holds the nodes of a sort, each of them once, in the order of the text. -/
structure Lists (t : Tree α) (sort : List Nat → α → Prop) (xs : List (List Nat × α)) : Prop where
  /-- Each place precedes those after it, so none comes twice. -/
  sorted : xs.Pairwise fun x y => Precedes x.1 y.1
  /-- The nodes of the sort are listed, and no others. -/
  mem_iff : ∀ p l, (p, l) ∈ xs ↔ t.labelAt? p = some l ∧ sort p l

/-- **All nodes** are listed with their places. -/
theorem lists_places (t : Tree α) : t.Lists (fun _ _ => True) t.places :=
  ⟨t.pairwise_places, fun p l => by rw [mem_places_iff, and_true]⟩

/-- Some of the nodes that are listed. -/
theorem Lists.filter {t : Tree α} {sort : List Nat → α → Prop} {xs : List (List Nat × α)}
    (h : t.Lists sort xs) (keep : List Nat × α → Bool) :
    t.Lists (fun p l => sort p l ∧ keep (p, l) = true) (xs.filter keep) where
  sorted := h.sorted.sublist List.filter_sublist
  mem_iff p l := by rw [List.mem_filter, h.mem_iff, and_assoc]

/-- The first node of a sort: its place precedes those of all others. -/
structure IsFirst (t : Tree α) (sort : α → Bool) (p : List Nat) (l : α) : Prop where
  /-- There is such a node. -/
  labelAt : t.labelAt? p = some l
  /-- It is of the sort. -/
  isOf : sort l = true
  /-- All others come later. -/
  precedes : ∀ q m, t.labelAt? q = some m → sort m = true → q = p ∨ Precedes p q

theorem mem_preorder_iff (t : Tree α) (l : α) :
    l ∈ t.preorder ↔ ∃ p, t.labelAt? p = some l := by
  simp [← map_snd_places, List.mem_map, mem_places_iff]

theorem find?_preorder_eq_none_iff (t : Tree α) (sort : α → Bool) :
    t.preorder.find? sort = none ↔ ∀ p l, t.labelAt? p = some l → sort l = false := by
  simp only [List.find?_eq_none, mem_preorder_iff, Bool.not_eq_true]
  exact ⟨fun h p l hl => h l ⟨p, hl⟩, fun h l ⟨p, hl⟩ => h p l hl⟩

/-- **Looking through the recursive order finds the first node of a sort.** -/
theorem exists_isFirst_of_find?_preorder {t : Tree α} {sort : α → Bool} {l : α}
    (h : t.preorder.find? sort = some l) : ∃ p, t.IsFirst sort p l := by
  rw [← map_snd_places, List.find?_map, Option.map_eq_some_iff] at h
  obtain ⟨⟨p, m⟩, hfind, rfl⟩ := h
  obtain ⟨hm, before, after, hsplit, hbefore⟩ := List.find?_eq_some_iff_append.mp hfind
  have hplace : ∀ q k, t.labelAt? q = some k ↔
      (q, k) ∈ before ∨ (q, k) = (p, m) ∨ (q, k) ∈ after := by
    intro q k
    rw [← mem_places_iff, hsplit, List.mem_append, List.mem_cons]
  refine ⟨p, (hplace p m).mpr (.inr (.inl rfl)), hm, fun q k hk hsort => ?_⟩
  rcases (hplace q k).mp hk with hmem | heq | hmem
  · have hnot := hbefore _ hmem
    simp [hsort] at hnot
  · exact .inl (Prod.mk.inj heq).1
  · have hsorted := (List.pairwise_append.mp (hsplit ▸ t.pairwise_places)).2.1
    exact .inr ((List.pairwise_cons.mp hsorted).1 _ hmem)

end Enclosure.Tree
