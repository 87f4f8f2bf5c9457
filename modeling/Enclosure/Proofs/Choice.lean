import Enclosure.Node.Select
import Mathlib.Data.List.Induction
import Mathlib.Tactic.Common

/-!
# What a choice finds

`Mode.choose` walks along a list and keeps the best element so far.  This file says what is left in
the end, without the walk: the chosen element splits the list into a part in which every element is
worse and a part in which no element is better.  Such a split is unique, so it decides the choice.

What is here:

* `Mode.FirstBest`: an element that is better than everything before it and at least as good as
  everything after it.
* `Mode.choose_eq_some_iff` and `Mode.choose_eq_none_iff`: what `choose` returns.
* `select_map`: a search may just as well choose among things that carry nodes.
* `Node.eligibleWidth?_eq_some_iff`: which nodes take part at all.
-/

set_option autoImplicit false

namespace Enclosure
namespace Mode

variable {α β : Type}

/-! ## Comparing widths -/

theorem prefers_trans (mode : Mode) {u v w : Int} (h : mode.prefers u v = true)
    (h' : mode.prefers v w = true) : mode.prefers u w = true := by
  cases mode <;> simp only [prefers, decide_eq_true_eq] at h h' ⊢ <;> omega

theorem prefers_of_not_prefers (mode : Mode) {u v w : Int} (h : mode.prefers u v = true)
    (h' : mode.prefers w v = false) : mode.prefers u w = true := by
  cases mode <;>
    simp only [prefers, decide_eq_true_eq, decide_eq_false_iff_not] at h h' ⊢ <;> omega

theorem prefers_eq_false_of_prefers (mode : Mode) {u v : Int} (h : mode.prefers u v = true) :
    mode.prefers v u = false := by
  cases mode <;> simp only [prefers, decide_eq_true_eq, decide_eq_false_iff_not] at h ⊢ <;> omega

theorem prefers_self (mode : Mode) (w : Int) : mode.prefers w w = false := by
  cases mode <;> simp [prefers]

/-! ## The first best element -/

/-- An element whose width is better than that of everything before it, and no worse than that of
anything after it. -/
structure FirstBest (mode : Mode) (width : α → Option Int) (before : List α) (x : α) (w : Int)
    (after : List α) : Prop where
  /-- The element has a width. -/
  width_eq : width x = some w
  /-- It is better than all before it. -/
  before_worse : ∀ y ∈ before, ∀ v, width y = some v → mode.prefers w v = true
  /-- None after it is better. -/
  after_no_better : ∀ y ∈ after, ∀ v, width y = some v → mode.prefers v w = false

/-- Nothing at all is better than the first best element. -/
theorem FirstBest.no_better {mode : Mode} {width : α → Option Int} {before after : List α} {x : α}
    {w : Int} (h : FirstBest mode width before x w after) {y : α} (hy : y ∈ before ++ x :: after)
    {v : Int} (hv : width y = some v) : mode.prefers v w = false := by
  rcases List.mem_append.mp hy with hy | hy
  · exact mode.prefers_eq_false_of_prefers (h.before_worse y hy v hv)
  · rcases List.mem_cons.mp hy with rfl | hy
    · rw [h.width_eq, Option.some_inj] at hv
      exact hv ▸ mode.prefers_self w
    · exact h.after_no_better y hy v hv

/-- The best element so far with its width, which `choose` holds while it walks along a list. -/
def held (mode : Mode) (width : α → Option Int) (xs : List α) : Option (α × Int) :=
  (xs.filterMap fun x => (width x).map fun w => (x, w)).foldl mode.better none

theorem choose_eq_map_held (mode : Mode) (width : α → Option Int) (xs : List α) :
    mode.choose width xs = (mode.held width xs).map Prod.fst := rfl

theorem held_concat_of_none (mode : Mode) {width : α → Option Int} (xs : List α) {y : α}
    (h : width y = none) : mode.held width (xs ++ [y]) = mode.held width xs := by
  simp [held, h]

theorem held_concat_of_some (mode : Mode) {width : α → Option Int} (xs : List α) {y : α} {v : Int}
    (h : width y = some v) :
    mode.held width (xs ++ [y]) = mode.better (mode.held width xs) (y, v) := by
  simp [held, h]

/-- The step of the walk: one more element is taken if it is better, and passed over if not. -/
theorem FirstBest.concat {mode : Mode} {width : α → Option Int} {before after : List α} {x y : α}
    {w : Int} (h : FirstBest mode width before x w after)
    (hy : ∀ v, width y = some v → mode.prefers v w = false) :
    FirstBest mode width before x w (after ++ [y]) := by
  refine ⟨h.width_eq, h.before_worse, fun z hz v hv => ?_⟩
  rcases List.mem_append.mp hz with hz | hz
  · exact h.after_no_better z hz v hv
  · obtain rfl := List.mem_singleton.mp hz
    exact hy v hv

theorem FirstBest.replaced {mode : Mode} {width : α → Option Int} {before after : List α} {x y : α}
    {w v : Int} (h : FirstBest mode width before x w after) (hy : width y = some v)
    (hv : mode.prefers v w = true) : FirstBest mode width (before ++ x :: after) y v [] := by
  refine ⟨hy, fun z hz u hu => ?_, by simp⟩
  rcases List.mem_append.mp hz with hz | hz
  · exact mode.prefers_trans hv (h.before_worse z hz u hu)
  · rcases List.mem_cons.mp hz with rfl | hz
    · rw [h.width_eq, Option.some_inj] at hu
      exact hu ▸ hv
    · exact mode.prefers_of_not_prefers hv (h.after_no_better z hz u hu)

/-- What is held after a walk: nothing if no element has a width, the first best one otherwise. -/
theorem held_spec (mode : Mode) (width : α → Option Int) (xs : List α) :
    (mode.held width xs = none ∧ ∀ y ∈ xs, width y = none) ∨
      ∃ before x w after, mode.held width xs = some (x, w) ∧ xs = before ++ x :: after ∧
        FirstBest mode width before x w after := by
  induction xs using List.reverseRecOn with
  | nil => exact .inl ⟨rfl, by simp⟩
  | append_singleton xs y ih =>
    cases hy : width y with
    | none =>
      rw [held_concat_of_none mode xs hy]
      rcases ih with ⟨hheld, hnone⟩ | ⟨before, x, w, after, hheld, rfl, hbest⟩
      · refine .inl ⟨hheld, fun z hz => ?_⟩
        rcases List.mem_append.mp hz with hz | hz
        · exact hnone z hz
        · exact List.mem_singleton.mp hz ▸ hy
      · exact .inr ⟨before, x, w, after ++ [y], hheld, by simp, hbest.concat (by simp [hy])⟩
    | some v =>
      rw [held_concat_of_some mode xs hy]
      rcases ih with ⟨hheld, hnone⟩ | ⟨before, x, w, after, hheld, rfl, hbest⟩
      · refine .inr ⟨xs, y, v, [], by rw [hheld, better], rfl, hy, fun z hz u hu => ?_, by simp⟩
        simp [hnone z hz] at hu
      · rw [hheld, better]
        split
        · next hv => exact .inr ⟨_, y, v, [], rfl, rfl, hbest.replaced hy hv⟩
        · next hv =>
          refine .inr ⟨before, x, w, after ++ [y], rfl, by simp, hbest.concat fun u hu => ?_⟩
          rw [hy, Option.some_inj] at hu
          subst hu
          simpa using hv

/-- There is only one way to split a list at its first best element. -/
theorem FirstBest.unique {mode : Mode} {width : α → Option Int} {b a b' a' : List α} {x x' : α}
    {w w' : Int} (h : FirstBest mode width b x w a) (h' : FirstBest mode width b' x' w' a')
    (he : b ++ x :: a = b' ++ x' :: a') : b = b' ∧ x = x' ∧ a = a' := by
  -- if one of them came earlier, it would be worse than the other one and also no worse
  have later : ∀ {b a b' a' c : List α} {x x' : α} {w w' : Int},
      FirstBest mode width b x w a → FirstBest mode width b' x' w' a' →
      b' = b ++ x :: c → x' ∈ a → False := by
    intro b a b' a' c x x' w w' h h' hb hx
    have h1 := h'.before_worse x (by simp [hb]) w h.width_eq
    rw [h.after_no_better x' hx w' h'.width_eq] at h1
    exact absurd h1 (by simp)
  rcases List.append_eq_append_iff.mp he with ⟨c, hb, ha⟩ | ⟨c, hb, ha⟩
  · cases c with
    | nil => simp_all
    | cons y c =>
      obtain ⟨rfl, rfl⟩ := List.cons.inj (by simpa using ha)
      exact (later h h' hb (by simp)).elim
  · cases c with
    | nil => simp_all
    | cons y c =>
      obtain ⟨rfl, rfl⟩ := List.cons.inj (by simpa using ha)
      exact (later h' h hb (by simp)).elim

/-- **What is chosen** is the first best element, and the split shows where it stands. -/
theorem choose_eq_some_iff (mode : Mode) (width : α → Option Int) (xs : List α) (x : α) :
    mode.choose width xs = some x ↔
      ∃ before w after, xs = before ++ x :: after ∧ FirstBest mode width before x w after := by
  rw [choose_eq_map_held]
  rcases mode.held_spec width xs with ⟨hheld, hnone⟩ | ⟨b, y, v, a, hheld, hxs, hbest⟩
  · simp only [hheld, Option.map_none, reduceCtorEq, false_iff]
    rintro ⟨before, w, after, rfl, hbest⟩
    have := hbest.width_eq
    simp [hnone x (by simp)] at this
  · simp only [hheld, Option.map_some, Option.some_inj]
    constructor
    · rintro rfl
      exact ⟨b, v, a, hxs, hbest⟩
    · rintro ⟨before, w, after, rfl, h⟩
      exact (h.unique hbest hxs).2.1.symm

/-- Nothing is chosen if and only if no element has a width. -/
theorem choose_eq_none_iff (mode : Mode) (width : α → Option Int) (xs : List α) :
    mode.choose width xs = none ↔ ∀ y ∈ xs, width y = none := by
  rw [choose_eq_map_held]
  rcases mode.held_spec width xs with ⟨hheld, hnone⟩ | ⟨b, y, v, a, hheld, hxs, hbest⟩
  · simpa [hheld] using hnone
  · simp only [hheld, Option.map_some, reduceCtorEq, false_iff]
    intro hnone
    have := hbest.width_eq
    simp [hnone y (by simp [hxs])] at this

/-- Choosing looks at elements through their widths alone. -/
theorem choose_map (mode : Mode) (f : β → α) (width : α → Option Int) (xs : List β) :
    mode.choose width (xs.map f) = (mode.choose (fun x => width (f x)) xs).map f := by
  cases h : mode.choose (fun x => width (f x)) xs with
  | none =>
    rw [choose_eq_none_iff] at h
    simpa [choose_eq_none_iff] using h
  | some x =>
    obtain ⟨before, w, after, rfl, hbest⟩ := (choose_eq_some_iff _ _ _ _).mp h
    refine (choose_eq_some_iff _ _ _ _).mpr ⟨before.map f, w, after.map f, by simp, ?_⟩
    refine ⟨hbest.width_eq, fun y hy => ?_, fun y hy => ?_⟩
    · obtain ⟨z, hz, rfl⟩ := List.mem_map.mp hy
      exact hbest.before_worse z hz
    · obtain ⟨z, hz, rfl⟩ := List.mem_map.mp hy
      exact hbest.after_no_better z hz

end Mode

/-! ## Which nodes take part -/

/-- A node takes part in a search if it contains the range and is of a kind that is looked for. -/
def Node.IsEligible (range : LineRange) (kinds : Kinds) (n : Node) : Prop :=
  n.contains range = true ∧ admits kinds n.kind = true

theorem Node.eligibleWidth?_eq_some_iff (range : LineRange) (kinds : Kinds) (n : Node) (w : Int) :
    n.eligibleWidth? range kinds = some w ↔ n.IsEligible range kinds ∧ n.width? = some w := by
  rw [eligibleWidth?, IsEligible, ← Bool.and_eq_true]
  split
  · next h => simp [h]
  · next h => simp [h]

theorem Node.eligibleWidth?_eq_none_iff (range : LineRange) (kinds : Kinds) (n : Node) :
    n.eligibleWidth? range kinds = none ↔ ¬n.IsEligible range kinds := by
  rw [← not_iff_not, not_not, ← ne_eq, Option.ne_none_iff_exists']
  constructor
  · rintro ⟨w, h⟩
    exact ((eligibleWidth?_eq_some_iff range kinds n w).mp h).1
  · intro h
    obtain ⟨w, hw⟩ := exists_width?_of_contains h.1
    exact ⟨w, (eligibleWidth?_eq_some_iff range kinds n w).mpr ⟨h, hw⟩⟩

/-- A search among nodes that come from other things chooses among these things. -/
theorem select_map {α : Type} (node : α → Node) (xs : List α) (range : LineRange) (mode : Mode)
    (kinds : Kinds) :
    select (xs.map node) range mode kinds = (selectBy node xs range mode kinds).map node := by
  rw [select, selectBy, selectBy]
  split
  · rfl
  · exact mode.choose_map node _ xs

end Enclosure
