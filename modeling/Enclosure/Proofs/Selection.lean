import Enclosure.Node.Seek
import Enclosure.Proofs.Choice

/-!
# The node that a search finds

A search walks along the nodes once and keeps the best one so far.  Here the node that is left in the
end is described without the walk, by its place in the list: it competes, no other node that does is
better, and all those before it are worse.  The walk itself passes over a node that does not compete
before it asks how wide the node is, so it never asks this of a node without a place in the text.

What is here:

* `Node.Competes`: the nodes that a search chooses among, with their widths.
* `IsFirstBestAt`: the place of the node that is found.
* `selectBy_zipIdx_eq_some_iff` and `select_eq_none_iff`: what a search finds.
* `seek_eq_ok`: a walk never asks a node without lines for its width, and finds the same node.
-/

set_option autoImplicit false

namespace Enclosure

/-! ## Nodes that compete -/

/-- A node with both lines, all lines of the range between them, and of a kind that is looked for; and
how far apart its lines are. -/
inductive Node.Competes (range : LineRange) (kinds : Kinds) : Node → Int → Prop
  | intro {kind : String} {first last : Int} {name : Option String} (hfirst : first ≤ range.start)
      (hlast : range.stop ≤ last) (hkind : ∀ ks, kinds = some ks → kind ∈ ks) :
      Competes range kinds ⟨kind, some first, some last, name⟩ (last - first)

theorem admits_eq_true_iff (kinds : Kinds) (kind : String) :
    admits kinds kind = true ↔ ∀ ks, kinds = some ks → kind ∈ ks := by
  cases kinds <;> simp [admits]

variable {range : LineRange} {mode : Mode} {kinds : Kinds} {nodes : List Node}

namespace Node

variable {n : Node} {w : Int}

theorem span?_eq_some_iff {first last : Int} :
    n.span? = some (first, last) ↔ n.firstLine = some first ∧ n.lastLine = some last := by
  obtain ⟨kind, firstLine, lastLine, name⟩ := n
  cases firstLine <;> cases lastLine <;> simp [span?]

theorem competes_iff :
    n.Competes range kinds w ↔ n.IsEligible range kinds ∧ n.width? = some w := by
  rw [IsEligible, contains_eq_true_iff, admits_eq_true_iff]
  constructor
  · rintro ⟨hfirst, hlast, hkind⟩
    exact ⟨⟨⟨_, _, rfl, hfirst, hlast⟩, hkind⟩, rfl⟩
  · rintro ⟨⟨⟨first, last, hspan, hfirst, hlast⟩, hkind⟩, hw⟩
    rw [width?, hspan, Option.map_some, Option.some_inj] at hw
    obtain ⟨kind, firstLine, lastLine, name⟩ := n
    obtain ⟨rfl, rfl⟩ := span?_eq_some_iff.mp hspan
    exact hw ▸ .intro hfirst hlast hkind

theorem eligibleWidth?_eq_some_iff_competes :
    n.eligibleWidth? range kinds = some w ↔ n.Competes range kinds w := by
  rw [eligibleWidth?_eq_some_iff, competes_iff]

theorem eligibleWidth?_eq_none_iff_forall :
    n.eligibleWidth? range kinds = none ↔ ∀ w, ¬n.Competes range kinds w := by
  rw [Option.eq_none_iff_forall_ne_some]
  exact forall_congr' fun w => not_congr eligibleWidth?_eq_some_iff_competes

/-- All lines of the range belong to a node that competes. -/
theorem Competes.span (h : n.Competes range kinds w) :
    ∃ first last, n.firstLine = some first ∧ n.lastLine = some last ∧
      first ≤ range.start ∧ range.stop ≤ last := by
  obtain ⟨hfirst, hlast, -⟩ := h
  exact ⟨_, _, rfl, rfl, hfirst, hlast⟩

end Node

/-! ## The place of the node that is found -/

/-- The node at a place of a list is the first one of the best: it competes; looking for the widest
one, no node that competes is wider and all those before it are narrower; looking for the narrowest
one, it is the other way round. -/
structure IsFirstBestAt (nodes : List Node) (range : LineRange) (mode : Mode) (kinds : Kinds)
    (i : Nat) (n : Node) (w : Int) : Prop where
  getElem?_eq : nodes[i]? = some n
  competes : n.Competes range kinds w
  largest : mode = .largest → ∀ j m v, nodes[j]? = some m → m.Competes range kinds v →
    v ≤ w ∧ (j < i → v < w)
  smallest : mode = .smallest → ∀ j m v, nodes[j]? = some m → m.Competes range kinds v →
    w ≤ v ∧ (j < i → w < v)

/-- The two halves of the comparison, in terms of what a mode prefers. -/
theorem isFirstBestAt_iff {i : Nat} {n : Node} {w : Int} :
    IsFirstBestAt nodes range mode kinds i n w ↔
      nodes[i]? = some n ∧ n.Competes range kinds w ∧
        ∀ j m v, nodes[j]? = some m → m.Competes range kinds v →
          mode.prefers v w = false ∧ (j < i → mode.prefers w v = true) := by
  constructor
  · rintro ⟨hi, hn, hlargest, hsmallest⟩
    refine ⟨hi, hn, fun j m v hj hm => ?_⟩
    cases mode with
    | largest => simpa [Mode.prefers] using hlargest rfl j m v hj hm
    | smallest => simpa [Mode.prefers] using hsmallest rfl j m v hj hm
  · rintro ⟨hi, hn, hall⟩
    refine ⟨hi, hn, ?_, ?_⟩
    · rintro rfl j m v hj hm
      simpa [Mode.prefers] using hall j m v hj hm
    · rintro rfl j m v hj hm
      simpa [Mode.prefers] using hall j m v hj hm

/-- An element of a list with places, in front of some element: it has an earlier place. -/
theorem mem_before_zipIdx_iff {α : Type} {xs : List α} {before after : List (α × Nat)} {x y : α}
    {i j : Nat} (h : xs.zipIdx = before ++ (x, i) :: after) :
    (y, j) ∈ before ↔ xs[j]? = some y ∧ j < i := by
  have hat (k : Nat) : (before ++ (x, i) :: after)[k]? = xs[k]?.map fun z => (z, k) := by
    rw [← h, List.getElem?_zipIdx, Nat.zero_add]
  have hlength : before.length = i := by
    have hi := hat before.length
    rw [List.getElem?_append_right (Nat.le_refl _), Nat.sub_self, List.getElem?_cons_zero, eq_comm,
      Option.map_eq_some_iff] at hi
    obtain ⟨z, -, hz⟩ := hi
    exact congrArg Prod.snd hz
  subst hlength
  have hbefore {k : Nat} (hk : k < before.length) : before[k]? = xs[k]?.map fun z => (z, k) := by
    rw [← hat, List.getElem?_append_left hk]
  constructor
  · intro hmem
    obtain ⟨k, hk⟩ := List.mem_iff_getElem?.mp hmem
    have hlt : k < before.length := (List.getElem?_eq_some_iff.mp hk).1
    rw [hbefore hlt, Option.map_eq_some_iff] at hk
    obtain ⟨z, hz, heq⟩ := hk
    obtain ⟨rfl, rfl⟩ := Prod.mk.inj heq
    exact ⟨hz, hlt⟩
  · rintro ⟨hj, hlt⟩
    exact List.mem_of_getElem? (by rw [hbefore hlt, hj, Option.map_some])

/-- **What a search finds, and where**: a node that is the first one of the best. -/
theorem selectBy_zipIdx_eq_some_iff {n : Node} {i : Nat} :
    selectBy Prod.fst nodes.zipIdx range mode kinds = some (n, i) ↔
      range.start ≤ range.stop ∧ ∃ w, IsFirstBestAt nodes range mode kinds i n w := by
  rw [selectBy]
  split
  · next h => simpa using fun hle => absurd hle (Int.not_le.mpr (range.isEmpty_eq_true_iff.mp h))
  · next h =>
    rw [Bool.not_eq_true, LineRange.isEmpty_eq_false_iff] at h
    simp only [h, true_and, isFirstBestAt_iff]
    constructor
    · intro hchosen
      obtain ⟨before, w, after, hsplit, hbest⟩ := (Mode.choose_eq_some_iff _ _ _ _).mp hchosen
      have hmem {m : Node} {j : Nat} : (m, j) ∈ before ++ (n, i) :: after ↔ nodes[j]? = some m := by
        rw [← hsplit, List.mem_zipIdx_iff_getElem?]
      refine ⟨w, hmem.mp (by simp), Node.eligibleWidth?_eq_some_iff_competes.mp hbest.width_eq,
        fun j m v hj hm => ?_⟩
      rw [← Node.eligibleWidth?_eq_some_iff_competes] at hm
      exact ⟨hbest.no_better (hmem.mpr hj) hm, fun hlt =>
        hbest.before_worse (m, j) ((mem_before_zipIdx_iff hsplit).mpr ⟨hj, hlt⟩) v hm⟩
    · rintro ⟨w, hi, hn, hall⟩
      obtain ⟨before, after, hsplit⟩ :=
        List.append_of_mem (List.mem_zipIdx_iff_getElem?.mpr hi : (n, i) ∈ nodes.zipIdx)
      have hmem {m : Node} {j : Nat} : (m, j) ∈ before ++ (n, i) :: after ↔ nodes[j]? = some m := by
        rw [← hsplit, List.mem_zipIdx_iff_getElem?]
      refine (Mode.choose_eq_some_iff _ _ _ _).mpr ⟨before, w, after, hsplit,
        Node.eligibleWidth?_eq_some_iff_competes.mpr hn, ?_, ?_⟩
      · rintro ⟨m, j⟩ hm v hv
        obtain ⟨hj, hlt⟩ := (mem_before_zipIdx_iff hsplit).mp hm
        exact (hall j m v hj (Node.eligibleWidth?_eq_some_iff_competes.mp hv)).2 hlt
      · rintro ⟨m, j⟩ hm v hv
        have hj : nodes[j]? = some m := hmem.mp (by simp [hm])
        exact (hall j m v hj (Node.eligibleWidth?_eq_some_iff_competes.mp hv)).1

theorem select_eq_some_iff {n : Node} :
    select nodes range mode kinds = some n ↔
      range.start ≤ range.stop ∧ ∃ i w, IsFirstBestAt nodes range mode kinds i n w := by
  have hplaces := select_map Prod.fst nodes.zipIdx range mode kinds
  rw [List.zipIdx_map_fst] at hplaces
  rw [hplaces, Option.map_eq_some_iff]
  constructor
  · rintro ⟨⟨m, i⟩, hm, rfl⟩
    obtain ⟨hle, hbest⟩ := selectBy_zipIdx_eq_some_iff.mp hm
    exact ⟨hle, i, hbest⟩
  · rintro ⟨hle, i, hbest⟩
    exact ⟨(n, i), selectBy_zipIdx_eq_some_iff.mpr ⟨hle, hbest⟩, rfl⟩

/-- **A search finds nothing** if its range holds no line, or if no node competes. -/
theorem select_eq_none_iff :
    select nodes range mode kinds = none ↔
      range.stop < range.start ∨ ∀ n ∈ nodes, ∀ w, ¬n.Competes range kinds w := by
  rw [select, selectBy, ← LineRange.isEmpty_eq_true_iff]
  split
  · next h => simp [h]
  · next h =>
    rw [Mode.choose_eq_none_iff]
    simp only [h, Bool.false_eq_true, false_or, id, Node.eligibleWidth?_eq_none_iff_forall]

/-! ## The walk -/

/-- **One step**: a node is asked for its width exactly if it has one to compete with. -/
theorem pass_eq (range : LineRange) (mode : Mode) (kinds : Kinds) (best : Option (Node × Int))
    (n : Node) :
    pass range mode kinds best n =
      .ok (match n.eligibleWidth? range kinds with
        | some w => mode.better best (n, w)
        | none => best) := by
  rw [pass]
  cases hw : n.eligibleWidth? range kinds with
  | some w =>
    obtain ⟨⟨hcontains, hadmits⟩, hwidth⟩ := (Node.eligibleWidth?_eq_some_iff _ _ _ _).mp hw
    simp only [hcontains, hadmits, Bool.not_true, Bool.false_eq_true, if_false, Node.width, hwidth]
    rfl
  | none =>
    rw [Node.eligibleWidth?_eq_none_iff, Node.IsEligible, not_and] at hw
    by_cases hcontains : n.contains range = true
    · simp [hcontains, hw hcontains]
    · simp [hcontains]

/-- **The whole walk**, from any best node so far. -/
theorem foldlM_pass (range : LineRange) (mode : Mode) (kinds : Kinds) (nodes : List Node)
    (best : Option (Node × Int)) :
    nodes.foldlM (pass range mode kinds) best =
      .ok ((nodes.filterMap fun n => (n.eligibleWidth? range kinds).map fun w => (n, w)).foldl
        mode.better best) := by
  induction nodes generalizing best with
  | nil => rfl
  | cons n nodes ih =>
    rw [List.foldlM_cons, pass_eq]
    have hstep : ∀ best', (Except.ok best' >>= fun best => nodes.foldlM (pass range mode kinds) best) =
        nodes.foldlM (pass range mode kinds) best' := fun _ => rfl
    rw [hstep, ih]
    cases hw : n.eligibleWidth? range kinds with
    | some w => rw [List.filterMap_cons_some (by rw [hw, Option.map_some]), List.foldl_cons]
    | none => rw [List.filterMap_cons_none (by rw [hw, Option.map_none])]

/-- **The walk never asks a node without lines for its width**, and ends with what the search finds. -/
theorem seek_eq_ok (nodes : List Node) (range : LineRange) (mode : Mode) (kinds : Kinds) :
    seek nodes range mode kinds = .ok (select nodes range mode kinds) := by
  rw [seek, select, selectBy]
  split
  · rfl
  · rw [foldlM_pass]
    rfl

/-! ## All of it -/

/-- **The node that a search finds**, for any nodes, range, mode and kinds.  There is none if the range
holds no line or if no node competes.  Otherwise it is the first one of the best, and the place tells
which one; all lines of the range belong to it.  The walk that looks for it comes to its end without
asking a node without lines for its width. -/
theorem select_is_first_best (nodes : List Node) (range : LineRange) (mode : Mode) (kinds : Kinds) :
    (select nodes range mode kinds = none ↔
      range.stop < range.start ∨ ∀ n ∈ nodes, ∀ w, ¬n.Competes range kinds w) ∧
    (∀ n, select nodes range mode kinds = some n ↔
      range.start ≤ range.stop ∧ ∃ i w, IsFirstBestAt nodes range mode kinds i n w) ∧
    (∀ n i, selectBy Prod.fst nodes.zipIdx range mode kinds = some (n, i) ↔
      range.start ≤ range.stop ∧ ∃ w, IsFirstBestAt nodes range mode kinds i n w) ∧
    (∀ n, select nodes range mode kinds = some n →
      ∃ first last, n.firstLine = some first ∧ n.lastLine = some last ∧
        first ≤ range.start ∧ range.start ≤ range.stop ∧ range.stop ≤ last) ∧
    seek nodes range mode kinds = .ok (select nodes range mode kinds) := by
  refine ⟨select_eq_none_iff, fun n => select_eq_some_iff, fun n i => selectBy_zipIdx_eq_some_iff,
    fun n hn => ?_, seek_eq_ok nodes range mode kinds⟩
  obtain ⟨hle, i, w, hbest⟩ := select_eq_some_iff.mp hn
  obtain ⟨first, last, hfirst, hlast, hstart, hstop⟩ := hbest.competes.span
  exact ⟨first, last, hfirst, hlast, hstart, hle, hstop⟩

end Enclosure
