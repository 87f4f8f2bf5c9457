import Enclosure.Backend.Abstract
import Enclosure.Proofs.Fields
import Enclosure.Proofs.Lookup
import Enclosure.Proofs.Places

/-!
# The nodes of an abstract tree

The labels of an abstract tree become nodes one by one, and a label of the usual form always does:
its lines are absent or whole numbers, and its name, if it is a text at all, has no surrogates.

What is here:

* `Json.IsLine` and `Label.IsProper`: labels of the usual form.
* `Label.node_eq_ok_of_isProper`: the node of such a label.
* `nodesOf_eq_ok_iff`: the nodes of labels are the nodes of each.
* `Backend.value_answer_abstract` and `Backend.value_find_abstract`: what the back end for abstract
  trees answers for a tree.
-/

set_option autoImplicit false

namespace Enclosure

/-! ## Fields -/

/-- A line of a label: it is absent or a whole number. -/
inductive Json.IsLine : Json → Prop
  | absent : IsLine .null
  | whole (n : Int) : IsLine (.int n)

/-- If the value is a text, it has no surrogates. -/
def Json.HasNoSurrogates : Json → Prop
  | .text s => s.NoSurrogates
  | _ => True

/-- The number of a line, if there is one. -/
def Json.line? : Json → Option Int
  | .int n => some n
  | _ => none

namespace Field

theorem optional_integer_of_isLine {v : Json} (h : v.IsLine) :
    optional integer v = .ok v.line? := by
  cases h <;> rfl

end Field

namespace Abstract

/-! ## Labels -/

/-- The name of a label, if it is a text of characters. -/
def Label.name? (l : Label) : Option String :=
  match l.name with
  | .text s => s.toString?
  | _ => none

/-- A label whose lines are absent or whole numbers, and whose name, if it is a text, has no
surrogates. -/
structure Label.IsProper (l : Label) : Prop where
  /-- The first line. -/
  first : l.first.IsLine
  /-- The last line. -/
  last : l.last.IsLine
  /-- The name. -/
  name : l.name.HasNoSurrogates

theorem Label.optional_text_nameText {l : Label} (h : l.IsProper) :
    Field.optional Field.text l.nameText = .ok l.name? := by
  rw [nameText, name?]
  cases hn : l.name with
  | text s =>
    have hs : s.NoSurrogates := by
      have hname := h.name
      rwa [hn] at hname
    obtain ⟨t, ht⟩ := Codes.toString?_eq_some_of_noSurrogates hs
    simp only [Field.optional, Field.text, ht]
    rfl
  | _ => rfl

/-- The node of a proper label has its kind, its lines and its name. -/
theorem Label.node_eq_ok_of_isProper {l : Label} (h : l.IsProper) :
    l.node = .ok ⟨l.kind, l.first.line?, l.last.line?, l.name?⟩ := by
  rw [node, Node.check, Field.text_ofString, Field.optional_integer_of_isLine h.first,
    Field.optional_integer_of_isLine h.last, l.optional_text_nameText h]
  rfl

/-- The node of a label, or one without lines where there is none. -/
def Label.nodeOrBare (l : Label) : Node :=
  match l.node with
  | .ok n => n
  | .error _ => { kind := l.kind }

theorem Label.nodeOrBare_of_node_eq_ok {l : Label} {n : Node} (h : l.node = .ok n) :
    l.nodeOrBare = n := by
  rw [nodeOrBare, h]

/-- Labels have nodes together if each of them has one. -/
theorem nodesOf_eq_ok_iff (ls : List Label) (ns : List Node) :
    nodesOf ls = .ok ns ↔ ls.map Label.node = ns.map .ok := by
  induction ls generalizing ns with
  | nil => cases ns <;> simp [nodesOf]
  | cons l ls ih =>
    rw [nodesOf, List.map_cons]
    cases hl : l.node with
    | error fs => cases ns <;> simp
    | ok n =>
      cases hls : nodesOf ls with
      | error fs =>
        cases ns with
        | nil => simp
        | cons m ms => simp [← ih ms, hls]
      | ok ns' =>
        cases ns with
        | nil => simp
        | cons m ms => simp [← ih ms, hls]

theorem eq_map_nodeOrBare_of_nodesOf {ls : List Label} {ns : List Node} (h : nodesOf ls = .ok ns) :
    ns = ls.map Label.nodeOrBare := by
  rw [nodesOf_eq_ok_iff] at h
  induction ls generalizing ns with
  | nil => simpa using h
  | cons l ls ih =>
    cases ns with
    | nil => simp at h
    | cons n ns =>
      obtain ⟨hl, hls⟩ := List.cons.inj h
      rw [List.map_cons, Label.nodeOrBare_of_node_eq_ok hl, ← ih hls]

theorem exists_node_of_nodesOf {ls : List Label} {ns : List Node} (h : nodesOf ls = .ok ns)
    {l : Label} (hl : l ∈ ls) : ∃ n, l.node = .ok n := by
  have hmem : l.node ∈ ns.map Except.ok := by
    rw [← (nodesOf_eq_ok_iff ls ns).mp h]
    exact List.mem_map_of_mem hl
  obtain ⟨n, -, hn⟩ := List.mem_map.mp hmem
  exact ⟨n, hn.symm⟩

theorem nodesOf_eq_ok_of_isProper {ls : List Label} (h : ∀ l ∈ ls, l.IsProper) :
    nodesOf ls = .ok (ls.map Label.nodeOrBare) := by
  rw [nodesOf_eq_ok_iff, List.map_map]
  refine List.map_congr_left fun l hl => ?_
  have hnode := Label.node_eq_ok_of_isProper (h l hl)
  rw [Function.comp_apply, Label.nodeOrBare_of_node_eq_ok hnode, hnode]

/-! ## Trees -/

/-- The nodes of a tree are those of its labels in order. -/
theorem Tree.nodes_eq_nodesOf_preorder (t : Tree) : t.nodes = nodesOf t.preorder := by
  rw [nodes, t.visit_singleton]

/-- The node at a place of a tree. -/
def Tree.nodeAt? (t : Tree) (p : List Nat) : Option Node :=
  (t.labelAt? p).bind fun l => l.node.toOption

theorem Tree.nodeAt?_eq_some_iff (t : Tree) (p : List Nat) (n : Node) :
    t.nodeAt? p = some n ↔ ∃ l, t.labelAt? p = some l ∧ l.node = .ok n := by
  rw [nodeAt?, Option.bind_eq_some_iff]
  refine exists_congr fun l => and_congr_right fun _ => ?_
  cases l.node <;> simp [Except.toOption]

/-- The nodes of a tree are those at its places, in order. -/
theorem Tree.nodes_eq_map_places {t : Tree} {ns : List Node} (h : t.nodes = .ok ns) :
    ns = t.places.map fun x => x.2.nodeOrBare := by
  rw [nodes_eq_nodesOf_preorder] at h
  rw [eq_map_nodeOrBare_of_nodesOf h, ← t.map_snd_places, List.map_map]
  rfl

theorem Tree.nodeAt?_of_mem_places {t : Tree} {ns : List Node} (h : t.nodes = .ok ns)
    {p : List Nat} {l : Label} (hp : (p, l) ∈ t.places) : t.nodeAt? p = some l.nodeOrBare := by
  have hlabel := (t.mem_places_iff p l).mp hp
  rw [nodes_eq_nodesOf_preorder] at h
  obtain ⟨n, hn⟩ := exists_node_of_nodesOf h ((t.mem_preorder_iff l).mpr ⟨p, hlabel⟩)
  rw [nodeAt?_eq_some_iff]
  exact ⟨l, hlabel, by rw [hn, Label.nodeOrBare_of_node_eq_ok hn]⟩

theorem Tree.exists_mem_places_of_nodeAt? {t : Tree} {p : List Nat} {n : Node}
    (h : t.nodeAt? p = some n) : ∃ l, (p, l) ∈ t.places ∧ l.nodeOrBare = n := by
  obtain ⟨l, hl, hn⟩ := (nodeAt?_eq_some_iff t p n).mp h
  exact ⟨l, (t.mem_places_iff p l).mpr hl, Label.nodeOrBare_of_node_eq_ok hn⟩

end Abstract

/-! ## The back end -/

namespace Backend

open Abstract

/-- What the back end answers for a tree. -/
theorem value_answer_abstract {read : Codes → Except Abstract.Fault Abstract.Tree} {source : Codes}
    {t : Abstract.Tree} (hread : read source = .ok t) (earlier : Nat) :
    ((Backend.abstract read).answer earlier source).value =
      t.nodes.mapError fun fs => .invalid (faultsMessage fs) := by
  simp only [Backend.abstract, hread, Traced.value_pure]
  cases t.nodes <;> rfl

/-- **The answer to a search in a tree**: the chosen one of the nodes at its places. -/
theorem value_find_abstract {read : Codes → Except Abstract.Fault Abstract.Tree} {source : Codes}
    {t : Abstract.Tree} (hread : read source = .ok t) {ns : List Node} (hns : t.nodes = .ok ns)
    (earlier : Nat) {range : LineRange} (hrange : range.isEmpty = false) (mode : Mode)
    (kinds : Kinds) :
    ((Backend.abstract read).find earlier source range mode kinds).value =
      .ok ((selectBy (fun x => x.2.nodeOrBare) t.places range mode kinds).bind
        fun x => x.2.nodeOrBare.context?) := by
  rw [value_find, if_neg (by simp [hrange]), value_answer_abstract hread, hns]
  simp only [Except.mapError]
  rw [Tree.nodes_eq_map_places hns, select_map, Option.bind_map]
  rfl

end Backend
end Enclosure
