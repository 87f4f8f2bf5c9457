import Enclosure.Backend.Concrete
import Enclosure.Proofs.Places
import Enclosure.Proofs.Newlines
import Mathlib.Data.List.Forall2

/-!
# What a concrete tree is refused for

The back end for concrete trees looks at a tree three times, each time with a list of trees that are
still to be visited.  Two of these searches see every node.  The one for errors leaves out what is
below a node that says that it holds none, so it finds the first error of the text only if such a
node can be believed.  Where the flags of a tree agree with its nodes, a text is refused exactly if
some node is wrong or of a form that is no longer in use, and the complaint names the first one.

What is here:

* `Tree.FlagsAgree`: the flags of a tree say where its faults are.
* `Tree.firstFault?_eq_find?`: leaving out what holds no fault does not change what is found.
* `Label.refusedAs`: a refusal that names the place of a node.
* `Label.IsReportedAs`: what a node says of a construct.
* `Backend.value_answer_concrete`: what the back end answers for a tree.
* `concrete_tree_reported_exactly`: the refusal, or the named nodes below the root.
-/

set_option autoImplicit false

namespace Enclosure

namespace Concrete

/-! ## Flags that agree with the nodes -/

namespace Tree

open Enclosure.Tree

/-- A node says that it holds an error if and only if it is a fault itself or one is below it. -/
def FlagsAgree (t : Tree) : Prop :=
  ∀ p l, t.labelAt? p = some l →
    (l.hasError = true ↔ ∃ q m, t.labelAt? q = some m ∧ p <+: q ∧ m.isFault = true)

/-- It is enough to look at the places that are listed. -/
theorem FlagsAgree.of_places {t : Tree}
    (h : ∀ x ∈ t.places,
      (x.2.hasError = true ↔ ∃ y ∈ t.places, x.1 <+: y.1 ∧ y.2.isFault = true)) :
    t.FlagsAgree := by
  intro p l hl
  rw [h (p, l) ((mem_places_iff t p l).mpr hl)]
  constructor
  · rintro ⟨y, hy, hpq, hfault⟩
    exact ⟨y.1, y.2, (mem_places_iff t y.1 y.2).mp hy, hpq, hfault⟩
  · rintro ⟨q, m, hm, hpq, hfault⟩
    exact ⟨(q, m), (mem_places_iff t q m).mpr hm, hpq, hfault⟩

/-- The flag of the root tells whether there is a fault at all. -/
theorem FlagsAgree.hasError_iff {t : Tree} (h : t.FlagsAgree) :
    t.label.hasError = true ↔ ∃ l ∈ t.preorder, l.isFault = true := by
  rw [h [] t.label t.labelAt?_root]
  constructor
  · rintro ⟨q, m, hm, -, hfault⟩
    exact ⟨m, (t.mem_preorder_iff m).mpr ⟨q, hm⟩, hfault⟩
  · rintro ⟨m, hm, hfault⟩
    obtain ⟨q, hq⟩ := (t.mem_preorder_iff m).mp hm
    exact ⟨q, m, hq, List.nil_prefix, hfault⟩

/-- The flags agree in the trees below as well. -/
theorem FlagsAgree.of_mem {l : Label} {below : List Tree} (h : FlagsAgree (node l below))
    {t : Tree} (ht : t ∈ below) : t.FlagsAgree := by
  obtain ⟨i, hi⟩ := List.mem_iff_getElem?.mp ht
  have hbelow : ∀ q, (node l below).labelAt? (i :: q) = t.labelAt? q := fun q => by
    rw [labelAt?_cons, hi, Option.bind_some]
  intro p k hk
  rw [h (i :: p) k (by rw [hbelow, hk])]
  constructor
  · rintro ⟨q, m, hm, ⟨r, rfl⟩, hfault⟩
    exact ⟨p ++ r, m, by rwa [List.cons_append, hbelow] at hm, List.prefix_append p r, hfault⟩
  · rintro ⟨q, m, hm, hpq, hfault⟩
    exact ⟨i :: q, m, by rw [hbelow, hm], List.cons_prefix_cons.mpr ⟨rfl, hpq⟩, hfault⟩

/-- **What is left out holds no fault**: the search that trusts the flags finds what looking through
the recursive order finds. -/
theorem firstFault?_eq_find? {ts : List Tree} (h : ∀ t ∈ ts, t.FlagsAgree) :
    firstFault? ts = (preorderAll ts).find? Label.isFault := by
  fun_induction firstFault? ts with
  | case1 => rfl
  | case2 l below rest hfault =>
    rw [preorderAll, preorder, List.cons_append, List.find?_cons_of_pos hfault]
  | case3 l below rest hfault herror ih =>
    rw [preorderAll, preorder, List.cons_append, List.find?_cons_of_neg hfault,
      ← preorderAll_append]
    refine ih fun t ht => ?_
    rcases List.mem_append.mp ht with ht | ht
    · exact FlagsAgree.of_mem (h _ List.mem_cons_self) ht
    · exact h t (List.mem_cons_of_mem _ ht)
  | case4 l below rest hfault herror ih =>
    have hbelow : FlagsAgree (node l below) := h _ List.mem_cons_self
    have hnone : (node l below).preorder.find? Label.isFault = none := by
      rw [List.find?_eq_none]
      exact fun m hm hm' => herror (hbelow.hasError_iff.mpr ⟨m, hm, hm'⟩)
    rw [preorderAll, List.find?_append, hnone, Option.none_or]
    exact ih fun t ht => h t (List.mem_cons_of_mem _ ht)

theorem firstError?_eq_find? {t : Tree} (h : t.FlagsAgree) :
    t.firstError? = t.preorder.find? Label.isFault := by
  rw [firstError?, firstFault?_eq_find? (List.forall_mem_singleton.mpr h), preorderAll_singleton]

theorem firstLegacy?_eq_find? (t : Tree) :
    t.firstLegacy? = t.preorder.find? Label.isLegacy := by
  rw [firstLegacy?, visit_eq_preorderAll, preorderAll_singleton]

end Tree

/-! ## Refusals -/

/-- A node for which a text is refused. -/
def Label.IsRefused (l : Label) : Prop :=
  l.isError = true ∨ l.isMissing = true ∨ l.kind = "print_statement" ∨ l.kind = "exec_statement"

theorem Label.isRefused_iff (l : Label) :
    l.IsRefused ↔ l.isFault = true ∨ l.isLegacy = true := by
  simp [IsRefused, isFault, isLegacy, or_assoc]

/-- A refusal that names the place of a node, counted from one. -/
def Label.refusedAs (what : String) (l : Label) : Failure :=
  .unparsable
    (Codes.ofString s!"{what} at line {l.span.start.row + 1}, column {l.span.start.column + 1}")
    (.int (l.span.start.row + 1))

/-- What a fault is called. -/
def Label.faultName (l : Label) : String :=
  if l.isMissing then s!"missing '{l.kind}'" else "invalid syntax"

theorem refusal_complaint (l : Label) : refusal l.complaint l = l.refusedAs l.faultName := by
  rw [refusal, Label.complaint, Label.refusedAs, Label.faultName, Point.text]
  congr 2
  cases l.isMissing
  · simp only [Bool.false_eq_true, if_false, toString, String.append_assoc]
    rfl
  · simp only [if_true, toString, String.append_assoc]
    rfl

theorem refusal_legacy (l : Label) :
    refusal s!"Python 2 {l.legacyWord} statement at {l.span.start.text}" l =
      l.refusedAs s!"Python 2 {l.legacyWord} statement" := by
  rw [refusal, Label.refusedAs, Point.text]
  congr 2
  simp only [toString, String.append_assoc]
  rfl

/-- Whatever a node is called, its place is named as well. -/
theorem refusedAs_ne_bare (what : String) (l : Label) (line : Json) :
    l.refusedAs what ≠ .unparsable (Codes.ofString "invalid syntax") line := by
  intro h
  have hmessage := Codes.ofString_inj.mp (Failure.unparsable.inj h).1
  have hcomma : ',' ∈ "invalid syntax".toList := by
    rw [← hmessage]
    simp [String.toList_append, toString]
  exact absurd hcomma (by decide)

/-! ## What a tree has to show -/

/-- What a node says of a construct. -/
structure Label.IsReportedAs (l : Label) (bytes : Bytes) (n : Node) : Prop where
  /-- Its kind. -/
  kind : n.kind = l.kind
  /-- Its first line; rows are counted from zero and lines from one. -/
  firstLine : n.firstLine = some (l.span.start.row + 1 : Int)
  /-- Its last line.  A later row does not count if the construct stops at its very start. -/
  lastLine : n.lastLine = some (if l.span.stop.column = 0 ∧ l.span.start.row < l.span.stop.row then
    (l.span.stop.row : Int) else l.span.stop.row + 1)
  /-- An identifier names it with what its bytes say. -/
  named : ∀ start stop, l.naming = some ⟨"identifier", start, stop⟩ →
    n.name = some (String.ofList (Utf8.decodeReplacing ((bytes.take stop).drop start)))
  /-- If they are the bytes of a text, that is the name. -/
  spelled : ∀ start stop cs, l.naming = some ⟨"identifier", start, stop⟩ →
    (bytes.take stop).drop start = Utf8.encode (Codes.ofChars cs) → n.name = some (String.ofList cs)
  /-- Nothing else names it. -/
  unnamed : (∀ start stop, l.naming ≠ some ⟨"identifier", start, stop⟩) → n.name = none

theorem Label.isReportedAs_node (l : Label) (bytes : Bytes) :
    l.IsReportedAs bytes (l.node bytes) where
  kind := rfl
  firstLine := by
    rw [node, lineSpan]
    split <;> rfl
  lastLine := by
    rw [node, lineSpan]
    split <;> rfl
  named start stop hnaming := Label.nameIn_eq_some_iff.mpr ⟨start, stop, hnaming, rfl⟩
  spelled start stop cs hnaming hbytes :=
    Label.nameIn_eq_some_iff.mpr
      ⟨start, stop, hnaming, by rw [hbytes, Utf8.decodeReplacing_encode]⟩
  unnamed hnone := by
    rw [node, Option.eq_none_iff_forall_ne_some]
    intro name hname
    obtain ⟨start, stop, hnaming, -⟩ := Label.nameIn_eq_some_iff.mp hname
    exact hnone start stop hnaming

namespace Tree

open Enclosure.Tree

variable {t : Tree}

/-- The named nodes below the root, with their places. -/
def emitted (t : Tree) : List (List Nat × Label) :=
  t.places.filter fun x => decide (x.1 ≠ []) && x.2.named

/-- Each named node below the root is emitted once, in the order of the text. -/
theorem lists_emitted (t : Tree) : t.Lists (fun p l => p ≠ [] ∧ l.named = true) t.emitted := by
  have h := t.lists_places.filter fun x => decide (x.1 ≠ []) && x.2.named
  refine ⟨h.sorted, fun p l => ?_⟩
  rw [emitted, h.mem_iff]
  simp

/-- **The outline** is the bare root, and then what is emitted. -/
theorem outline_eq (t : Tree) (bytes : Bytes) :
    t.outline bytes = { kind := t.kind } :: t.emitted.map fun x => x.2.node bytes := by
  obtain ⟨l, ts⟩ := t
  have hbelow : (placesFrom 0 ts).filter (fun x => decide (x.1 ≠ []) && x.2.named) =
      (placesFrom 0 ts).filter fun x => x.2.named := by
    refine List.filter_congr fun x hx => ?_
    obtain ⟨i, q, hp, -⟩ := (mem_placesFrom_iff 0 ts x.1 x.2).mp hx
    simp [hp]
  rw [outline, children, visit_eq_preorderAll, ← map_snd_placesFrom 0, emitted, places,
    List.filter_cons_of_neg (by simp), hbelow, List.filter_map, List.map_map]
  rfl

/-- A tree that says that it holds no error is refused for a statement of an old form or not at
all. -/
theorem nodesOf_of_not_hasError (h : t.label.hasError = false) (bytes : Bytes) :
    nodesOf t bytes =
      match t.preorder.find? Label.isLegacy with
      | some l => .error (l.refusedAs s!"Python 2 {l.legacyWord} statement")
      | none => .ok ({ kind := t.kind } :: t.emitted.map fun x => x.2.node bytes) := by
  rw [nodesOf, h, if_neg Bool.false_ne_true, firstLegacy?_eq_find?, outline_eq]
  cases t.preorder.find? Label.isLegacy with
  | some l => simp only [refusal_legacy]
  | none => rfl

/-- **There are three cases**: the first fault is reported; without one, the first statement of an
old form; and without either, the outline. -/
theorem nodesOf_cases (h : t.FlagsAgree) (bytes : Bytes) :
    (∃ p l, t.IsFirst Label.isFault p l ∧
      nodesOf t bytes = .error (l.refusedAs l.faultName)) ∨
    ((∀ p l, t.labelAt? p = some l → l.isFault = false) ∧ ∃ p l, t.IsFirst Label.isLegacy p l ∧
      nodesOf t bytes = .error (l.refusedAs s!"Python 2 {l.legacyWord} statement")) ∨
    ((∀ p l, t.labelAt? p = some l → ¬l.IsRefused) ∧
      nodesOf t bytes = .ok ({ kind := t.kind } :: t.emitted.map fun x => x.2.node bytes)) := by
  cases hfault : t.preorder.find? Label.isFault with
  | some l =>
    obtain ⟨p, hp⟩ := exists_isFirst_of_find?_preorder hfault
    have herror := h.hasError_iff.mpr ⟨l, List.mem_of_find?_eq_some hfault, hp.isOf⟩
    refine .inl ⟨p, l, hp, ?_⟩
    rw [nodesOf, if_pos herror, firstError?_eq_find? h, hfault]
    simp only [refusal_complaint]
  | none =>
    have hclean := (t.find?_preorder_eq_none_iff Label.isFault).mp hfault
    have herror : t.label.hasError = false := by
      rw [← Bool.not_eq_true, h.hasError_iff]
      rintro ⟨m, hm, hm'⟩
      exact List.find?_eq_none.mp hfault m hm hm'
    rw [nodesOf_of_not_hasError herror]
    cases hlegacy : t.preorder.find? Label.isLegacy with
    | some l =>
      obtain ⟨p, hp⟩ := exists_isFirst_of_find?_preorder hlegacy
      exact .inr (.inl ⟨hclean, p, l, hp, rfl⟩)
    | none =>
      have hmodern := (t.find?_preorder_eq_none_iff Label.isLegacy).mp hlegacy
      refine .inr (.inr ⟨fun p l hl hrefused => ?_, rfl⟩)
      simpa [hclean p l hl, hmodern p l hl] using l.isRefused_iff.mp hrefused

end Tree
end Concrete

/-! ## The back end -/

namespace Backend

open Concrete

variable {read : List Char → Concrete.Tree} {source : Codes} {t : Concrete.Tree}

/-- What the back end answers for a tree. -/
theorem value_answer_concrete (hsource : source.NoSurrogates)
    (hread : ∀ cs, Codes.ofChars cs = Text.oneNewline source → read cs = t) (earlier : Nat) :
    ((Backend.concrete read).answer earlier source).value =
      nodesOf t (Utf8.encode (Text.oneNewline source)) := by
  obtain ⟨cs, hcs⟩ := Codes.exists_ofChars_eq (Text.noSurrogates_oneNewline hsource)
  simp only [Backend.concrete, Text.lineFeedsOnly_eq_oneNewline, ← hcs, Codes.toChars?_ofChars,
    hread cs hcs]

/-- An answer with nodes comes from a tree; a text with surrogates has none. -/
theorem nodesOf_of_answer_eq_ok
    (hread : ∀ cs, Codes.ofChars cs = Text.oneNewline source → read cs = t) {earlier : Nat}
    {ns : List Node} (h : ((Backend.concrete read).answer earlier source).value = .ok ns) :
    nodesOf t (Utf8.encode (Text.oneNewline source)) = .ok ns := by
  simp only [Backend.concrete, Text.lineFeedsOnly_eq_oneNewline] at h
  cases hchars : (Text.oneNewline source).toChars? with
  | none =>
    rw [hchars] at h
    cases h
  | some cs =>
    rw [hchars] at h
    rw [← hread cs (Codes.ofChars_of_toChars? hchars)]
    exact h

end Backend

open Concrete

/-- **A tree is reported exactly.**  If its flags agree with its nodes, the text is refused if and
only if a node is an error, stands for something missing, or is a statement of an old form.  The
refusal names the place of the first fault, and if there is none that of the first statement of an
old form; it always names a place.  Otherwise the answer is the bare root, and then each named node
below it once, in the order of the text, whether the nodes between are named or not, each with its
kind, its lines and the identifier that names it. -/
theorem concrete_tree_reported_exactly {read : List Char → Concrete.Tree} {source : Codes} {t : Concrete.Tree}
    (hsource : source.NoSurrogates)
    (hread : ∀ cs, Codes.ofChars cs = Text.oneNewline source → read cs = t) (hflags : t.FlagsAgree)
    (earlier : Nat) :
    ((∃ message line, ((Backend.concrete read).answer earlier source).value =
        .error (.unparsable message line)) ↔ ∃ p l, t.labelAt? p = some l ∧ l.IsRefused) ∧
    ((∃ p l, t.labelAt? p = some l ∧ l.isFault = true) →
      ∃ p l, t.IsFirst Label.isFault p l ∧
        ((Backend.concrete read).answer earlier source).value =
          .error (l.refusedAs l.faultName)) ∧
    ((∀ p l, t.labelAt? p = some l → l.isFault = false) →
      (∃ p l, t.labelAt? p = some l ∧ l.isLegacy = true) →
      ∃ p l, t.IsFirst Label.isLegacy p l ∧
        ((Backend.concrete read).answer earlier source).value =
          .error (l.refusedAs s!"Python 2 {l.legacyWord} statement")) ∧
    (∀ line, ((Backend.concrete read).answer earlier source).value ≠
      .error (.unparsable (Codes.ofString "invalid syntax") line)) ∧
    ((∀ p l, t.labelAt? p = some l → ¬l.IsRefused) →
      ∃ xs ns, t.Lists (fun p l => p ≠ [] ∧ l.named = true) xs ∧
        List.Forall₂ (fun x n => x.2.IsReportedAs (Utf8.encode (Text.oneNewline source)) n) xs ns ∧
        ((Backend.concrete read).answer earlier source).value =
          .ok (⟨t.kind, none, none, none⟩ :: ns)) := by
  rw [Backend.value_answer_concrete hsource hread earlier]
  generalize Utf8.encode (Text.oneNewline source) = bytes
  rcases Tree.nodesOf_cases hflags bytes with
    ⟨p, l, hp, hvalue⟩ | ⟨hclean, p, l, hp, hvalue⟩ | ⟨hnone, hvalue⟩
  · -- the first fault is reported
    have hrefused : l.IsRefused := l.isRefused_iff.mpr (.inl hp.isOf)
    rw [hvalue]
    refine ⟨⟨fun _ => ⟨p, l, hp.labelAt, hrefused⟩, fun _ => ⟨_, _, rfl⟩⟩,
      fun _ => ⟨p, l, hp, rfl⟩, fun hclean => ?_, fun line h => ?_, fun hnone => ?_⟩
    · exact absurd hp.isOf (by simp [hclean p l hp.labelAt])
    · exact refusedAs_ne_bare _ l line (Except.error.inj h)
    · exact absurd hrefused (hnone p l hp.labelAt)
  · -- the first statement of an old form is reported
    have hrefused : l.IsRefused := l.isRefused_iff.mpr (.inr hp.isOf)
    rw [hvalue]
    refine ⟨⟨fun _ => ⟨p, l, hp.labelAt, hrefused⟩, fun _ => ⟨_, _, rfl⟩⟩,
      fun ⟨q, m, hm, hm'⟩ => ?_, fun _ _ => ⟨p, l, hp, rfl⟩, fun line h => ?_, fun hnone => ?_⟩
    · exact absurd hm' (by simp [hclean q m hm])
    · exact refusedAs_ne_bare _ l line (Except.error.inj h)
    · exact absurd hrefused (hnone p l hp.labelAt)
  · -- nothing is wrong, and the named nodes are reported
    rw [hvalue]
    refine ⟨⟨fun ⟨_, _, h⟩ => ?_, fun ⟨q, m, hm, hm'⟩ => absurd hm' (hnone q m hm)⟩,
      fun ⟨q, m, hm, hm'⟩ => ?_, fun _ ⟨q, m, hm, hm'⟩ => ?_, fun line h => ?_,
      fun _ => ⟨t.emitted, _, t.lists_emitted, ?_, rfl⟩⟩
    · cases h
    · exact absurd (m.isRefused_iff.mpr (.inl hm')) (hnone q m hm)
    · exact absurd (m.isRefused_iff.mpr (.inr hm')) (hnone q m hm)
    · cases h
    · rw [List.forall₂_map_right_iff, List.forall₂_same]
      exact fun x _ => x.2.isReportedAs_node bytes

/-- The tree of a statement of an old form and of a call that is not closed. -/
def unclosedTree : Concrete.Tree :=
  .node { kind := "module", span := ⟨⟨0, 0⟩, ⟨2, 0⟩, 0, 11⟩, hasError := true }
    [.node { kind := "print_statement", span := ⟨⟨0, 0⟩, ⟨0, 7⟩, 0, 7⟩ } [],
      .node { kind := "call", span := ⟨⟨1, 0⟩, ⟨1, 2⟩, 8, 10⟩, hasError := true }
        [Tree.leaf "identifier" ⟨⟨1, 0⟩, ⟨1, 1⟩, 8, 9⟩ true,
          Tree.leaf "(" ⟨⟨1, 1⟩, ⟨1, 2⟩, 9, 10⟩ false,
          .node { kind := ")", span := ⟨⟨1, 2⟩, ⟨1, 2⟩, 10, 10⟩, named := false, isMissing := true,
                  hasError := true } []]]

/-- The missing bracket is reported, although a statement of an old form comes before it. -/
theorem unclosedTree_refused :
    unclosedTree.FlagsAgree ∧
      ((Backend.concrete fun _ => unclosedTree).answer 0 (Codes.ofString "print 1\nf(\n")).value =
        .error (.unparsable (Codes.ofString "missing ')' at line 2, column 3") (.int 2)) := by
  have hflags : unclosedTree.FlagsAgree := Tree.FlagsAgree.of_places (by decide)
  have hfault : ∀ x ∈ unclosedTree.places, x.2.isFault = true →
      x.2 = { kind := ")", span := ⟨⟨1, 2⟩, ⟨1, 2⟩, 10, 10⟩, named := false, isMissing := true,
              hasError := true } := by decide
  obtain ⟨p, l, hl, hvalue⟩ := (concrete_tree_reported_exactly
    (Codes.noSurrogates_ofString "print 1\nf(\n") (fun _ _ => rfl) hflags 0).2.1
    ⟨[1, 2], _, rfl, rfl⟩
  obtain rfl := hfault (p, l) ((Tree.mem_places_iff _ p l).mpr hl.labelAt) hl.isOf
  exact ⟨hflags, hvalue⟩

end Enclosure
