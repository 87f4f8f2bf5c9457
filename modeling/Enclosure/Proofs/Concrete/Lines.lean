import Enclosure.Proofs.Concrete.Nesting
import Enclosure.Proofs.Lookup

/-!
# The lines that a node touches

A point of a concrete tree is a row and a column; both come from an offset into the bytes of the
text.  The row is the number of line feeds before the offset, and the column is zero exactly if the
byte before the offset is one of them.  So the line that a node loses when it stops in column zero
is a line of which it has no byte: what is left are the lines of its first byte and of its last one,
a line feed belonging to the line that it ends.

What is here:

* `Span.LiesIn`: a span with at least one byte, whose points are those of its offsets.
* `lineSpan_of_liesIn`: its lines are those of its first and of its last byte.
* `lines_touched_exactly`: none of them lies behind the end of the text, and a search that asks for
  such a line finds nothing.
-/

set_option autoImplicit false

namespace Enclosure

namespace Concrete

open Utf8

/-! ## Points of offsets -/

/-- The offset right after the last line feed before an offset. -/
def lineStart (bytes : Bytes) (offset : Nat) : Nat :=
  ((bytes.take offset).reverse.dropWhile (· ≠ newline)).length

/-- The point of an offset: how many line feeds come before it, and how far it is from the last of
them. -/
def pointAt (bytes : Bytes) (offset : Nat) : Point :=
  ⟨newlinesBefore bytes offset, offset - lineStart bytes offset⟩

theorem lineStart_le (bytes : Bytes) (offset : Nat) : lineStart bytes offset ≤ offset := by
  have hdrop := (List.dropWhile_sublist (· ≠ newline)
    (l := (bytes.take offset).reverse)).length_le
  rw [List.length_reverse] at hdrop
  exact hdrop.trans (List.length_take_le offset bytes)

/-- **A column is zero** exactly behind a line feed. -/
theorem column_pointAt_succ_eq_zero_iff {bytes : Bytes} {n : Nat} (h : n < bytes.length) :
    (pointAt bytes (n + 1)).column = 0 ↔ bytes[n] = newline := by
  have hle := lineStart_le bytes n
  have hlength : (bytes.take n).length = n := List.length_take_of_le h.le
  rw [pointAt, lineStart, List.take_succ_eq_append_getElem h, List.reverse_append,
    List.reverse_singleton, List.singleton_append]
  by_cases hlast : bytes[n] = newline
  · rw [List.dropWhile_cons_of_neg (by simpa using hlast), List.length_cons, List.length_reverse,
      hlength]
    simpa using hlast
  · rw [List.dropWhile_cons_of_pos (by simpa using hlast), ← lineStart]
    simp only [hlast, iff_false]
    omega

/-- A span with at least one byte of a text, whose points are those of its offsets. -/
structure Span.LiesIn (s : Span) (bytes : Bytes) : Prop where
  /-- Where it starts. -/
  start : s.start = pointAt bytes s.startByte
  /-- Where it stops. -/
  stop : s.stop = pointAt bytes s.stopByte
  /-- There is something in it. -/
  nonempty : s.startByte < s.stopByte
  /-- It does not reach beyond the text. -/
  bounded : s.stopByte ≤ bytes.length

instance (s : Span) (bytes : Bytes) : Decidable (s.LiesIn bytes) :=
  decidable_of_iff
    (s.start = pointAt bytes s.startByte ∧ s.stop = pointAt bytes s.stopByte ∧
      s.startByte < s.stopByte ∧ s.stopByte ≤ bytes.length)
    ⟨fun ⟨hstart, hstop, hlt, hle⟩ => ⟨hstart, hstop, hlt, hle⟩,
      fun h => ⟨h.start, h.stop, h.nonempty, h.bounded⟩⟩

/-! ## Lines -/

/-- **The lines of a span** are the line of its first byte and the line of its last one. -/
theorem lineSpan_of_liesIn {s : Span} {bytes : Bytes} (h : s.LiesIn bytes) :
    lineSpan s = (newlinesBefore bytes s.startByte + 1,
      newlinesBefore bytes (s.stopByte - 1) + 1) := by
  obtain ⟨last, hlast⟩ : ∃ n, s.stopByte = n + 1 :=
    Nat.exists_eq_succ_of_ne_zero (Nat.ne_zero_of_lt h.nonempty)
  have hbounded := h.bounded
  have hnonempty := h.nonempty
  have hin : last < bytes.length := by omega
  have hmono : newlinesBefore bytes s.startByte ≤ newlinesBefore bytes last :=
    newlinesBefore_mono bytes (by omega)
  have hstart : s.start.row = newlinesBefore bytes s.startByte := by rw [h.start]; rfl
  have hstop : s.stop.row = newlinesBefore bytes (last + 1) := by rw [h.stop, hlast]; rfl
  have hcolumn : s.stop.column = 0 ↔ bytes[last] = newline := by
    rw [h.stop, hlast, column_pointAt_succ_eq_zero_iff hin]
  rw [newlinesBefore_succ hin] at hstop
  rw [lineSpan_eq, hlast, Nat.add_sub_cancel, hstart]
  by_cases hnewline : bytes[last] = newline
  · -- the span stops behind a line feed, and so at the start of the next line
    rw [if_pos hnewline] at hstop
    rw [if_pos ⟨hcolumn.mpr hnewline, by omega⟩, hstop]
  · rw [if_neg hnewline, Nat.add_zero] at hstop
    rw [if_neg fun hzero => hnewline (hcolumn.mp hzero.1), hstop]

/-- None of them lies behind the last line of the text. -/
theorem lineSpan_bounds_of_liesIn {s : Span} {xs : Codes} (h : s.LiesIn (encode xs)) :
    1 ≤ (lineSpan s).1 ∧ (lineSpan s).1 ≤ (lineSpan s).2 ∧
      (lineSpan s).2 ≤ Text.lineCount xs := by
  have hlast : s.stopByte - 1 < (encode xs).length := by
    have hnonempty := h.nonempty
    have hbounded := h.bounded
    omega
  have hmono : newlinesBefore (encode xs) s.startByte ≤
      newlinesBefore (encode xs) (s.stopByte - 1) :=
    newlinesBefore_mono _ (Nat.le_sub_one_of_lt h.nonempty)
  have hcount := newlinesBefore_lt_lineCount hlast
  rw [lineSpan_of_liesIn h]
  dsimp only
  omega

end Concrete

/-- A search among nodes that end before the range ends finds none. -/
theorem select_eq_none_of_lastLine_lt {nodes : List Node} {range : LineRange} {last : Int}
    (h : ∀ n ∈ nodes, ∀ s, n.span? = some s → s.2 ≤ last) (hlast : last < range.stop) (mode : Mode)
    (kinds : Kinds) : select nodes range mode kinds = none := by
  by_contra hsome
  obtain ⟨n, hn⟩ := Option.ne_none_iff_exists'.mp hsome
  obtain ⟨hmem, helig, -⟩ := isEligible_of_select_eq_some hn
  obtain ⟨first, stop, hs, -, hstop⟩ := (n.contains_eq_true_iff range).mp helig
  have hle := h n hmem (first, stop) hs
  dsimp only at hle
  omega

open Concrete

/-- **The lines that are touched.**  A span with at least one byte has the lines from that of its
first byte to that of its last one.  So if all named nodes below the root have something in them,
every reported node but the root has lines of the text, and a search for lines of which one lies
behind its end finds nothing. -/
theorem lines_touched_exactly {read : List Char → Concrete.Tree} {source : Codes} {t : Concrete.Tree}
    (hread : ∀ cs, Codes.ofChars cs = Text.oneNewline source → read cs = t) (earlier : Nat) :
    (∀ (bytes : Bytes) (s : Span), s.LiesIn bytes →
      lineSpan s = (Utf8.newlinesBefore bytes s.startByte + 1,
        Utf8.newlinesBefore bytes (s.stopByte - 1) + 1)) ∧
    ∀ ns, ((Backend.concrete read).answer earlier source).value = .ok ns →
      (∀ p l, p ≠ [] → t.labelAt? p = some l → l.named = true →
        l.span.LiesIn (Utf8.encode (Text.oneNewline source))) →
      (∃ below, ns = { kind := t.kind } :: below ∧ ∀ n ∈ below, ∃ first last : Int,
        n.span? = some (first, last) ∧ 1 ≤ first ∧ first ≤ last ∧
          last ≤ Text.lineCount (Text.oneNewline source)) ∧
      ∀ range mode kinds, (Text.lineCount (Text.oneNewline source) : Int) < range.stop →
        ((Backend.concrete read).find earlier source range mode kinds).value = .ok none := by
  refine ⟨fun bytes s hs => lineSpan_of_liesIn hs, fun ns hok hspans => ?_⟩
  obtain rfl := Tree.nodesOf_eq_ok (Backend.nodesOf_of_answer_eq_ok hread hok)
  have hbelow : ∀ n ∈ t.emitted.map (fun x => x.2.node (Utf8.encode (Text.oneNewline source))),
      ∃ first last : Int, n.span? = some (first, last) ∧ 1 ≤ first ∧ first ≤ last ∧
        last ≤ Text.lineCount (Text.oneNewline source) := by
    intro n hn
    obtain ⟨x, hx, rfl⟩ := List.mem_map.mp hn
    obtain ⟨hl, hp, hnamed⟩ := (t.lists_emitted.mem_iff x.1 x.2).mp hx
    obtain ⟨hone, hle, hcount⟩ := lineSpan_bounds_of_liesIn (hspans x.1 x.2 hp hl hnamed)
    exact ⟨_, _, x.2.span?_node _, by omega, by omega, by omega⟩
  refine ⟨⟨_, rfl, hbelow⟩, fun range mode kinds hrange => ?_⟩
  rw [Backend.value_find, hok]
  dsimp only
  rw [select_eq_none_of_lastLine_lt (fun n hn s hs => ?_) hrange, Option.bind_none, ite_self]
  rcases List.mem_cons.mp hn with rfl | hn
  · cases hs
  · obtain ⟨first, last, hspan, -, -, hlast⟩ := hbelow n hn
    obtain rfl := Option.some_inj.mp (hspan.symm.trans hs)
    exact hlast

/-- The tree of a block on three lines, the second one blank, with a statement that has the line
feed after it. -/
def blankLineTree : Concrete.Tree :=
  .node { kind := "module", span := ⟨⟨0, 0⟩, ⟨2, 1⟩, 0, 4⟩ }
    [.node { kind := "block", span := ⟨⟨0, 0⟩, ⟨2, 1⟩, 0, 4⟩ }
      [Tree.leaf "statement" ⟨⟨0, 0⟩, ⟨1, 0⟩, 0, 2⟩ true,
        Tree.leaf "statement" ⟨⟨2, 0⟩, ⟨2, 1⟩, 3, 4⟩ true]]

/-- The text has three lines, all nodes lie on them, and the fourth line is in no construct. -/
theorem blankLineTree_lines :
    (∀ p l, p ≠ [] → blankLineTree.labelAt? p = some l → l.named = true →
      l.span.LiesIn (Utf8.encode (Text.oneNewline (Codes.ofString "a\n\nb")))) ∧
    ((Backend.concrete fun _ => blankLineTree).answer 0 (Codes.ofString "a\n\nb")).value =
      .ok [{ kind := "module" }, ⟨"block", some 1, some 3, none⟩,
        ⟨"statement", some 1, some 1, none⟩, ⟨"statement", some 3, some 3, none⟩] ∧
    ((Backend.concrete fun _ => blankLineTree).find 0 (Codes.ofString "a\n\nb")
      ⟨3, 4, by decide, by decide⟩ .largest none).value = .ok none := by
  have hspans : ∀ p l, p ≠ [] → blankLineTree.labelAt? p = some l → l.named = true →
      l.span.LiesIn (Utf8.encode (Text.oneNewline (Codes.ofString "a\n\nb"))) := by
    have hplaces : ∀ x ∈ blankLineTree.places,
        x.2.span.LiesIn (Utf8.encode (Text.oneNewline (Codes.ofString "a\n\nb"))) := by decide
    exact fun p l _ hl _ => hplaces (p, l) ((Tree.mem_places_iff _ p l).mpr hl)
  have hanswer : ((Backend.concrete fun _ => blankLineTree).answer 0
      (Codes.ofString "a\n\nb")).value =
      .ok [{ kind := "module" }, ⟨"block", some 1, some 3, none⟩,
        ⟨"statement", some 1, some 1, none⟩, ⟨"statement", some 3, some 3, none⟩] := by
    rw [Backend.value_answer_concrete (Codes.noSurrogates_ofString _) (fun _ _ => rfl),
      Tree.nodesOf_of_not_hasError (by decide)]
    rfl
  have hread : ∀ cs, Codes.ofChars cs = Text.oneNewline (Codes.ofString "a\n\nb") →
      (fun _ : List Char => blankLineTree) cs = blankLineTree := fun _ _ => rfl
  obtain ⟨-, hlines⟩ := lines_touched_exactly hread 0
  exact ⟨hspans, hanswer, (hlines _ hanswer hspans).2 _ _ _ (by decide)⟩

end Enclosure
