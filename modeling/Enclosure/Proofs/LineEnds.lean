import Enclosure.Proofs.Newlines
import Enclosure.Backend.Concrete

/-!
# Cutting a text at its line ends

The back end for concrete trees replaces all line ends before it counts rows, and so its answer is only
about the text that it was given if that keeps the lines as they were.  Where carriage returns and line
feeds meet this is not obvious: `\r\r\n` are two ends and not three or one, `\n\r` are two, and what the
first replacement leaves behind must not make up a new pair for the second one.  Here the lines are
described without any replacing: a text is cut from left to right, a pair is taken as one end wherever
there is one, and the pieces are what the replaced text has between its line feeds.

What is here:

* `Text.IsCut`: a text and its pieces between line ends.
* `Text.isCut_iff`: they are the pieces of the replaced text, and there is no other way to cut.
* `Text.oneNewline_eq_self_iff`: a text without carriage returns stays as it is.
* `Text.oneNewline_withPairs` and `Text.oneNewline_withReturns`: other line ends come to the same.
* `line_ends_unified`: the lines, and what the back end answers.
-/

set_option autoImplicit false

namespace Enclosure

namespace Text

/-- Some code points of one line. -/
def IsPiece (xs : Codes) : Prop := carriageReturn ∉ xs ∧ lineFeed ∉ xs

instance (xs : Codes) : Decidable (IsPiece xs) :=
  inferInstanceAs (Decidable (carriageReturn ∉ xs ∧ lineFeed ∉ xs))

/-- A text cut from left to right at its line ends, into the pieces between them. -/
inductive IsCut : Codes → List Codes → Prop
  /-- There are no more line ends. -/
  | last {piece : Codes} (hpiece : IsPiece piece) : IsCut piece [piece]
  /-- A carriage return and a line feed are one line end. -/
  | atPair {piece rest : Codes} {pieces : List Codes} (hpiece : IsPiece piece)
      (hrest : IsCut rest pieces) :
      IsCut (piece ++ carriageReturn :: lineFeed :: rest) (piece :: pieces)
  /-- A carriage return is a line end if no line feed follows it. -/
  | atReturn {piece rest : Codes} {pieces : List Codes} (hpiece : IsPiece piece)
      (halone : rest.head? ≠ some lineFeed) (hrest : IsCut rest pieces) :
      IsCut (piece ++ carriageReturn :: rest) (piece :: pieces)
  /-- A line feed is a line end. -/
  | atFeed {piece rest : Codes} {pieces : List Codes} (hpiece : IsPiece piece)
      (hrest : IsCut rest pieces) : IsCut (piece ++ lineFeed :: rest) (piece :: pieces)

/-! ## One pass over a text -/

theorem oneNewline_pair (xs : Codes) :
    oneNewline (carriageReturn :: lineFeed :: xs) = lineFeed :: oneNewline xs := by
  rw [oneNewline, if_pos rfl]
  exact if_pos rfl

theorem oneNewline_return {xs : Codes} (h : xs.head? ≠ some lineFeed) :
    oneNewline (carriageReturn :: xs) = lineFeed :: oneNewline xs := by
  cases xs with
  | nil => rfl
  | cons x xs =>
    rw [oneNewline, if_pos rfl]
    refine if_neg fun hx => h ?_
    rw [hx, List.head?_cons]

theorem oneNewline_cons_of_ne {x : CodePoint} (h : x ≠ carriageReturn) (xs : Codes) :
    oneNewline (x :: xs) = x :: oneNewline xs := by
  cases xs <;> exact if_neg h

theorem oneNewline_append_of_not_mem {xs : Codes} (h : carriageReturn ∉ xs) (ys : Codes) :
    oneNewline (xs ++ ys) = xs ++ oneNewline ys := by
  induction xs with
  | nil => rfl
  | cons x xs ih =>
    rw [List.mem_cons, not_or] at h
    rw [List.cons_append, oneNewline_cons_of_ne (Ne.symm h.1), ih h.2, List.cons_append]

/-- No carriage return is left. -/
theorem not_mem_oneNewline (xs : Codes) : carriageReturn ∉ oneNewline xs := by
  have hne : carriageReturn ≠ lineFeed := by decide
  fun_induction oneNewline xs with
  | case1 => exact List.not_mem_nil
  | case2 ys ih => exact List.not_mem_cons_of_ne_of_not_mem hne ih
  | case3 y ys hy ih => exact List.not_mem_cons_of_ne_of_not_mem hne ih
  | case4 => exact List.not_mem_cons_of_ne_of_not_mem hne List.not_mem_nil
  | case5 x xs hx ih => exact List.not_mem_cons_of_ne_of_not_mem (Ne.symm hx) ih

/-- **A text stays as it is** if and only if there are no carriage returns in it. -/
theorem oneNewline_eq_self_iff {xs : Codes} : oneNewline xs = xs ↔ carriageReturn ∉ xs := by
  refine ⟨fun h => h ▸ not_mem_oneNewline xs, fun h => ?_⟩
  have happend := oneNewline_append_of_not_mem h []
  rwa [List.append_nil, oneNewline, List.append_nil] at happend

/-! ## The pieces -/

/-- The pieces of a cut are those between the line feeds that are left. -/
theorem IsCut.splitOn_oneNewline {xs : Codes} {pieces : List Codes} (h : IsCut xs pieces) :
    (oneNewline xs).splitOn lineFeed = pieces := by
  induction h with
  | last hpiece => rw [oneNewline_eq_self_iff.mpr hpiece.1, List.splitOn_eq_singleton hpiece.2]
  | atPair hpiece hrest ih =>
    rw [oneNewline_append_of_not_mem hpiece.1, oneNewline_pair,
      List.splitOn_append_cons_self_of_not_mem hpiece.2, ih]
  | atReturn hpiece halone hrest ih =>
    rw [oneNewline_append_of_not_mem hpiece.1, oneNewline_return halone,
      List.splitOn_append_cons_self_of_not_mem hpiece.2, ih]
  | atFeed hpiece hrest ih =>
    rw [oneNewline_append_of_not_mem hpiece.1, oneNewline_cons_of_ne (by decide),
      List.splitOn_append_cons_self_of_not_mem hpiece.2, ih]

/-- A code point that ends no line makes the first piece longer. -/
theorem IsCut.cons {x : CodePoint} {xs : Codes} {pieces : List Codes} (h : IsCut xs pieces)
    (hreturn : x ≠ carriageReturn) (hfeed : x ≠ lineFeed) :
    ∃ pieces', IsCut (x :: xs) pieces' := by
  have hlonger {piece : Codes} (hpiece : IsPiece piece) : IsPiece (x :: piece) :=
    ⟨List.not_mem_cons_of_ne_of_not_mem hreturn.symm hpiece.1,
      List.not_mem_cons_of_ne_of_not_mem hfeed.symm hpiece.2⟩
  cases h with
  | last hpiece => exact ⟨_, .last (hlonger hpiece)⟩
  | atPair hpiece hrest => exact ⟨_, .atPair (hlonger hpiece) hrest⟩
  | atReturn hpiece halone hrest => exact ⟨_, .atReturn (hlonger hpiece) halone hrest⟩
  | atFeed hpiece hrest => exact ⟨_, .atFeed (hlonger hpiece) hrest⟩

/-- Every text can be cut. -/
theorem exists_isCut (xs : Codes) : ∃ pieces, IsCut xs pieces := by
  have hempty : IsPiece [] := ⟨List.not_mem_nil, List.not_mem_nil⟩
  fun_induction oneNewline xs with
  | case1 => exact ⟨_, .last hempty⟩
  | case2 ys ih =>
    obtain ⟨pieces, hcut⟩ := ih
    exact ⟨_, .atPair hempty hcut⟩
  | case3 y ys hy ih =>
    obtain ⟨pieces, hcut⟩ := ih
    exact ⟨_, .atReturn hempty (fun h => hy (Option.some_inj.mp h)) hcut⟩
  | case4 => exact ⟨_, .atReturn hempty (by simp) (.last hempty)⟩
  | case5 x xs hx ih =>
    obtain ⟨pieces, hcut⟩ := ih
    by_cases hfeed : x = lineFeed
    · subst hfeed
      exact ⟨_, .atFeed hempty hcut⟩
    · exact hcut.cons hx hfeed

/-- **The pieces of a text** are what is between the line feeds once all line ends are replaced, and
there is only this one way to cut it. -/
theorem isCut_iff {xs : Codes} {pieces : List Codes} :
    IsCut xs pieces ↔ (oneNewline xs).splitOn lineFeed = pieces := by
  refine ⟨IsCut.splitOn_oneNewline, fun h => ?_⟩
  obtain ⟨pieces', hcut⟩ := exists_isCut xs
  rwa [← h, hcut.splitOn_oneNewline]

/-- Texts with the same pieces are the same once their line ends are replaced. -/
theorem IsCut.oneNewline_eq {xs ys : Codes} {pieces : List Codes} (hxs : IsCut xs pieces)
    (hys : IsCut ys pieces) : oneNewline xs = oneNewline ys := by
  have hpieces := hxs.splitOn_oneNewline.trans hys.splitOn_oneNewline.symm
  have hjoined := congrArg (List.intercalate [lineFeed]) hpieces
  rwa [List.intercalate_splitOn, List.intercalate_splitOn] at hjoined

/-! ## Other line ends -/

/-- A pair in the place of each line feed comes to the same. -/
theorem oneNewline_withPairs {xs : Codes} (h : carriageReturn ∉ xs) :
    oneNewline (replace lineFeed [] [carriageReturn, lineFeed] xs) = xs := by
  rw [replace_singleton]
  induction xs with
  | nil => rfl
  | cons x xs ih =>
    rw [List.mem_cons, not_or] at h
    rw [List.flatMap_cons]
    split
    · next hx => rw [List.cons_append, List.singleton_append, oneNewline_pair, ih h.2, hx]
    · rw [List.singleton_append, oneNewline_cons_of_ne (Ne.symm h.1), ih h.2]

/-- A carriage return in the place of each line feed comes to the same: no line feed is left that could
belong to it. -/
theorem oneNewline_withReturns {xs : Codes} (h : carriageReturn ∉ xs) :
    oneNewline (replace lineFeed [] [carriageReturn] xs) = xs := by
  have hnone (ys : Codes) : lineFeed ∉ replace lineFeed [] [carriageReturn] ys := by
    rw [replace_singleton, List.mem_flatMap]
    rintro ⟨y, -, hy⟩
    split at hy
    · exact absurd (List.mem_singleton.mp hy) (by decide)
    · next hne => exact hne (List.mem_singleton.mp hy).symm
  induction xs with
  | nil => rfl
  | cons x xs ih =>
    rw [List.mem_cons, not_or] at h
    have halone : (replace lineFeed [] [carriageReturn] xs).head? ≠ some lineFeed :=
      fun hhead => hnone xs (List.mem_of_mem_head? hhead)
    by_cases hx : x = lineFeed
    · subst hx
      rw [← List.nil_append xs, replace_occurrence, List.singleton_append, List.nil_append,
        oneNewline_return halone, ih h.2]
    · rw [replace_cons_of_not (fun hfeed => absurd hfeed hx), oneNewline_cons_of_ne (Ne.symm h.1),
        ih h.2]

end Text

open Text

/-- The back end answers two texts alike if they are the same once their line ends are replaced. -/
theorem Backend.answer_concrete_congr (read : List Char → Concrete.Tree) (earlier : Nat)
    {source other : Codes} (h : oneNewline source = oneNewline other) :
    (Backend.concrete read).answer earlier source = (Backend.concrete read).answer earlier other := by
  simp only [Backend.concrete, lineFeedsOnly_eq_oneNewline, h]

/-- **Replacing line ends keeps the lines.**  No carriage return is left; the pieces between the line
feeds are those of the text between its line ends, cut in one pass in which a pair counts as one end;
and there is nothing to replace a second time.  So the back end for concrete trees gives one answer,
nodes or failure, to all texts with the same pieces, in particular to a text without carriage returns
and to the same text with pairs or with carriage returns as its line ends. -/
theorem line_ends_unified (source : Codes) :
    carriageReturn ∉ lineFeedsOnly source ∧
    (∀ pieces, IsCut source pieces ↔ (lineFeedsOnly source).splitOn lineFeed = pieces) ∧
    lineFeedsOnly (lineFeedsOnly source) = lineFeedsOnly source ∧
    ∀ (read : List Char → Concrete.Tree) (earlier : Nat),
      (∀ other pieces, IsCut source pieces → IsCut other pieces →
        (Backend.concrete read).answer earlier other =
          (Backend.concrete read).answer earlier source) ∧
      (carriageReturn ∉ source →
        (Backend.concrete read).answer earlier
            (replace lineFeed [] [carriageReturn, lineFeed] source) =
          (Backend.concrete read).answer earlier source ∧
        (Backend.concrete read).answer earlier (replace lineFeed [] [carriageReturn] source) =
          (Backend.concrete read).answer earlier source) := by
  rw [lineFeedsOnly_eq_oneNewline, lineFeedsOnly_eq_oneNewline]
  refine ⟨not_mem_oneNewline source, fun pieces => isCut_iff,
    oneNewline_eq_self_iff.mpr (not_mem_oneNewline source), fun read earlier =>
    ⟨fun other pieces hsource hother =>
      Backend.answer_concrete_congr read earlier (hother.oneNewline_eq hsource), fun h => ?_⟩⟩
  have hself := oneNewline_eq_self_iff.mpr h
  exact ⟨Backend.answer_concrete_congr read earlier ((oneNewline_withPairs h).trans hself.symm),
    Backend.answer_concrete_congr read earlier ((oneNewline_withReturns h).trans hself.symm)⟩

/-- A reader whose trees tell what it was given. -/
def echoReader (cs : List Char) : Concrete.Tree :=
  .node { kind := String.ofList cs, span := ⟨⟨0, 0⟩, ⟨0, 0⟩, 0, 0⟩ } []

/-- Ends of all forms side by side are told apart, and a text with pairs is read as one without them. -/
theorem echoReader_unified :
    IsCut (Codes.ofString "a\r\r\n\n\rb") [Codes.ofString "a", [], [], [], Codes.ofString "b"] ∧
    carriageReturn ∉ Codes.ofString "a\nb" ∧
    (Backend.concrete echoReader).answer 0 (Codes.ofString "a\r\nb") =
      (Backend.concrete echoReader).answer 0 (Codes.ofString "a\nb") ∧
    ((Backend.concrete echoReader).answer 0 (Codes.ofString "a\r\nb")).events =
      [.handed ['a', '\n', 'b']] := by
  have hplain : carriageReturn ∉ Codes.ofString "a\nb" := by decide
  obtain ⟨-, hcut, -, -⟩ := line_ends_unified (Codes.ofString "a\r\r\n\n\rb")
  obtain ⟨-, -, -, hanswer⟩ := line_ends_unified (Codes.ofString "a\nb")
  have hpairs : replace lineFeed [] [carriageReturn, lineFeed] (Codes.ofString "a\nb") =
      Codes.ofString "a\r\nb" := by decide
  have hsame := ((hanswer echoReader 0).2 hplain).1
  rw [hpairs] at hsame
  refine ⟨(hcut _).mpr (by decide), hplain, hsame, ?_⟩
  rw [hsame]
  decide

end Enclosure
