import Enclosure.Console.Print
import Enclosure.Proofs.Markup

/-!
# Texts that can be printed

A text with tags can be printed if it can be shown and every style that is left of it can be read.
Without breaking lines, whether a style is left depends only on what it covers, so it does not matter
what else stands in front of a text: a word in a style of its own can be printed exactly if what follows
it can be printed by itself.

What is here:

* `Markup.isLeft_rows_none_iff`: the parts of a text that are left if no line is broken.
* `exists_print_iff`: the texts that can be printed.
* `Markup.showPieces_moved`: pieces elsewhere are shown elsewhere.
* `Markup.IsStyle` and `Markup.styled`: a word in a style, and what follows it.
* `exists_print_styled_iff`: it can be printed if what follows it can be printed.
-/

set_option autoImplicit false

namespace Enclosure.Console

/-! ## Laying out without breaking lines -/

theorem charsOf_cellsOf (cs : List Char) : charsOf (cellsOf cs) = cs := by
  simp [charsOf, cellsOf, Function.comp_def]

theorem mem_cellsOf {cs : List Char} {c : Cell} : c ∈ cellsOf cs ↔ cs[c.place]? = some c.char := by
  obtain ⟨d, place⟩ := c
  simp only [cellsOf, List.mem_map, Cell.mk.injEq, Prod.exists, List.mk_mem_zipIdx_iff_getElem?]
  constructor
  · rintro ⟨a, n, h, rfl, rfl⟩
    exact h
  · exact fun h => ⟨d, place, h, rfl, rfl⟩

theorem expandTabsFrom_of_not_mem {line : List Cell} (h : ∀ c ∈ line, c.char ≠ '\t')
    (column : Nat) : expandTabsFrom column line = line := by
  induction line generalizing column with
  | nil => rfl
  | cons c line ih =>
    rw [List.forall_mem_cons] at h
    rw [expandTabsFrom, if_neg h.1, ih h.2]

/-- The blanks for a tab are where the tab is. -/
theorem any_expandTabsFrom (p : Nat → Bool) (column : Nat) (line : List Cell) :
    ((expandTabsFrom column line).any fun c => p c.place) = line.any fun c => p c.place := by
  induction line generalizing column with
  | nil => rfl
  | cons c line ih =>
    rw [expandTabsFrom]
    split
    · have hgap : tabStop - column % tabStop ≠ 0 :=
        Nat.sub_ne_zero_of_lt (Nat.mod_lt column (by decide))
      simp only [List.any_append, List.any_replicate, if_neg hgap, List.any_cons, ih]
    · rw [List.any_cons, List.any_cons, ih]

theorem textLines_cons (c : Cell) (cells : List Cell) :
    textLines (c :: cells) =
      if c.char == '\n' then [] :: textLines cells else (textLines cells).modifyHead (c :: ·) :=
  List.splitOnP_cons_eq_if_modifyHead c cells

theorem length_textLines (cells : List Cell) :
    (textLines cells).length = cells.countP (·.char == '\n') + 1 := by
  induction cells with
  | nil => rfl
  | cons c cells ih =>
    rw [textLines_cons, List.countP_cons]
    split <;> simp [*]

/-- Nothing but line feeds is lost where lines are taken apart. -/
theorem any_textLines (p : Cell → Bool) (cells : List Cell) :
    ((textLines cells).any fun line => line.any p) =
      cells.any fun c => c.char != '\n' && p c := by
  induction cells with
  | nil => rfl
  | cons c cells ih =>
    rw [textLines_cons, List.any_cons, ← ih]
    split
    · next h => simp [beq_iff_eq.mp h]
    · next h =>
      cases hlines : textLines cells with
      | nil => exact absurd hlines (List.splitOnP_ne_nil _ cells)
      | cons line lines =>
        simp only [List.modifyHead_cons, List.any_cons, bne, h, Bool.not_false, Bool.true_and,
          Bool.or_assoc]

theorem rows_none_of_not_mem {cs : List Char} (h : '\n' ∉ cs) :
    rows none cs = [expandTabs (cellsOf cs)] := by
  have hlines : textLines (cellsOf cs) = [cellsOf cs] := by
    refine List.splitOnP_eq_singleton fun c hc => ?_
    rw [beq_eq_false_iff_ne]
    exact fun hfeed => h (hfeed ▸ List.mem_of_getElem? (mem_cellsOf.mp hc))
  rw [rows, hlines]
  rfl

theorem expandTabs_cellsOf {cs : List Char} (h : '\t' ∉ cs) :
    expandTabs (cellsOf cs) = cellsOf cs :=
  expandTabsFrom_of_not_mem
    (fun _ hc htab => h (htab ▸ List.mem_of_getElem? (mem_cellsOf.mp hc))) 0

namespace Markup

/-- **A part of a text is left**, if no line is broken, exactly if it covers something else than line
feeds, or if there is nothing to be taken apart. -/
theorem isLeft_rows_none_iff (cs : List Char) (s : Span) :
    s.isLeft cs (rows none cs) = true ↔
      ('\n' ∉ cs ∧ '\t' ∉ cs) ∨ ∃ c ∈ cellsOf cs, c.char ≠ '\n' ∧ s.covers c = true := by
  have hcovers : ((rows none cs).any fun row => row.any s.covers) = true ↔
      ∃ c ∈ cellsOf cs, c.char ≠ '\n' ∧ s.covers c = true := by
    have hline (line : List Cell) : (expandTabs line).any s.covers = line.any s.covers :=
      any_expandTabsFrom (fun place => s.start ≤ place && place < s.stop) 0 line
    simp only [rows, List.any_map, Function.comp_def, hline, any_textLines, List.any_eq_true,
      Bool.and_eq_true, bne_iff_ne]
  by_cases hfeed : '\n' ∈ cs
  · -- there is more than one row
    have hlength : 1 < (rows none cs).length := by
      obtain ⟨i, hi⟩ := List.mem_iff_getElem?.mp hfeed
      have hcell : (⟨'\n', i⟩ : Cell) ∈ cellsOf cs := mem_cellsOf.mpr hi
      have hcount : 0 < (cellsOf cs).countP (·.char == '\n') :=
        List.countP_pos_iff.mpr ⟨_, hcell, rfl⟩
      rw [rows, List.length_map, length_textLines]
      omega
    have hany : s.isLeft cs (rows none cs) = (rows none cs).any fun row => row.any s.covers := by
      unfold Span.isLeft
      split
      · next row hrow =>
        rw [hrow] at hlength
        exact absurd hlength (Nat.lt_irrefl 1)
      · rfl
    rw [hany, hcovers]
    simp [hfeed]
  · rw [rows_none_of_not_mem hfeed] at hcovers ⊢
    by_cases htab : '\t' ∈ cs
    · have hany : s.isLeft cs [expandTabs (cellsOf cs)] = (expandTabs (cellsOf cs)).any s.covers :=
        if_pos (by simpa using htab)
      rw [List.any_cons, List.any_nil, Bool.or_false] at hcovers
      rw [hany, hcovers]
      simp [htab]
    · have hleft : s.isLeft cs [expandTabs (cellsOf cs)] = true := by
        rw [Span.isLeft, if_neg (by simpa using htab), expandTabs_cellsOf htab, charsOf_cellsOf]
        simp
      exact iff_of_true hleft (.inl ⟨hfeed, htab⟩)

theorem Span.covers_iff {s : Span} {c : Cell} :
    s.covers c = true ↔ s.start ≤ c.place ∧ c.place < s.stop := by
  simp [covers]

/-- What stands in front of a text does not matter. -/
theorem isLeft_moved_iff {us : List Char} (hfeed : '\n' ∉ us) (htab : '\t' ∉ us) (cs : List Char)
    (s : Span) :
    (s.moved (· + us.length)).isLeft (us ++ cs) (rows none (us ++ cs)) = true ↔
      s.isLeft cs (rows none cs) = true := by
  have hmoved (c : Cell) : (s.moved (· + us.length)).covers c = true ↔
      s.start + us.length ≤ c.place ∧ c.place < s.stop + us.length := Span.covers_iff
  simp only [isLeft_rows_none_iff, Span.covers_iff, hmoved]
  refine or_congr (by simp [hfeed, htab]) ⟨?_, ?_⟩
  · rintro ⟨c, hc, hchar, hstart, hstop⟩
    rw [mem_cellsOf, List.getElem?_append_right (by omega)] at hc
    exact ⟨⟨c.char, c.place - us.length⟩, mem_cellsOf.mpr hc, hchar, Nat.le_sub_of_add_le hstart,
      (Nat.sub_lt_iff_lt_add (by omega)).mpr hstop⟩
  · rintro ⟨c, hc, hchar, hstart, hstop⟩
    refine ⟨⟨c.char, c.place + us.length⟩, mem_cellsOf.mpr ?_, hchar,
      Nat.add_le_add_right hstart _, Nat.add_lt_add_right hstop _⟩
    rw [List.getElem?_append_right (Nat.le_add_left _ _), Nat.add_sub_cancel]
    exact mem_cellsOf.mp hc

/-! ## Styles that can be read -/

theorem Seen.fault?_eq_none_iff {s : Seen} {rows : List (List Cell)} :
    s.fault? rows = none ↔ ∀ x ∈ s.spans, x.isLeft s.chars rows = true → x.fault? = none := by
  simp only [Seen.fault?, Seen.inOrder, List.findSome?_eq_none_iff, List.mem_filter,
    List.mem_mergeSort, List.mem_reverse, and_imp]

/-- All styles can be read. -/
def Seen.IsReadable (s : Seen) : Prop := ∀ x ∈ s.spans, x.fault? = none

theorem Span.fault?_moved (f : Nat → Nat) (s : Span) : (s.moved f).fault? = s.fault? := rfl

theorem Seen.isReadable_unplaced (s : Seen) : s.unplaced.IsReadable ↔ s.IsReadable := by
  simp only [IsReadable, unplaced, List.forall_mem_map, Span.fault?_moved]

theorem Seen.IsReadable.fault?_eq_none {s : Seen} (h : s.IsReadable) (rows : List (List Cell)) :
    s.fault? rows = none := fault?_eq_none_iff.mpr fun x hx _ => h x hx

end Markup

section

variable {values : Markup.Values} {width : Option Nat} {cs : List Char}

theorem print_of_error {refusal : Markup.Refusal} (h : Markup.show values cs = .error refusal) :
    print values width cs = .error refusal := by
  rw [print, h]

theorem print_of_fault {s : Markup.Seen} {fault : NumberFault}
    (hs : Markup.show values cs = .ok s) (h : s.fault? (rows width s.chars) = some fault) :
    print values width cs = .error (.number fault) := by
  rw [print, hs]
  simp only [h]

/-- **A text can be printed** if it can be shown and all styles that are left of it can be read. -/
theorem exists_print_iff :
    (∃ out, print values width cs = .ok out) ↔
      ∃ s, Markup.show values cs = .ok s ∧ s.fault? (rows width s.chars) = none := by
  rw [print]
  cases Markup.show values cs with
  | error refusal => exact iff_of_false (by nofun) (by nofun)
  | ok s =>
    simp only [Except.ok.injEq, exists_eq_left']
    cases s.fault? (rows width s.chars) with
    | none => exact iff_of_true ⟨_, rfl⟩ rfl
    | some fault => exact iff_of_false (by nofun) (by nofun)

theorem exists_print_of_isReadable {s : Markup.Seen} (hs : Markup.show values cs = .ok s)
    (h : s.IsReadable) (width : Option Nat) : ∃ out, print values width cs = .ok out :=
  exists_print_iff.mpr ⟨s, hs, h.fault?_eq_none _⟩

end

namespace Markup

section

variable (values : Values)

/-! ## Pieces elsewhere -/

/-- **Pieces elsewhere** are shown elsewhere. -/
theorem showPieces_moved (k length : Nat) (opened : List Opened) (ps : List Piece) :
    showPieces values (length + k) (opened.map (Opened.moved (· + k))) ps =
      (showPieces values length opened ps).map fun s =>
        ⟨s.chars, s.spans.map (Span.moved (· + k))⟩ := by
  induction ps generalizing length opened with
  | nil =>
    simp only [showPieces, Except.map, List.map_map]
    rfl
  | cons p ps ih =>
    cases p with
    | text cs =>
      simp only [showPieces]
      rw [Nat.add_right_comm, ih]
      cases showPieces values (length + (seen (unescapeBrackets cs)).length) opened ps <;> rfl
    | tag body place =>
      have hfollow := follow_moved values (· + k) length opened body place
      rw [showPieces, showPieces, hfollow]
      cases follow values length opened body place with
      | error refusal => rfl
      | ok p =>
        simp only [Except.map, ih]
        cases showPieces values length p.1 ps with
        | error refusal => rfl
        | ok s => simp [Seen.behind]

/-- A blank in front of some pieces is seen in front of them. -/
theorem showPieces_blank (length : Nat) (opened : List Opened) (place : Nat)
    (before cs : List Char) :
    showPieces values length opened (piecesFrom place (before ++ [' ']) cs) =
      (showPieces values (length + 1) opened (piecesFrom place before cs)).map
        (·.behind [' '] []) := by
  have htext (before : List Char) (ps : List Piece) :
      showPieces values length opened (textPiece (before ++ [' ']).reverse ++ ps) =
        (showPieces values (length + 1) opened (textPiece before.reverse ++ ps)).map
          (·.behind [' '] []) := by
    rw [List.reverse_append, List.reverse_singleton, List.singleton_append,
      showPieces_textPiece_append, showPieces_textPiece_append, seenText_blank_cons,
      List.length_cons, Nat.add_right_comm, ← Nat.add_assoc]
    cases showPieces values (length + (seenText before.reverse).length + 1) opened ps <;> rfl
  fun_induction piecesFrom place before cs with
  | case1 place before =>
    rw [piecesFrom_nil, ← List.append_nil (textPiece _), htext, List.append_nil]
  | case2 place before c cs t ht ih =>
    rw [piecesFrom_of_some ht, List.append_assoc, List.append_assoc, htext]
  | case3 place before c cs hnone ih =>
    rw [piecesFrom_of_none hnone, ← List.cons_append, ih]

/-- A piece without its place. -/
def Piece.unplaced : Piece → Piece
  | .text cs => .text cs
  | .tag body _ => .tag body 0

theorem map_unplaced_piecesFrom (place place' : Nat) (before cs : List Char) :
    (piecesFrom place before cs).map Piece.unplaced =
      (piecesFrom place' before cs).map Piece.unplaced := by
  fun_induction piecesFrom place before cs generalizing place' with
  | case1 place before => rw [piecesFrom_nil]
  | case2 place before c cs t ht ih =>
    have htag : (tagPieces t place).map Piece.unplaced = (tagPieces t place').map Piece.unplaced := by
      simp only [tagPieces, List.map_append]
      split <;> rfl
    rw [piecesFrom_of_some ht, List.map_append, List.map_append, List.map_append, List.map_append,
      htag, ih]
  | case3 place before c cs hnone ih => rw [piecesFrom_of_none hnone, ih]

theorem toOption_map {ε α β : Type} (f : α → β) (x : Except ε α) :
    (x.map f).toOption = x.toOption.map f := by
  cases x <;> rfl

/-- What is the same but for errors is the same, or an error on both sides. -/
theorem eq_or_of_toOption_eq {ε α : Type} {x y : Except ε α} (h : x.toOption = y.toOption) :
    x = y ∨ ∃ e e', x = .error e ∧ y = .error e' := by
  cases x with
  | error e =>
    cases y with
    | error e' => exact .inr ⟨e, e', rfl, rfl⟩
    | ok b => cases h
  | ok a =>
    cases y with
    | error e' => cases h
    | ok b => exact .inl (congrArg _ (Option.some.inj h))

/-- The place of a tag is only reported. -/
theorem toOption_follow (length : Nat) (opened : List Opened) (body : List Char)
    (place place' : Nat) :
    (follow values length opened body place).toOption =
      (follow values length opened body place').toOption := by
  have htake (name : List Char) : (takeOut opened body name place).toOption =
      (takeOut opened body name place').toOption := by
    unfold takeOut
    split
    · cases opened <;> rfl
    · cases Style.normalize name with
      | error fault => rfl
      | ok style =>
        simp only
        split <;> rfl
  unfold follow
  split
  · next name _ =>
    rcases eq_or_of_toOption_eq (htake (Text.trimChars name)) with heq | ⟨e, e', he, he'⟩
    · rw [heq]
    · rw [he, he']
      rfl
  · rfl

theorem toOption_showPieces (length : Nat) (opened : List Opened) (ps : List Piece) :
    (showPieces values length opened ps).toOption =
      (showPieces values length opened (ps.map Piece.unplaced)).toOption := by
  induction ps generalizing length opened with
  | nil => rfl
  | cons p ps ih =>
    cases p with
    | text cs =>
      simp only [List.map_cons, Piece.unplaced, showPieces, toOption_map, ih]
    | tag body place =>
      have hfollow := toOption_follow values length opened body place 0
      simp only [List.map_cons, Piece.unplaced, showPieces]
      rcases eq_or_of_toOption_eq hfollow with heq | ⟨e, e', he, he'⟩
      · rw [heq]
        cases follow values length opened body 0 with
        | error refusal => rfl
        | ok p => simp only [toOption_map, ih]
      · rw [he, he']
        rfl

/-- **A text behind another one** is shown as it is by itself, but elsewhere. -/
theorem toOption_showPieces_blank (length place : Nat) (cs : List Char) :
    (showPieces values length [] (piecesFrom place [' '] cs)).toOption =
      (Markup.show values cs).toOption.map fun s =>
        ⟨' ' :: s.chars, s.spans.map (Span.moved (· + (length + 1)))⟩ := by
  have hplace : (showPieces values (length + 1) [] (piecesFrom place [] cs)).toOption =
      (showPieces values (length + 1) [] (pieces cs)).toOption := by
    rw [toOption_showPieces, map_unplaced_piecesFrom place 0, ← toOption_showPieces, pieces]
  have hmoved := showPieces_moved values (length + 1) 0 [] (pieces cs)
  rw [Nat.zero_add, List.map_nil] at hmoved
  rw [← List.nil_append [' '], showPieces_blank, toOption_map, hplace, hmoved, toOption_map,
    Option.map_map, show_eq]
  rfl

/-! ## A word in a style -/

/-- A style that is switched on and off by its name, which is in normal form and can be read. -/
structure IsStyle (style : List Char) : Prop where
  isTagBody : IsTagBody style
  starts : ∀ c ∈ style.head?, c ≠ '/' ∧ c ≠ '@'
  bare : '=' ∉ style
  trimmed : Text.trimChars style = style
  normal : Style.normalize style = .ok (String.ofList style)
  readable : ∀ start stop, Span.fault? ⟨start, stop, style⟩ = none

theorem isStyle_green : IsStyle "green".toList where
  isTagBody := ⟨'g', _, rfl, by decide, by decide, by decide⟩
  starts := by simp
  bare := by decide
  trimmed := by decide
  normal := rfl
  readable _ _ := rfl

theorem isStyle_red : IsStyle "red".toList where
  isTagBody := ⟨'r', _, rfl, by decide, by decide, by decide⟩
  starts := by simp
  bare := by decide
  trimmed := by decide
  normal := rfl
  readable _ _ := rfl

namespace IsStyle

variable {style : List Char}

theorem tagName_eq (h : IsStyle style) : tagName style = style :=
  List.takeWhile_eq_self_iff.mpr fun c hc => by
    rw [bne_iff_ne]
    exact fun heq => h.bare (heq ▸ hc)

/-- Its tag switches it on. -/
theorem follow_open (h : IsStyle style) (length : Nat) (opened : List Opened) (place : Nat) :
    follow values length opened style place =
      .ok (⟨length, String.ofList style, none⟩ :: opened, []) := by
  have hparameters : tagParameters? style = none := by
    rw [tagParameters?, if_neg (by simpa using h.bare)]
  unfold follow
  rw [h.tagName_eq]
  split
  · next name hname => exact absurd rfl (h.starts '/' (by simp)).1
  · rw [h.normal, hparameters]

/-- The other tag switches it off. -/
theorem follow_close (h : IsStyle style) (start length : Nat) (opened : List Opened) (place : Nat) :
    follow values length (⟨start, String.ofList style, none⟩ :: opened) ('/' :: style) place =
      .ok (opened, [⟨start, length, style⟩]) := by
  have hname : tagName ('/' :: style) = '/' :: style := by
    rw [tagName, List.takeWhile_cons_of_pos (by decide)]
    exact congrArg _ h.tagName_eq
  have hne : style.isEmpty = false := by
    obtain ⟨c, more, rfl, -⟩ := h.isTagBody
    rfl
  have htake : takeOut (⟨start, String.ofList style, none⟩ :: opened) ('/' :: style) style place =
      .ok (⟨start, String.ofList style, none⟩, opened) := by
    rw [takeOut, hne, h.normal]
    simp
  have haction : Opened.isAction ⟨start, String.ofList style, none⟩ = false := by
    rw [Opened.isAction, String.toList_ofList, beq_eq_false_iff_ne]
    exact fun hhead => (h.starts '@' hhead).2 rfl
  unfold follow
  rw [hname]
  simp only [h.trimmed, htake, Opened.close, haction, Opened.span, Opened.words,
    String.toList_ofList]
  rfl

end IsStyle

/-- A word in a style, a blank, and what follows. -/
def styled (style word cs : List Char) : List Char :=
  '[' :: (style ++ ']' :: (word ++ '[' :: ('/' :: style ++ ']' :: ' ' :: cs)))

/-- A word in a style comes before the pieces of a blank and of what follows. -/
theorem exists_pieces_styled {style word : List Char} (hstyle : IsTagBody style)
    (hword : '[' ∉ word) (hlast : word.getLast? ≠ some '\\') (cs : List Char) :
    ∃ place place', pieces (styled style word cs) =
      .tag style 0 :: (textPiece word ++ .tag ('/' :: style) place ::
        piecesFrom place' [' '] cs) := by
  have hclose : IsTagBody ('/' :: style) := ⟨'/', style, rfl, by decide, hstyle.not_mem⟩
  have hblank (place : Nat) : piecesFrom place [] (' ' :: cs) = piecesFrom (place + 1) [' '] cs :=
    piecesFrom_of_none (tagAt?_cons (by decide) (by decide) cs) place []
  rw [pieces, styled, piecesFrom_bracket hstyle, piecesFrom_append hword hlast,
    piecesFrom_bracket hclose, hblank, List.append_nil, List.reverse_reverse]
  exact ⟨_, _, rfl⟩

/-- **A word in a style** is seen in front of what follows it. -/
theorem exists_show_styled {style word : List Char} (hstyle : IsStyle style) (hword : '[' ∉ word)
    (hlast : word.getLast? ≠ some '\\') (cs : List Char) :
    ∃ place, ∀ values, Markup.show values (styled style word cs) =
      (showPieces values (seenText word).length [] (piecesFrom place [' '] cs)).map
        (·.behind (seenText word) [⟨0, (seenText word).length, style⟩]) := by
  obtain ⟨place, place', hpieces⟩ := exists_pieces_styled hstyle.isTagBody hword hlast cs
  refine ⟨place', fun values => ?_⟩
  rw [show_eq, hpieces, showPieces, hstyle.follow_open]
  simp only [showPieces_textPiece_append, showPieces, hstyle.follow_close, Nat.zero_add]
  cases showPieces values (seenText word).length [] (piecesFrom place' [' '] cs) with
  | error refusal => rfl
  | ok s => simp [Except.map, Seen.behind]

/-- **A word in a style** has this style alone, if no brackets follow it. -/
theorem map_unplaced_show_word {style word : List Char} (hstyle : IsStyle style) (hword : '[' ∉ word)
    (hlast : word.getLast? ≠ some '\\') :
    (Markup.show values ('[' :: (style ++ ']' :: (word ++ '[' :: ('/' :: style ++ [']']))))).map
      Seen.unplaced = .ok ⟨[], [⟨0, 0, style⟩]⟩ := by
  have hblank : ']' ∉ [' '] := by decide
  obtain ⟨place, hshow⟩ := exists_show_styled hstyle hword hlast []
  have hstyled : '[' :: (style ++ ']' :: (word ++ '[' :: ('/' :: style ++ [']']))) ++ [' '] =
      styled style word [] := by simp [styled]
  rw [← map_unplaced_show_append values hblank, hstyled, hshow,
    showPieces_of_texts values (isPlain_of_not_mem List.not_mem_nil place [' '])]
  rfl

end

end Markup

variable (values : Markup.Values)

/-- A text none of whose tags counts can be printed. -/
theorem Markup.IsPlain.exists_print {cs : List Char} (h : IsPlain cs) (width : Option Nat) :
    ∃ out, print values width cs = .ok out := by
  obtain ⟨out, hshow⟩ := h.exists_show values
  exact exists_print_of_isReadable hshow (fun _ hx => nomatch hx) width

/-- **A word in a style can be printed** exactly if what follows it can be printed by itself. -/
theorem exists_print_styled_iff {style word : List Char} (hstyle : Markup.IsStyle style)
    (hword : '[' ∉ word) (hlast : word.getLast? ≠ some '\\')
    (hfeed : '\n' ∉ Markup.seenText word) (htab : '\t' ∉ Markup.seenText word) (cs : List Char) :
    (∃ out, print values none (Markup.styled style word cs) = .ok out) ↔
      ∃ out, print values none cs = .ok out := by
  obtain ⟨place, hshow⟩ := Markup.exists_show_styled hstyle hword hlast cs
  have hrest := Markup.toOption_showPieces_blank values (Markup.seenText word).length
    place cs
  rw [exists_print_iff, exists_print_iff, hshow]
  cases hcs : Markup.show values cs with
  | error refusal =>
    rw [hcs] at hrest
    have herror := Markup.eq_or_of_toOption_eq (y := .error refusal) hrest
    obtain ⟨e, he⟩ : ∃ e, Markup.showPieces values (Markup.seenText word).length []
        (Markup.piecesFrom place [' '] cs) = .error e :=
      herror.elim (fun h => ⟨_, h⟩) fun ⟨e, _, he, _⟩ => ⟨e, he⟩
    rw [he]
    exact iff_of_false (by nofun) (by nofun)
  | ok s =>
    rw [hcs] at hrest
    have hok := Markup.eq_or_of_toOption_eq (y := .ok _) hrest
    have hpieces := hok.resolve_right fun ⟨_, _, _, h⟩ => nomatch h
    have hfeed' : '\n' ∉ Markup.seenText word ++ [' '] := by simp [hfeed]
    have htab' : '\t' ∉ Markup.seenText word ++ [' '] := by simp [htab]
    have hsplit : Markup.seenText word ++ ' ' :: s.chars =
      (Markup.seenText word ++ [' ']) ++ s.chars := by simp
    have hlength : (Markup.seenText word).length + 1 = (Markup.seenText word ++ [' ']).length := by
      simp
    rw [hpieces]
    simp only [Except.map, Except.ok.injEq, exists_eq_left', Markup.Seen.behind,
      Markup.Seen.fault?_eq_none_iff, List.singleton_append, List.forall_mem_cons,
      List.forall_mem_map, hstyle.readable, implies_true, true_and, hsplit, hlength,
      Markup.Span.fault?_moved, Markup.isLeft_moved_iff hfeed' htab']

end Enclosure.Console
