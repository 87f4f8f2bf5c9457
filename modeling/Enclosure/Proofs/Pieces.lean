import Enclosure.Proofs.Markup
import Enclosure.Proofs.Seen

/-!
# Texts with tags that are seen as they are

What is seen of a text with tags is put together from its pieces.  A tag takes its brackets with it,
which nothing brings back; the backslashes in front of an escaped tag are halved; and what stands
between tags is seen as it is, or changed.  So a text is seen as it is only if there is nothing in it
that markup gives a meaning to.

What is here:

* `Markup.count_showPieces`: no bracket comes in, and a tag takes one away.
* `Markup.seenTexts_eq` and `Markup.deviates_seenTexts`: texts are seen as they are, or changed.
* `Markup.ne_of_showPieces_tag`: a tag, escaped or not, is not seen as it is.
* `Markup.IsInert` and `Markup.showPieces_eq_iff`: texts that are seen as they are.
-/

set_option autoImplicit false

namespace Enclosure.Console.Markup

variable {values : Values}

/-! ## Pieces -/

theorem showPieces_text_cons {length : Nat} {opened : List Opened} {cs : List Char}
    {ps : List Piece} {s : Seen} (h : showPieces values length opened (.text cs :: ps) = .ok s) :
    ∃ rest, showPieces values (length + (seenText cs).length) opened ps = .ok rest ∧
      s = rest.behind (seenText cs) [] := by
  rw [showPieces] at h
  obtain ⟨rest, hrest, hs⟩ := exists_of_map_eq_ok h
  exact ⟨rest, hrest, hs.symm⟩

theorem showPieces_tag_cons {length : Nat} {opened : List Opened} {body : List Char} {place : Nat}
    {ps : List Piece} {s : Seen}
    (h : showPieces values length opened (.tag body place :: ps) = .ok s) :
    ∃ opened' spans rest, showPieces values length opened' ps = .ok rest ∧
      s = rest.behind [] spans := by
  rw [showPieces] at h
  cases hfollow : follow values length opened body place with
  | error refusal => simp [hfollow] at h
  | ok p =>
    rw [hfollow] at h
    obtain ⟨rest, hrest, hs⟩ := exists_of_map_eq_ok h
    exact ⟨p.1, p.2, rest, hrest, hs.symm⟩

/-- Whatever is seen stands in a text, or belongs to an emoji. -/
theorem mem_of_showPieces {length : Nat} {opened : List Opened} {ps : List Piece} {s : Seen}
    (h : showPieces values length opened ps = .ok s) {c : Char} (hc : c ∈ s.chars) :
    c ∈ texts ps ∨ Emoji.IsDrawn c := by
  induction ps generalizing length opened s with
  | nil =>
    obtain rfl := Except.ok.inj h
    cases hc
  | cons p ps ih =>
    have hps : c ∈ texts ps → c ∈ texts (p :: ps) :=
      fun h => List.mem_append_right p.chars h
    cases p with
    | text cs =>
      obtain ⟨rest, hrest, rfl⟩ := showPieces_text_cons h
      rcases List.mem_append.mp hc with hc | hc
      · exact (mem_seenText hc).imp_left (List.mem_append_left (texts ps))
      · exact (ih hrest hc).imp_left hps
    | tag body place =>
      obtain ⟨opened', spans, rest, hrest, rfl⟩ := showPieces_tag_cons h
      exact (ih hrest hc).imp_left hps

/-! ## Brackets -/

/-- How many opening brackets a piece is written with. -/
def Piece.brackets : Piece → Nat
  | .text cs => cs.count '['
  | .tag _ _ => 1

/-- How many opening brackets some pieces are written with. -/
def brackets : List Piece → Nat
  | [] => 0
  | p :: ps => p.brackets + brackets ps

theorem brackets_append (ps qs : List Piece) : brackets (ps ++ qs) = brackets ps + brackets qs := by
  induction ps with
  | nil => rw [List.nil_append, brackets, Nat.zero_add]
  | cons p ps ih => rw [List.cons_append, brackets, brackets, ih, Nat.add_assoc]

theorem brackets_textPiece (cs : List Char) : brackets (textPiece cs) = cs.count '[' := by
  cases cs <;> simp [brackets, textPiece, Piece.brackets]

theorem brackets_tagPieces {t : TagText} (h : IsTagBody t.body) (place : Nat) :
    brackets (tagPieces t place) = 1 := by
  have hbody : t.body.count '[' = 0 := List.count_eq_zero.mpr h.not_mem.1
  have hback : (List.replicate (t.escapes / 2) '\\').count '[' = 0 := by simp [List.count_replicate]
  rw [tagPieces, brackets_append, brackets_textPiece, hback, Nat.zero_add]
  split
  · simp [brackets, Piece.brackets, hbody]
  · rfl

/-- **The pieces of a text** are written with all its brackets. -/
theorem brackets_piecesFrom (place : Nat) (before cs : List Char) :
    brackets (piecesFrom place before cs) = before.count '[' + cs.count '[' := by
  fun_induction piecesFrom place before cs with
  | case1 place before => simp [brackets_textPiece]
  | case2 place before c cs t ht ih =>
    obtain ⟨hbody, rest, hdrop, hcs⟩ := exists_of_tagAt? ht
    have hnone : t.body.count '[' = 0 := List.count_eq_zero.mpr hbody.not_mem.1
    rw [brackets_append, brackets_append, brackets_textPiece, brackets_tagPieces hbody, ih, hdrop,
      hcs]
    simp [List.count_append, List.count_replicate, hnone]
    omega
  | case3 place before c cs hnone ih =>
    rw [ih, List.count_cons, List.count_cons]
    omega

/-- **No bracket comes in, and a tag takes one away.** -/
theorem count_showPieces {length : Nat} {opened : List Opened} {ps : List Piece} {s : Seen}
    (h : showPieces values length opened ps = .ok s) :
    s.chars.count '[' + ps.countP Piece.isTag ≤ brackets ps := by
  induction ps generalizing length opened s with
  | nil =>
    obtain rfl := Except.ok.inj h
    exact le_rfl
  | cons p ps ih =>
    have hbrackets : brackets (p :: ps) = p.brackets + brackets ps := rfl
    cases p with
    | text cs =>
      obtain ⟨rest, hrest, rfl⟩ := showPieces_text_cons h
      have hchars : (rest.behind (seenText cs) []).chars = seenText cs ++ rest.chars := rfl
      have hcs := count_seenText_le cs
      have hps := ih hrest
      rw [hbrackets, hchars, List.count_append, List.countP_cons_of_neg (by simp [Piece.isTag])]
      simp only [Piece.brackets]
      omega
    | tag body place =>
      obtain ⟨opened', spans, rest, hrest, rfl⟩ := showPieces_tag_cons h
      have hchars : (rest.behind [] spans).chars = rest.chars := rfl
      have hps := ih hrest
      rw [hbrackets, hchars, List.countP_cons_of_pos (by rfl)]
      simp only [Piece.brackets]
      omega

/-- Pieces that are seen with all their brackets are texts. -/
theorem exists_text_of_count_eq {length : Nat} {opened : List Opened} {ps : List Piece} {s : Seen}
    (h : showPieces values length opened ps = .ok s) (hcount : s.chars.count '[' = brackets ps) :
    ∀ p ∈ ps, ∃ t, p = .text t := by
  have hnone : ps.countP Piece.isTag = 0 := by
    have hle := count_showPieces h
    omega
  intro p hp
  have htag := List.countP_eq_zero.mp hnone p hp
  cases p with
  | text cs => exact ⟨cs, rfl⟩
  | tag body place => exact absurd rfl htag

/-- **What is seen with all its brackets** has no styles of its own. -/
theorem spans_eq_nil_of_count_eq {length : Nat} {ps : List Piece} {s : Seen}
    (h : showPieces values length [] ps = .ok s) (hcount : s.chars.count '[' = brackets ps) :
    s.spans = [] := by
  rw [showPieces_of_texts values (exists_text_of_count_eq h hcount)] at h
  exact (congrArg Seen.spans (Except.ok.inj h)).symm

/-! ## Texts -/

/-- Pieces whose texts are all seen as they are. -/
def AreLiteral (ps : List Piece) : Prop := ∀ cs, .text cs ∈ ps → IsLiteral cs

theorem areLiteral_append (ps qs : List Piece) :
    AreLiteral (ps ++ qs) ↔ AreLiteral ps ∧ AreLiteral qs := by
  simp only [AreLiteral, List.mem_append, or_imp, forall_and]

theorem areLiteral_singleton (cs : List Char) : AreLiteral [.text cs] ↔ IsLiteral cs := by
  simp [AreLiteral]

theorem areLiteral_textPiece (cs : List Char) : AreLiteral (textPiece cs) ↔ IsLiteral cs := by
  rw [textPiece]
  split
  · next h =>
    obtain rfl := List.isEmpty_iff.mp h
    exact iff_of_true (by simp [AreLiteral]) (isLiteral_of_not_mem (by simp) (by simp))
  · exact areLiteral_singleton cs

theorem areLiteral_text_cons (cs : List Char) (ps : List Piece) :
    AreLiteral (.text cs :: ps) ↔ IsLiteral cs ∧ AreLiteral ps := by
  rw [← areLiteral_singleton, ← areLiteral_append, List.singleton_append]

section

variable {ps : List Piece} (htext : ∀ p ∈ ps, ∃ t, p = .text t)
  (hprinted : ∀ c ∈ texts ps, 0x20 ≤ c.toNat)

include htext hprinted

/-- **Texts** are seen together as they are if each of them is. -/
theorem seenTexts_eq (hlit : AreLiteral ps) : seenTexts ps = texts ps := by
  induction ps with
  | nil => rfl
  | cons p ps ih =>
    obtain ⟨cs, rfl⟩ := htext p List.mem_cons_self
    have hseen : seenTexts (.text cs :: ps) = seenText cs ++ seenTexts ps := rfl
    have htexts : texts (.text cs :: ps) = cs ++ texts ps := rfl
    rw [htexts, List.forall_mem_append] at hprinted
    rw [areLiteral_text_cons] at hlit
    rw [hseen, htexts, hlit.1.seenText_eq hprinted.1,
      ih (fun q hq => htext q (List.mem_cons_of_mem _ hq)) hprinted.2 hlit.2]

/-- **Otherwise** they are seen changed. -/
theorem deviates_seenTexts (hlit : ¬AreLiteral ps) : Deviates (seenTexts ps) (texts ps) := by
  induction ps with
  | nil => exact absurd (by simp [AreLiteral]) hlit
  | cons p ps ih =>
    obtain ⟨cs, rfl⟩ := htext p List.mem_cons_self
    have hseen : seenTexts (.text cs :: ps) = seenText cs ++ seenTexts ps := rfl
    have htexts : texts (.text cs :: ps) = cs ++ texts ps := rfl
    rw [htexts, List.forall_mem_append] at hprinted
    rw [areLiteral_text_cons] at hlit
    rw [hseen, htexts]
    by_cases hcs : IsLiteral cs
    · rw [hcs.seenText_eq hprinted.1, Deviates.append_left_iff]
      exact ih (fun q hq => htext q (List.mem_cons_of_mem _ hq)) hprinted.2 fun hps => hlit ⟨hcs, hps⟩
    · exact (deviates_seenText hprinted.1 hcs).append _ _

end

/-- **A tag, escaped or not, is not seen as it is**: its bracket is lost, or half of the backslashes in
front of it are. -/
theorem ne_of_showPieces_tag {length : Nat} {opened : List Opened} {ps qs : List Piece}
    {t : TagText} {place : Nat} {us : List Char} {s : Seen} (rest : List Char) (hps : texts ps = us)
    (hcount : brackets (ps ++ tagPieces t place ++ qs) =
      (us ++ (List.replicate t.escapes '\\' ++ '[' :: rest)).count '[')
    (hprinted : ∀ c ∈ texts (ps ++ tagPieces t place ++ qs), 0x20 ≤ c.toNat)
    (h : showPieces values length opened (ps ++ tagPieces t place ++ qs) = .ok s) :
    s.chars ≠ us ++ (List.replicate t.escapes '\\' ++ '[' :: rest) := by
  intro heq
  have htext := exists_text_of_count_eq h (heq ▸ hcount.symm)
  have hodd : t.escapes % 2 = 1 := by
    by_contra heven
    obtain ⟨cs, hcs⟩ := htext (.tag t.body (place + 2 * (t.escapes / 2)))
      (List.mem_append_left _ (List.mem_append_right _ (by simp [tagPieces, heven])))
    cases hcs
  -- half of the backslashes, and then a bracket where there is another backslash
  have htag : Deviates (texts (ps ++ tagPieces t place ++ qs)) s.chars := by
    obtain ⟨n, hn⟩ : ∃ n, t.escapes = t.escapes / 2 + (n + 1) :=
      ⟨t.escapes - t.escapes / 2 - 1, by omega⟩
    have hsplit : List.replicate t.escapes '\\' =
        List.replicate (t.escapes / 2) '\\' ++ '\\' :: List.replicate n '\\' := by
      conv_lhs => rw [hn, ← List.replicate_append_replicate, List.replicate_succ]
    rw [heq, texts_append, texts_append, hps, texts_tagPieces_of_odd hodd, hsplit]
    simp only [List.append_assoc, List.cons_append, Deviates.append_left_iff]
    exact .bracket _ _
  rw [showPieces_of_texts values htext] at h
  have hchars : seenTexts (ps ++ tagPieces t place ++ qs) = s.chars :=
    congrArg Seen.chars (Except.ok.inj h)
  by_cases hlit : AreLiteral (ps ++ tagPieces t place ++ qs)
  · exact htag.ne ((seenTexts_eq htext hprinted hlit).symm.trans hchars)
  · exact ((hchars ▸ deviates_seenTexts htext hprinted hlit).trans htag).ne rfl

/-! ## A text with tags -/

theorem mem_of_mem_texts_tagPieces {t : TagText} {place : Nat} {c : Char}
    (h : c ∈ texts (tagPieces t place)) :
    c ∈ List.replicate t.escapes '\\' ++ '[' :: (t.body ++ [']']) := by
  have hhalf : (List.replicate (t.escapes / 2) '\\').Sublist (List.replicate t.escapes '\\') :=
    (List.replicate_sublist_replicate '\\').mpr (Nat.div_le_self _ _)
  by_cases hodd : t.escapes % 2 = 1
  · rw [texts_tagPieces_of_odd hodd] at h
    exact (hhalf.append_right _).subset h
  · rw [tagPieces, if_neg hodd, texts_append, texts_textPiece] at h
    exact List.mem_append_left _ (hhalf.subset (by simpa [texts, Piece.chars] using h))

/-- The texts of the pieces hold nothing but what is written. -/
theorem mem_of_mem_texts_piecesFrom {place : Nat} {before cs : List Char} {c : Char}
    (h : c ∈ texts (piecesFrom place before cs)) : c ∈ before ∨ c ∈ cs := by
  fun_induction piecesFrom place before cs with
  | case1 place before =>
    rw [texts_textPiece, List.mem_reverse] at h
    exact .inl h
  | case2 place before d cs t ht ih =>
    obtain ⟨-, rest, hdrop, hcs⟩ := exists_of_tagAt? ht
    have hsplit : d :: cs = (List.replicate t.escapes '\\' ++ '[' :: (t.body ++ [']'])) ++ rest := by
      rw [hcs]
      simp
    rw [hdrop] at ih h
    rw [texts_append, texts_append, texts_textPiece, List.mem_append, List.mem_append,
      List.mem_reverse] at h
    rw [hsplit, List.mem_append]
    rcases h with (h | h) | h
    · exact .inl h
    · exact .inr (.inl (mem_of_mem_texts_tagPieces h))
    · exact .inr (.inr ((ih h).resolve_left List.not_mem_nil))
  | case3 place before d cs hnone ih =>
    rcases ih h with h | h
    · rcases List.mem_cons.mp h with rfl | h
      · exact .inr List.mem_cons_self
      · exact .inl h
    · exact .inr (List.mem_cons_of_mem d h)

/-- There are no control characters in the texts if there are none in what is written. -/
theorem printed_texts {cs : List Char} (h : ∀ c ∈ cs, 0x20 ≤ c.toNat) (place : Nat) :
    ∀ c ∈ texts (piecesFrom place [' '] cs), 0x20 ≤ c.toNat := by
  intro c hc
  rcases mem_of_mem_texts_piecesFrom hc with hblank | hc
  · rw [List.mem_singleton.mp hblank]
    decide
  · exact h c hc

/-- **There are none in what is seen** either. -/
theorem printed_of_showPieces {cs : List Char} (h : ∀ c ∈ cs, 0x20 ≤ c.toNat)
    {length : Nat} {opened : List Opened} {place : Nat} {s : Seen}
    (hs : showPieces values length opened (piecesFrom place [' '] cs) = .ok s) :
    ∀ c ∈ s.chars, 0x20 ≤ c.toNat :=
  fun c hc => (mem_of_showPieces hs hc).elim (printed_texts h place c) Emoji.IsDrawn.le_toNat

/-- The first tag of a text. -/
theorem exists_piecesFrom_tag {cs : List Char} (h : ¬∀ ds, ds <:+ cs → tagAt? ds = none)
    (place : Nat) (before : List Char) :
    ∃ us t place' rest qs,
      cs = us ++ (List.replicate t.escapes '\\' ++ '[' :: (t.body ++ ']' :: rest)) ∧
      piecesFrom place before cs = textPiece (before.reverse ++ us) ++ tagPieces t place' ++ qs := by
  induction cs generalizing place before with
  | nil =>
    refine absurd (fun ds hds => ?_) h
    rw [List.suffix_nil.mp hds]
    rfl
  | cons c cs ih =>
    cases htag : tagAt? (c :: cs) with
    | some t =>
      obtain ⟨-, rest, -, hcs⟩ := exists_of_tagAt? htag
      exact ⟨[], t, place, rest, piecesFrom (place + t.length) [] ((c :: cs).drop t.length), hcs,
        by rw [piecesFrom_of_some htag, List.append_nil before.reverse]⟩
    | none =>
      have hcs : ¬∀ ds, ds <:+ cs → tagAt? ds = none := by
        refine fun hcs => h fun ds hds => ?_
        rcases List.suffix_cons_iff.mp hds with rfl | hds
        · exact htag
        · exact hcs ds hds
      obtain ⟨us, t, place', rest, qs, hsplit, hpieces⟩ := ih hcs (place + 1) (c :: before)
      refine ⟨c :: us, t, place', rest, qs, by rw [hsplit, List.cons_append], ?_⟩
      rw [piecesFrom_of_none htag, hpieces, List.reverse_cons, List.append_assoc before.reverse]
      rfl

/-- A text in which there is nothing that markup gives a meaning to: no tag, escaped or not, no
backslash in front of a bracket, and no name of an emoji. -/
structure IsInert (cs : List Char) : Prop where
  no_tag : ∀ ds, ds <:+ cs → tagAt? ds = none
  literal : IsLiteral cs

/-- **A text with tags is seen as it is** exactly if it is inert; a blank stands in front of it. -/
theorem showPieces_eq_iff {cs : List Char} (hprinted : ∀ c ∈ cs, 0x20 ≤ c.toNat)
    (length : Nat) (opened : List Opened) (place : Nat) :
    (showPieces values length opened (piecesFrom place [' '] cs)).map Seen.chars =
      .ok (' ' :: cs) ↔ IsInert cs := by
  have hprinted' := printed_texts hprinted place
  by_cases hnone : ∀ ds, ds <:+ cs → tagAt? ds = none
  · have hpieces : piecesFrom place [' '] cs = textPiece (' ' :: cs) :=
      piecesFrom_of_forall_suffix hnone place [' ']
    have htext : ∀ p ∈ textPiece (' ' :: cs), ∃ t, p = .text t :=
      fun p hp => ⟨_, eq_text_of_mem_textPiece hp⟩
    have hinert : AreLiteral (textPiece (' ' :: cs)) ↔ IsInert cs := by
      rw [areLiteral_textPiece, isLiteral_blank_cons]
      exact ⟨fun h => ⟨hnone, h⟩, IsInert.literal⟩
    have hsame := seenTexts_eq htext (hpieces ▸ hprinted')
    have hother := deviates_seenTexts htext (hpieces ▸ hprinted')
    rw [texts_textPiece] at hsame hother
    rw [hpieces, showPieces_of_texts values htext, ← hinert]
    simp only [Except.map, Except.ok.injEq]
    refine ⟨fun heq => ?_, hsame⟩
    by_contra hlit
    exact (hother hlit).ne heq
  · refine iff_of_false (fun h => ?_) fun h => hnone h.no_tag
    have hcount := brackets_piecesFrom place [' '] cs
    obtain ⟨us, t, place', rest, qs, hcs, hpieces⟩ := exists_piecesFrom_tag hnone place [' ']
    obtain ⟨s, hs, hchars⟩ := exists_of_map_eq_ok h
    rw [hpieces] at hprinted' hcount hs
    refine ne_of_showPieces_tag (t.body ++ ']' :: rest) (texts_textPiece _) ?_ hprinted' hs ?_
    · rw [hcount, hcs]
      simp
    · rw [hchars, hcs]
      rfl

end Enclosure.Console.Markup
