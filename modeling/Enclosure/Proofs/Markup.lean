import Enclosure.Proofs.Seen

/-!
# Texts that can be shown

A text with tags cannot be shown if one of them closes a style that is not open, or is not written as
it should be.  A text without opening brackets has no tags, and escaping a text leaves it with none
that count; both may always be shown.  The tags alone decide which styles a text is shown in, but not
where.

What is here:

* `tagAt?_eq_some_iff`: what a tag looks like.
* `Markup.IsPlain`: a text none of whose tags counts.
* `Markup.isPlain_of_not_mem` and `Markup.isPlain_escape`: texts without brackets, and escaped texts.
* `Markup.follow_moved`: a tag elsewhere does the same elsewhere.
* `Markup.map_unplaced_showPieces`: the styles of a text depend on its tags alone.
* `Markup.map_unplaced_show_append`: a text without closing brackets may follow.
-/

set_option autoImplicit false

namespace Enclosure.Console

/-! ## Tags -/

/-- What stands between the brackets of a tag. -/
def IsTagBody (body : List Char) : Prop :=
  ∃ c more, body = c :: more ∧ isTagStart c = true ∧ '[' ∉ more ∧ ']' ∉ more

theorem IsTagBody.not_mem {body : List Char} (h : IsTagBody body) : '[' ∉ body ∧ ']' ∉ body := by
  obtain ⟨c, more, rfl, hstart, hopen, hclose⟩ := h
  rw [List.mem_cons, List.mem_cons, not_or, not_or]
  exact ⟨⟨fun hc => absurd (hc ▸ hstart) (by decide), hopen⟩,
    ⟨fun hc => absurd (hc ▸ hstart) (by decide), hclose⟩⟩

theorem tagBody?_eq_some_iff (cs body : List Char) :
    tagBody? cs = some body ↔ IsTagBody body ∧ ∃ rest, cs = body ++ ']' :: rest := by
  constructor
  · intro h
    cases cs with
    | nil => simp [tagBody?] at h
    | cons c cs =>
      rw [tagBody?] at h
      extract_lets more at h
      split at h
      · next hstart =>
        split at h
        · next hclosed =>
          obtain rfl := Option.some_inj.mp h
          obtain ⟨rest, hrest⟩ := List.head?_eq_some_iff.mp hclosed
          have hmore (d : Char) (hd : d ∈ more) : d ≠ '[' ∧ d ≠ ']' := by
            simpa using List.mem_takeWhile_imp hd
          refine ⟨⟨c, more, rfl, hstart, fun h => (hmore _ h).1 rfl, fun h => (hmore _ h).2 rfl⟩,
            rest, ?_⟩
          rw [List.cons_append, ← hrest, List.prefix_iff_eq_append.mp (List.takeWhile_prefix _)]
        · simp at h
      · simp at h
  · rintro ⟨⟨c, more, rfl, hstart, hopen, hclose⟩, rest, rfl⟩
    have hmore : (more ++ ']' :: rest).takeWhile (fun d => d != '[' && d != ']') = more := by
      rw [List.takeWhile_append_of_pos, List.takeWhile_cons_of_neg (by decide), List.append_nil]
      intro d hd
      have hopen' : d ≠ '[' := fun h => hopen (h ▸ hd)
      have hclose' : d ≠ ']' := fun h => hclose (h ▸ hd)
      simp [hopen', hclose']
    simp only [List.cons_append, tagBody?, hstart, if_true, hmore, List.drop_left, List.head?_cons]

/-- Only a bracket, perhaps behind backslashes, is the start of a tag. -/
theorem tagAt?_cons {c : Char} (hback : c ≠ '\\') (hbracket : c ≠ '[') (cs : List Char) :
    tagAt? (c :: cs) = none := by
  rw [tagAt?, List.takeWhile_cons_of_neg (by simpa using hback)]
  simp only [List.length_nil, List.drop_zero]
  split
  · next h => exact absurd (List.cons.inj h).1 hbracket
  · rfl

theorem tagAt?_bracket (cs : List Char) :
    tagAt? ('[' :: cs) = (tagBody? cs).map fun body => ⟨0, body⟩ := by
  rw [tagAt?, List.takeWhile_cons_of_neg (by decide)]
  rfl

/-- One more backslash in front of a tag belongs to it. -/
theorem tagAt?_backslash (cs : List Char) :
    tagAt? ('\\' :: cs) = (tagAt? cs).map fun t => ⟨t.escapes + 1, t.body⟩ := by
  rw [tagAt?, tagAt?, List.takeWhile_cons_of_pos (by decide)]
  simp only [List.length_cons, List.drop_succ_cons]
  split <;> simp [Function.comp_def]

/-- **A tag** consists of backslashes, a bracket, its body and another bracket. -/
theorem tagAt?_eq_some_iff (cs : List Char) (t : TagText) :
    tagAt? cs = some t ↔ IsTagBody t.body ∧
      ∃ rest, cs = List.replicate t.escapes '\\' ++ '[' :: (t.body ++ ']' :: rest) := by
  obtain ⟨escapes, body⟩ := t
  induction cs generalizing escapes with
  | nil => simp [tagAt?]
  | cons c cs ih =>
    by_cases hback : c = '\\'
    · subst hback
      rw [tagAt?_backslash]
      cases escapes with
      | zero => simp
      | succ n =>
        rw [Option.map_eq_some_iff]
        constructor
        · rintro ⟨⟨m, body'⟩, ht, heq⟩
          obtain ⟨hm, rfl⟩ := TagText.mk.inj heq
          obtain rfl := Nat.succ.inj hm
          obtain ⟨hbody, rest, rfl⟩ := (ih m).mp ht
          exact ⟨hbody, rest, rfl⟩
        · rintro ⟨hbody, rest, hcs⟩
          refine ⟨⟨n, body⟩, (ih n).mpr ⟨hbody, rest, ?_⟩, rfl⟩
          exact (List.cons.inj hcs).2
    by_cases hbracket : c = '['
    · subst hbracket
      rw [tagAt?_bracket]
      cases escapes with
      | zero =>
        simp only [Option.map_eq_some_iff, TagText.mk.injEq, true_and, exists_eq_right,
          tagBody?_eq_some_iff, List.replicate_zero, List.nil_append, List.cons.injEq]
      | succ n => simp [List.replicate_succ]
    · rw [tagAt?_cons hback hbracket]
      cases escapes with
      | zero => simp [hbracket]
      | succ n => simp [List.replicate_succ, hback]

theorem mem_bracket_of_tagAt? {cs : List Char} {t : TagText} (h : tagAt? cs = some t) :
    '[' ∈ cs := by
  obtain ⟨-, rest, rfl⟩ := (tagAt?_eq_some_iff cs t).mp h
  simp

theorem tagAt?_of_not_mem {cs : List Char} (h : '[' ∉ cs) : tagAt? cs = none := by
  rw [Option.eq_none_iff_forall_ne_some]
  exact fun t ht => h (mem_bracket_of_tagAt? ht)

/-- A text without brackets does not become a part of the tag behind it, unless its last character
is a backslash. -/
theorem tagAt?_append {cs : List Char} (hbare : '[' ∉ cs) (hne : cs ≠ [])
    (hlast : cs.getLast? ≠ some '\\') (ds : List Char) : tagAt? (cs ++ ds) = none := by
  induction cs with
  | nil => exact absurd rfl hne
  | cons c cs ih =>
    rw [List.mem_cons, not_or] at hbare
    by_cases hback : c = '\\'
    · subst hback
      have hne' : cs ≠ [] := by
        rintro rfl
        exact hlast rfl
      rw [List.getLast?_cons_of_ne_nil hne'] at hlast
      rw [List.cons_append, tagAt?_backslash, ih hbare.2 hne' hlast, Option.map_none]
    · exact tagAt?_cons hback (fun h => hbare.1 h.symm) _

/-- **No tag ends in a text without closing brackets**, so such a text behind another one changes
nothing about the tag at the front. -/
theorem tagAt?_append_of_not_mem {ds : List Char} (hclose : ']' ∉ ds) (cs : List Char) :
    tagAt? (cs ++ ds) = tagAt? cs := by
  refine Option.ext fun t => ?_
  rw [tagAt?_eq_some_iff, tagAt?_eq_some_iff]
  refine and_congr_right fun _ => ⟨?_, ?_⟩
  · rintro ⟨rest, hrest⟩
    have hsplit : cs ++ ds = (List.replicate t.escapes '\\' ++ '[' :: t.body) ++ [']'] ++ rest := by
      simp [hrest]
    rcases List.append_eq_append_iff.mp hsplit with ⟨m, htag, hds⟩ | ⟨m, hcs, -⟩
    · rcases List.eq_nil_or_concat m with rfl | ⟨m, c, rfl⟩
      · exact ⟨[], by simpa using htag.symm⟩
      · -- the tag would end behind the text
        rw [List.concat_eq_append, ← List.append_assoc] at htag
        obtain rfl : ']' = c := List.singleton_inj.mp (List.append_inj_right' htag rfl)
        exact absurd (by simp [hds]) hclose
    · exact ⟨m, by simp [hcs]⟩
  · rintro ⟨rest, rfl⟩
    exact ⟨rest ++ ds, by simp⟩

namespace Markup

/-! ## Pieces -/

theorem piecesFrom_nil (place : Nat) (before : List Char) :
    piecesFrom place before [] = textPiece before.reverse := by
  rw [piecesFrom]

theorem piecesFrom_of_none {c : Char} {cs : List Char} (h : tagAt? (c :: cs) = none) (place : Nat)
    (before : List Char) :
    piecesFrom place before (c :: cs) = piecesFrom (place + 1) (c :: before) cs := by
  rw [piecesFrom, h]

theorem piecesFrom_of_some {cs : List Char} {t : TagText} (h : tagAt? cs = some t) (place : Nat)
    (before : List Char) :
    piecesFrom place before cs = textPiece before.reverse ++ tagPieces t place ++
      piecesFrom (place + t.length) [] (cs.drop t.length) := by
  cases cs with
  | nil => simp [tagAt?] at h
  | cons c cs => rw [piecesFrom, h]

theorem drop_tag (escapes : Nat) (body rest : List Char) :
    (List.replicate escapes '\\' ++ '[' :: (body ++ ']' :: rest)).drop
      (TagText.length ⟨escapes, body⟩) = rest := by
  have hlength : (List.replicate escapes '\\' ++ '[' :: (body ++ [']'])).length =
      TagText.length ⟨escapes, body⟩ := by
    simp only [List.length_append, List.length_replicate, List.length_cons, List.length_nil,
      TagText.length]
    omega
  have hsplit : List.replicate escapes '\\' ++ '[' :: (body ++ ']' :: rest) =
      (List.replicate escapes '\\' ++ '[' :: (body ++ [']'])) ++ rest := by simp
  rw [hsplit, List.drop_left' hlength]

/-- A text with a tag at the front, and what follows the tag. -/
theorem exists_of_tagAt? {cs : List Char} {t : TagText} (h : tagAt? cs = some t) :
    IsTagBody t.body ∧ ∃ rest, cs.drop t.length = rest ∧
      cs = List.replicate t.escapes '\\' ++ '[' :: (t.body ++ ']' :: rest) := by
  obtain ⟨hbody, rest, rfl⟩ := (tagAt?_eq_some_iff cs t).mp h
  exact ⟨hbody, rest, drop_tag t.escapes t.body rest, rfl⟩

/-- A tag with its backslashes comes before the pieces of what follows it. -/
theorem piecesFrom_tag {body : List Char} (hbody : IsTagBody body) (escapes place : Nat)
    (before rest : List Char) :
    piecesFrom place before (List.replicate escapes '\\' ++ '[' :: (body ++ ']' :: rest)) =
      textPiece before.reverse ++ tagPieces ⟨escapes, body⟩ place ++
        piecesFrom (place + TagText.length ⟨escapes, body⟩) [] rest := by
  have htag : tagAt? (List.replicate escapes '\\' ++ '[' :: (body ++ ']' :: rest)) =
      some ⟨escapes, body⟩ := (tagAt?_eq_some_iff _ _).mpr ⟨hbody, rest, rfl⟩
  rw [piecesFrom_of_some htag, drop_tag]

/-- A tag without backslashes is a piece. -/
theorem piecesFrom_bracket {body : List Char} (hbody : IsTagBody body) (place : Nat)
    (before rest : List Char) :
    piecesFrom place before ('[' :: (body ++ ']' :: rest)) =
      textPiece before.reverse ++ .tag body place ::
        piecesFrom (place + TagText.length ⟨0, body⟩) [] rest := by
  have hpieces : tagPieces ⟨0, body⟩ place = [.tag body place] := by
    simp [tagPieces, textPiece]
  have htag := piecesFrom_tag hbody 0 place before rest
  rwa [hpieces, List.append_assoc, List.replicate_zero, List.nil_append] at htag

/-- A text without brackets is passed over, unless its last character is a backslash. -/
theorem piecesFrom_append {cs : List Char} (hbare : '[' ∉ cs) (hlast : cs.getLast? ≠ some '\\')
    (place : Nat) (before ds : List Char) :
    piecesFrom place before (cs ++ ds) = piecesFrom (place + cs.length) (cs.reverse ++ before) ds := by
  induction cs generalizing place before with
  | nil => rfl
  | cons c cs ih =>
    have hnone : tagAt? (c :: (cs ++ ds)) = none :=
      tagAt?_append hbare (List.cons_ne_nil c cs) hlast ds
    have hlast' : cs.getLast? ≠ some '\\' := by
      cases cs with
      | nil => simp
      | cons d cs => rwa [List.getLast?_cons_cons] at hlast
    rw [List.mem_cons, not_or] at hbare
    rw [List.cons_append, piecesFrom_of_none hnone, ih hbare.2 hlast', List.length_cons,
      List.reverse_cons, List.append_assoc, Nat.add_assoc, Nat.add_comm 1]
    rfl

/-! ## Plain texts -/

/-- None of the pieces of a text is a tag, wherever it stands. -/
def IsPlain (cs : List Char) : Prop :=
  ∀ place before, ∀ p ∈ piecesFrom place before cs, ∃ t, p = .text t

theorem eq_text_of_mem_textPiece {cs : List Char} {p : Piece} (h : p ∈ textPiece cs) :
    p = .text cs := by
  rw [textPiece] at h
  split at h
  · simp at h
  · simpa using h

theorem piecesFrom_of_forall_suffix {cs : List Char} (h : ∀ ds, ds <:+ cs → tagAt? ds = none)
    (place : Nat) (before : List Char) :
    piecesFrom place before cs = textPiece (before.reverse ++ cs) := by
  induction cs generalizing place before with
  | nil => rw [piecesFrom_nil, List.append_nil]
  | cons c cs ih =>
    rw [piecesFrom_of_none (h _ (List.suffix_refl _)),
      ih fun ds hds => h ds (hds.trans (List.suffix_cons c cs)), List.reverse_cons,
      List.append_assoc]
    rfl

/-- A text is plain if no tag starts in it. -/
theorem isPlain_of_forall_suffix {cs : List Char} (h : ∀ ds, ds <:+ cs → tagAt? ds = none) :
    IsPlain cs := by
  intro place before p hp
  rw [piecesFrom_of_forall_suffix h] at hp
  exact ⟨_, eq_text_of_mem_textPiece hp⟩

/-- **A text without opening brackets is plain.** -/
theorem isPlain_of_not_mem {cs : List Char} (h : '[' ∉ cs) : IsPlain cs :=
  isPlain_of_forall_suffix fun _ hds => tagAt?_of_not_mem fun hmem => h (hds.subset hmem)

/-- **A text without closing brackets is plain.** -/
theorem isPlain_of_close_not_mem {cs : List Char} (h : ']' ∉ cs) : IsPlain cs :=
  isPlain_of_forall_suffix fun _ hds =>
    tagAt?_append_of_not_mem (fun hmem => h (hds.subset hmem)) []

theorem IsPlain.append {cs ds : List Char} (hbare : '[' ∉ cs) (hlast : cs.getLast? ≠ some '\\')
    (h : IsPlain ds) : IsPlain (cs ++ ds) := by
  intro place before p hp
  rw [piecesFrom_append hbare hlast] at hp
  exact h _ _ p hp

/-! ## Escaped texts -/

/-- Backslashes alone. -/
def Backslashes (cs : List Char) : Prop := ∀ c ∈ cs, c = '\\'

theorem Backslashes.not_mem {cs : List Char} (h : Backslashes cs) {c : Char} (hc : c ≠ '\\') :
    c ∉ cs := fun hmem => hc (h c hmem)

theorem escapeTags_of_none {c : Char} {cs : List Char} (h : tagAt? (c :: cs) = none) :
    escapeTags (c :: cs) = c :: escapeTags cs := by
  rw [escapeTags, h]

theorem append_bracket_ne {us vs ws rest : List Char} (hus : Backslashes us) (hws : '[' ∉ ws) :
    us ++ '[' :: vs ≠ ws ++ ']' :: rest := by
  intro h
  rcases List.append_eq_append_iff.mp h with ⟨m, rfl, hm⟩ | ⟨m, rfl, hm⟩
  · cases m with
    | nil => simp at hm
    | cons d m =>
      obtain ⟨rfl, -⟩ := List.cons.inj hm
      exact hws (by simp)
  · cases m with
    | nil => simp at hm
    | cons d m =>
      obtain ⟨rfl, -⟩ := List.cons.inj hm
      exact hus.not_mem (c := ']') (by decide) (by simp)

/-- No tag begins in a text and ends in another one behind it. -/
def Uncrossed (cs ds : List Char) : Prop :=
  ∀ us b w rest, cs = us ++ '[' :: b → ds = w ++ ']' :: rest → ¬IsTagBody (b ++ w)

theorem uncrossed_of_not_mem {ds : List Char} (h : ']' ∉ ds) (cs : List Char) :
    Uncrossed cs ds := by
  rintro us b w rest - rfl
  simp at h

theorem Uncrossed.of_suffix {cs cs' ds : List Char} (h : Uncrossed cs ds) (hcs : cs' <:+ cs) :
    Uncrossed cs' ds := by
  obtain ⟨vs, rfl⟩ := hcs
  intro us b w rest hus hw
  exact h (vs ++ us) b w rest (by rw [hus, List.append_assoc]) hw

/-- Up to the first bracket, an escaped text is the text itself. -/
theorem escapeTags_append_eq {cs ds w rest : List Char} (hw : '[' ∉ w)
    (h : escapeTags cs ++ ds = w ++ ']' :: rest) :
    (∃ rest', cs = w ++ ']' :: rest') ∨ ∃ v, w = cs ++ v ∧ ds = v ++ ']' :: rest := by
  fun_induction escapeTags cs generalizing w with
  | case1 => exact .inr ⟨w, rfl, h⟩
  | case2 c cs t ht ih =>
    simp only [List.append_assoc, List.cons_append] at h
    exact absurd h (append_bracket_ne (fun _ hd => List.eq_of_mem_replicate hd) hw)
  | case3 c cs hnone ih =>
    cases w with
    | nil =>
      obtain ⟨rfl, -⟩ := List.cons.inj h
      exact .inl ⟨cs, rfl⟩
    | cons d w =>
      obtain ⟨rfl, heq⟩ := List.cons.inj h
      rw [List.mem_cons, not_or] at hw
      rcases ih hw.2 heq with ⟨rest', rfl⟩ | ⟨v, rfl, hds⟩
      · exact .inl ⟨rest', rfl⟩
      · exact .inr ⟨v, rfl, hds⟩

/-- Escaping brings about no tag at the front, unless there is one across its end or its last
character is a backslash in front of one. -/
theorem tagAt?_escapeTags_append {cs ds : List Char} (hne : cs ≠ []) (hcross : Uncrossed cs ds)
    (hback : ['\\'] <:+ cs → tagAt? ds = none) (h : tagAt? cs = none) :
    tagAt? (escapeTags cs ++ ds) = none := by
  induction cs with
  | nil => exact absurd rfl hne
  | cons c cs ih =>
    have hsuffix : cs <:+ c :: cs := List.suffix_cons c cs
    rw [escapeTags_of_none h, List.cons_append]
    by_cases hc : c = '\\'
    · subst hc
      rw [tagAt?_backslash, Option.map_eq_none_iff] at h ⊢
      by_cases hnil : cs = []
      · subst hnil
        rw [escapeTags, List.nil_append]
        exact hback (List.suffix_refl _)
      · exact ih hnil (hcross.of_suffix hsuffix) (fun hcs => hback (hcs.trans hsuffix)) h
    by_cases hbracket : c = '['
    · subst hbracket
      rw [tagAt?_bracket, Option.map_eq_none_iff, Option.eq_none_iff_forall_ne_some] at h ⊢
      intro body hbody
      obtain ⟨hbare, rest, hrest⟩ := (tagBody?_eq_some_iff _ _).mp hbody
      rcases escapeTags_append_eq hbare.not_mem.1 hrest with ⟨rest', rfl⟩ | ⟨v, rfl, hds⟩
      · exact h _ ((tagBody?_eq_some_iff _ _).mpr ⟨hbare, rest', rfl⟩)
      · exact hcross [] cs v rest rfl hds hbare
    · exact tagAt?_cons hc hbracket _

/-- The characters of a piece, if it is a text. -/
def Piece.chars : Piece → List Char
  | .text cs => cs
  | .tag _ _ => []

/-- The characters of all texts among some pieces. -/
def texts (ps : List Piece) : List Char := ps.flatMap Piece.chars

theorem texts_append (ps qs : List Piece) : texts (ps ++ qs) = texts ps ++ texts qs :=
  List.flatMap_append

theorem texts_textPiece (cs : List Char) : texts (textPiece cs) = cs := by
  cases cs <;> simp [textPiece, texts, Piece.chars]

theorem texts_tagPieces_of_odd {t : TagText} (h : t.escapes % 2 = 1) (place : Nat) :
    texts (tagPieces t place) = List.replicate (t.escapes / 2) '\\' ++ '[' :: (t.body ++ [']']) := by
  rw [tagPieces, if_pos h, texts_append, texts_textPiece]
  simp [texts, Piece.chars]

theorem exists_text_of_mem_tagPieces {t : TagText} (h : t.escapes % 2 = 1) {place : Nat} {p : Piece}
    (hp : p ∈ tagPieces t place) : ∃ cs, p = .text cs := by
  rw [tagPieces, if_pos h, List.mem_append, List.mem_singleton] at hp
  rcases hp with hp | rfl
  · exact ⟨_, eq_text_of_mem_textPiece hp⟩
  · exact ⟨_, rfl⟩

/-- **The pieces of an escaped text** are texts, and together they are the text itself; what follows is
taken apart as it would be alone. -/
theorem exists_piecesFrom_escapeTags_append {cs ds : List Char} (hcross : Uncrossed cs ds)
    (hback : ['\\'] <:+ cs → tagAt? ds = none) (place : Nat) (before : List Char) :
    ∃ ps place' before', piecesFrom place before (escapeTags cs ++ ds) =
        ps ++ piecesFrom place' before' ds ∧
      (∀ p ∈ ps, ∃ t, p = .text t) ∧ texts ps ++ before'.reverse = before.reverse ++ cs := by
  fun_induction escapeTags cs generalizing place before with
  | case1 => exact ⟨[], place, before, rfl, by simp, by simp [texts]⟩
  | case2 c cs t ht ih =>
    obtain ⟨hbody, rest, hdrop, hcs⟩ := exists_of_tagAt? ht
    have hodd : (2 * t.escapes + 1) % 2 = 1 := by omega
    have hhalf : (2 * t.escapes + 1) / 2 = t.escapes := by omega
    rw [hdrop] at ih ⊢
    have hrest : rest <:+ c :: cs := by
      rw [hcs]
      exact ⟨List.replicate t.escapes '\\' ++ '[' :: (t.body ++ [']']), by simp⟩
    obtain ⟨ps, place', before', hpieces, htext, hchars⟩ :=
      ih (hcross.of_suffix hrest) (fun h => hback (h.trans hrest)) _ []
    have hsplit : List.replicate (2 * t.escapes + 1) '\\' ++ '[' :: t.body ++
        ']' :: escapeTags rest ++ ds = List.replicate (2 * t.escapes + 1) '\\' ++
          '[' :: (t.body ++ ']' :: (escapeTags rest ++ ds)) := by simp
    refine ⟨textPiece before.reverse ++ tagPieces ⟨2 * t.escapes + 1, t.body⟩ place ++ ps, place',
      before', ?_, fun p hp => ?_, ?_⟩
    · rw [hsplit, piecesFrom_tag hbody, hpieces, List.append_assoc _ ps]
    · rw [List.mem_append, List.mem_append] at hp
      rcases hp with (hp | hp) | hp
      · exact ⟨_, eq_text_of_mem_textPiece hp⟩
      · exact exists_text_of_mem_tagPieces hodd hp
      · exact htext p hp
    · rw [List.reverse_nil, List.nil_append] at hchars
      rw [texts_append, texts_append, texts_textPiece, texts_tagPieces_of_odd hodd, hhalf,
        List.append_assoc, hchars, hcs]
      simp
  | case3 c cs hnone ih =>
    have hcs : cs <:+ c :: cs := List.suffix_cons c cs
    have hnone' := tagAt?_escapeTags_append (List.cons_ne_nil c cs) hcross hback hnone
    rw [escapeTags_of_none hnone, List.cons_append] at hnone'
    rw [List.cons_append, piecesFrom_of_none hnone']
    obtain ⟨ps, place', before', hpieces, htext, hchars⟩ :=
      ih (hcross.of_suffix hcs) (fun h => hback (h.trans hcs)) (place + 1) (c :: before)
    refine ⟨ps, place', before', hpieces, htext, ?_⟩
    rw [hchars, List.reverse_cons, List.append_assoc]
    rfl

/-- **Escaping makes a text plain**, and backslashes behind it keep it so. -/
theorem isPlain_escapeTags (cs : List Char) {tail : List Char} (htail : Backslashes tail) :
    IsPlain (escapeTags cs ++ tail) := by
  have hopen : '[' ∉ tail := htail.not_mem (by decide)
  have hclose : ']' ∉ tail := htail.not_mem (by decide)
  intro place before p hp
  obtain ⟨ps, place', before', hpieces, htext, -⟩ :=
    exists_piecesFrom_escapeTags_append (uncrossed_of_not_mem hclose cs)
      (fun _ => tagAt?_of_not_mem hopen) place before
  rw [hpieces, List.mem_append] at hp
  exact hp.elim (htext p) (isPlain_of_not_mem hopen place' before' p)

theorem isPlain_escape (cs : List Char) : IsPlain (escape cs) := by
  have hnone : IsPlain (escapeTags cs ++ []) := isPlain_escapeTags cs (by simp [Backslashes])
  rw [List.append_nil] at hnone
  unfold escape
  extract_lets escaped
  split
  · exact hnone
  · exact isPlain_escapeTags cs (by simp [Backslashes])
  · exact hnone

/-- There is nothing to escape in a text without tags. -/
theorem escapeTags_of_forall_suffix {cs : List Char} (h : ∀ ds, ds <:+ cs → tagAt? ds = none) :
    escapeTags cs = cs := by
  induction cs with
  | nil => rw [escapeTags]
  | cons c cs ih =>
    rw [escapeTags_of_none (h _ (List.suffix_refl _)),
      ih fun ds hds => h ds (hds.trans (List.suffix_cons c cs))]

theorem escapeTags_of_not_mem {cs : List Char} (h : '[' ∉ cs) : escapeTags cs = cs :=
  escapeTags_of_forall_suffix fun _ hds => tagAt?_of_not_mem fun hmem => h (hds.subset hmem)

theorem not_mem_escape {cs : List Char} (h : '[' ∉ cs) : '[' ∉ escape cs := by
  unfold escape
  extract_lets escaped
  have hbare : '[' ∉ escaped := by rwa [show escaped = cs from escapeTags_of_not_mem h]
  split
  · exact hbare
  · simpa using hbare
  · exact hbare

/-! ## Tags -/

/-- Whether a piece is a tag. -/
def Piece.isTag : Piece → Bool
  | .text _ => false
  | .tag _ _ => true

/-- The tags among some pieces. -/
def tags (ps : List Piece) : List Piece := ps.filter Piece.isTag

theorem tags_append (ps qs : List Piece) : tags (ps ++ qs) = tags ps ++ tags qs :=
  List.filter_append ps qs

theorem tags_of_texts {ps : List Piece} (h : ∀ p ∈ ps, ∃ t, p = .text t) : tags ps = [] := by
  refine List.filter_eq_nil_iff.mpr fun p hp => ?_
  obtain ⟨t, rfl⟩ := h p hp
  exact Bool.false_ne_true

theorem tags_textPiece (cs : List Char) : tags (textPiece cs) = [] :=
  tags_of_texts fun _ hp => ⟨_, eq_text_of_mem_textPiece hp⟩

/-- **A text without closing brackets behind a text** brings no tags. -/
theorem tags_piecesFrom_append {ds : List Char} (hclose : ']' ∉ ds) (cs : List Char) (place : Nat)
    (before : List Char) :
    tags (piecesFrom place before (cs ++ ds)) = tags (piecesFrom place before cs) := by
  fun_induction piecesFrom place before cs with
  | case1 place before =>
    rw [List.nil_append, tags_textPiece,
      tags_of_texts (isPlain_of_close_not_mem hclose place before)]
  | case2 place before c cs t ht ih =>
    have ht' : tagAt? (c :: cs ++ ds) = some t := (tagAt?_append_of_not_mem hclose _).trans ht
    have hle : t.length ≤ (c :: cs).length := by
      obtain ⟨-, rest, hrest⟩ := (tagAt?_eq_some_iff _ _).mp ht
      rw [hrest, TagText.length]
      simp only [List.length_append, List.length_replicate, List.length_cons]
      omega
    rw [piecesFrom_of_some ht', tags_append, tags_append _ (piecesFrom _ _ _),
      List.drop_append_of_le_length hle, ih]
  | case3 place before c cs hnone ih =>
    have hnone' : tagAt? (c :: (cs ++ ds)) = none := (tagAt?_append_of_not_mem hclose _).trans hnone
    rw [List.cons_append, piecesFrom_of_none hnone', ih]

/-! ## What is shown -/

section

theorem exists_of_map_eq_ok {ε α β : Type} {f : α → β} {x : Except ε α} {b : β}
    (h : x.map f = .ok b) : ∃ a, x = .ok a ∧ f a = b := by
  cases x with
  | error e => cases h
  | ok a => exact ⟨a, rfl, Except.ok.inj h⟩

theorem eq_error_of_map {ε α β : Type} {f : α → β} {x : Except ε α} {e : ε}
    (h : x.map f = .error e) : x = .error e := by
  cases x with
  | error e' => exact congrArg _ (Except.error.inj h)
  | ok a => cases h

variable (values : Values)

/-- A style that has been switched on elsewhere. -/
def Opened.moved (f : Nat → Nat) (o : Opened) : Opened := { o with start := f o.start }

/-- A part of a text elsewhere. -/
def Span.moved (f : Nat → Nat) (s : Span) : Span := { s with start := f s.start, stop := f s.stop }

theorem Opened.close_moved (f : Nat → Nat) (stop : Nat) (o : Opened) :
    (o.moved f).close values (f stop) =
      (o.close values stop).map fun spans => spans.map (Span.moved f) := by
  have haction : (o.moved f).isAction = o.isAction := rfl
  have hvalue : (o.moved f).checkValue values = o.checkValue values := rfl
  rw [close, close, haction, hvalue]
  split
  · cases o.checkValue values <;> rfl
  · rfl

theorem takeOut_moved (f : Nat → Nat) (opened : List Opened) (body name : List Char)
    (place : Nat) :
    takeOut (opened.map (Opened.moved f)) body name place =
      (takeOut opened body name place).map fun p => (p.1.moved f, p.2.map (Opened.moved f)) := by
  have hname (style : String) :
      ((fun o : Opened => o.name == style) ∘ Opened.moved f) = fun o => o.name == style := rfl
  unfold takeOut
  split
  · cases opened <;> rfl
  · cases Style.normalize name with
    | error fault => rfl
    | ok style =>
      simp only [List.find?_map, List.eraseP_map, hname]
      cases opened.find? fun o => o.name == style <;> rfl

/-- **A tag elsewhere** does the same elsewhere. -/
theorem follow_moved (f : Nat → Nat) (length : Nat) (opened : List Opened) (body : List Char)
    (place : Nat) :
    follow values (f length) (opened.map (Opened.moved f)) body place =
      (follow values length opened body place).map fun p =>
        (p.1.map (Opened.moved f), p.2.map (Span.moved f)) := by
  unfold follow
  split
  · next name _ =>
    rw [takeOut_moved]
    cases takeOut opened body (Text.trimChars name) place with
    | error refusal => rfl
    | ok p =>
      simp only [Except.map, Opened.close_moved]
      cases p.1.close values length <;> rfl
  · cases Style.normalize _ <;> rfl

/-- What is seen in which styles, wherever it is. -/
def Seen.unplaced (s : Seen) : Seen := ⟨[], s.spans.map (Span.moved fun _ => 0)⟩

theorem Seen.unplaced_behind (cs : List Char) (spans : List Span) (s : Seen) :
    (s.behind cs spans).unplaced = s.unplaced.behind [] (spans.map (Span.moved fun _ => 0)) := by
  simp [behind, unplaced]

/-- **The styles of a text** depend on its tags alone. -/
theorem map_unplaced_showPieces (length : Nat) (opened : List Opened) (ps : List Piece) :
    (showPieces values length opened ps).map Seen.unplaced =
      showPieces values 0 (opened.map (Opened.moved fun _ => 0)) (tags ps) := by
  induction ps generalizing length opened with
  | nil =>
    simp only [showPieces, tags, List.filter_nil, Except.map, Seen.unplaced, List.map_map]
    rfl
  | cons p ps ih =>
    cases p with
    | text cs =>
      have htags : tags (.text cs :: ps) = tags ps := rfl
      rw [htags, ← ih (length + (seen (unescapeBrackets cs)).length), showPieces]
      cases showPieces values (length + (seen (unescapeBrackets cs)).length) opened ps <;> rfl
    | tag body place =>
      have htags : tags (.tag body place :: ps) = .tag body place :: tags ps := rfl
      have hfollow := follow_moved values (fun _ => 0) length opened body place
      rw [htags, showPieces, showPieces, hfollow]
      cases follow values length opened body place with
      | error refusal => rfl
      | ok p =>
        simp only [Except.map]
        rw [← ih length p.1]
        cases showPieces values length p.1 ps with
        | error refusal => rfl
        | ok s => simp only [Except.map, Seen.unplaced_behind]

/-- What is seen of the texts among some pieces. -/
def seenTexts (ps : List Piece) : List Char := ps.flatMap fun p => seenText p.chars

/-- **Pieces that are texts** are seen one after the other, in the styles that are open. -/
theorem showPieces_of_texts {ps : List Piece} (h : ∀ p ∈ ps, ∃ t, p = .text t)
    (length : Nat) (opened : List Opened) :
    showPieces values length opened ps =
      .ok ⟨seenTexts ps, opened.map (·.span (length + (seenTexts ps).length))⟩ := by
  induction ps generalizing length with
  | nil => rfl
  | cons p ps ih =>
    obtain ⟨t, rfl⟩ := h p List.mem_cons_self
    have htexts : seenTexts (.text t :: ps) = seenText t ++ seenTexts ps := rfl
    rw [showPieces, ih fun q hq => h q (List.mem_cons_of_mem _ hq), htexts, List.length_append,
      ← Nat.add_assoc]
    rfl

/-- A text comes before what follows it. -/
theorem showPieces_textPiece_append (length : Nat) (opened : List Opened) (cs : List Char)
    (ps : List Piece) :
    showPieces values length opened (textPiece cs ++ ps) =
      (showPieces values (length + (seenText cs).length) opened ps).map
        (·.behind (seenText cs) []) := by
  cases cs with
  | nil =>
    have hnil : seenText [] = [] := by simp [seenText, seen, unescapeBrackets, Emoji.replace_nil]
    rw [hnil]
    simp only [textPiece, List.isEmpty_nil, if_true, List.nil_append, List.length_nil, Nat.add_zero]
    cases showPieces values length opened ps <;> rfl
  | cons c cs => rfl

/-- A text is shown as its pieces are, also if there are no brackets in it. -/
theorem show_eq (cs : List Char) : Markup.show values cs = showPieces values 0 [] (pieces cs) := by
  rw [Markup.show]
  split
  · rfl
  · next h =>
    rw [List.contains_iff_mem] at h
    have hpieces : pieces cs = textPiece cs :=
      piecesFrom_of_forall_suffix (fun _ hds => tagAt?_of_not_mem fun hmem => h (hds.subset hmem)) 0 []
    have hsame : unescapeBrackets cs = cs :=
      unescapeBrackets_eq_self fun hwithin => h (List.IsInfix.subset hwithin (by simp))
    rw [hpieces, ← List.append_nil (textPiece cs), showPieces_textPiece_append, seenText, hsame]
    simp [showPieces, Except.map, Seen.behind]

theorem IsPlain.exists_show {cs : List Char} (h : IsPlain cs) :
    ∃ out, Markup.show values cs = .ok ⟨out, []⟩ := by
  rw [show_eq, pieces, showPieces_of_texts values (h 0 [])]
  exact ⟨_, rfl⟩

/-- **A text without closing brackets behind a text** does not matter for the styles, nor for what is
wrong with the tags. -/
theorem map_unplaced_show_append {ds : List Char} (hclose : ']' ∉ ds) (cs : List Char) :
    (Markup.show values (cs ++ ds)).map Seen.unplaced =
      (Markup.show values cs).map Seen.unplaced := by
  rw [show_eq, show_eq, map_unplaced_showPieces, map_unplaced_showPieces, pieces, pieces,
    tags_piecesFrom_append hclose]

end

end Markup
end Enclosure.Console
