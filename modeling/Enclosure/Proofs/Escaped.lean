import Enclosure.Proofs.Pieces
import Mathlib.Data.List.Induction

/-!
# Escaped texts that are seen as they were

Two texts are escaped, each by itself, and written with a colon and a blank between them.  They are
seen as they were before, unless a tag begins in the first one and ends in the second one, or one of
them ends with a single backslash, or there is something between their tags that escaping does not
reach.

What is here:

* `Markup.EndsLone` and `Markup.exists_escape_eq`: a single backslash at the end is doubled.
* `Markup.piecesFrom_of_uncrossed`: the pieces, if no tag begins in one text and ends in the other.
* `Markup.exists_piecesFrom_of_crossed`: the tag that does.
* `Markup.Survives` and `Markup.showPieces_escape_eq_iff`: the texts that are seen as they were.
-/

set_option autoImplicit false

namespace Enclosure.Console.Markup

variable {values : Values}

/-! ## Escaping -/

theorem count_escapeTags (cs : List Char) : (escapeTags cs).count '[' = cs.count '[' := by
  fun_induction escapeTags cs with
  | case1 => rfl
  | case2 c cs t ht ih =>
    obtain ⟨-, rest, hdrop, hcs⟩ := exists_of_tagAt? ht
    rw [hdrop] at ih ⊢
    rw [hcs]
    simp [List.count_append, List.count_replicate, ih]
  | case3 c cs hnone ih => rw [List.count_cons, List.count_cons, ih]

/-- Only backslashes come in. -/
theorem mem_of_mem_escapeTags {cs : List Char} {c : Char} (h : c ∈ escapeTags cs) :
    c ∈ cs ∨ c = '\\' := by
  fun_induction escapeTags cs with
  | case1 => exact .inl h
  | case2 d cs t ht ih =>
    obtain ⟨-, rest, hdrop, hcs⟩ := exists_of_tagAt? ht
    rw [hdrop] at ih h
    rw [hcs]
    simp only [List.mem_append, List.mem_cons] at h ⊢
    rcases h with (h | h | h) | h | h
    · exact .inr (List.eq_of_mem_replicate h)
    · exact .inl (.inr (.inl h))
    · exact .inl (.inr (.inr (.inl h)))
    · exact .inl (.inr (.inr (.inr (.inl h))))
    · exact (ih h).imp_left fun h => .inr (.inr (.inr (.inr h)))
  | case3 d cs hnone ih =>
    rcases List.mem_cons.mp h with rfl | h
    · exact .inl List.mem_cons_self
    · exact (ih h).imp_left (List.mem_cons_of_mem d)

theorem escapeTags_tag {body : List Char} (hbody : IsTagBody body) (escapes : Nat)
    (rest : List Char) :
    escapeTags (List.replicate escapes '\\' ++ '[' :: (body ++ ']' :: rest)) =
      List.replicate (2 * escapes + 1) '\\' ++ '[' :: (body ++ ']' :: escapeTags rest) := by
  have htag : tagAt? (List.replicate escapes '\\' ++ '[' :: (body ++ ']' :: rest)) =
      some ⟨escapes, body⟩ := (tagAt?_eq_some_iff _ _).mpr ⟨hbody, rest, rfl⟩
  have hdrop := drop_tag escapes body rest
  generalize List.replicate escapes '\\' ++ '[' :: (body ++ ']' :: rest) = cs at htag hdrop ⊢
  cases cs with
  | nil => simp [tagAt?] at htag
  | cons c cs => simp [escapeTags, htag, hdrop]

/-- **A text in which no tag ends** is not escaped, wherever it stands. -/
theorem escapeTags_append_of_close_not_mem {ds : List Char} (h : ']' ∉ ds) (us : List Char) :
    escapeTags (us ++ ds) = escapeTags us ++ ds := by
  fun_induction escapeTags us with
  | case1 =>
    exact escapeTags_of_forall_suffix fun es hes =>
      tagAt?_append_of_not_mem (fun hmem => h (hes.subset hmem)) []
  | case2 c us t ht ih =>
    obtain ⟨hbody, rest, hdrop, hus⟩ := exists_of_tagAt? ht
    rw [hdrop] at ih ⊢
    have hsplit : List.replicate t.escapes '\\' ++ '[' :: (t.body ++ ']' :: rest) ++ ds =
        List.replicate t.escapes '\\' ++ '[' :: (t.body ++ ']' :: (rest ++ ds)) := by simp
    rw [hus, hsplit, escapeTags_tag hbody, ih]
    simp
  | case3 c us hnone ih =>
    have hnone' : tagAt? (c :: (us ++ ds)) = none := (tagAt?_append_of_not_mem h _).trans hnone
    rw [List.cons_append, escapeTags_of_none hnone', ih, List.cons_append]

/-- The text between a bracket and the end of its tag needs no escaping. -/
theorem escapeTags_close {w : List Char} (h : '[' ∉ w) (rest : List Char) :
    escapeTags (w ++ ']' :: rest) = w ++ ']' :: escapeTags rest := by
  have hclose (rest : List Char) : tagAt? (']' :: rest) = none :=
    tagAt?_cons (by decide) (by decide) rest
  induction w with
  | nil => exact escapeTags_of_none (hclose rest)
  | cons c w ih =>
    have hnone : tagAt? (c :: (w ++ ']' :: rest)) = none := by
      have hsplit : c :: (w ++ ']' :: rest) = (c :: w ++ [']']) ++ rest := by simp
      rw [hsplit]
      exact tagAt?_append (by simpa using h) (by simp) (by rw [List.getLast?_concat]; decide) rest
    rw [List.mem_cons, not_or] at h
    rw [List.cons_append, escapeTags_of_none hnone, ih h.2]
    rfl

/-! ## The last backslash -/

/-- The last character is a backslash, and the one before it is not. -/
def EndsLone (cs : List Char) : Prop := ['\\'] <:+ cs ∧ ¬['\\', '\\'] <:+ cs

theorem suffix_of_suffix_append {ws us es : List Char} (hws : Backslashes ws)
    (h : ws <:+ us ++ ']' :: es) : ws <:+ es := by
  have hclose : ']' ∉ ws := hws.not_mem (by decide)
  rcases List.suffix_or_suffix_of_suffix h (List.suffix_append us (']' :: es)) with hsuffix | hsuffix
  · rcases List.suffix_cons_iff.mp hsuffix with rfl | hsuffix
    · exact absurd List.mem_cons_self hclose
    · exact hsuffix
  · exact absurd (hsuffix.subset List.mem_cons_self) hclose

/-- Escaping keeps the backslashes at the end. -/
theorem suffix_escapeTags_iff {ws : List Char} (hws : Backslashes ws) (cs : List Char) :
    ws <:+ escapeTags cs ↔ ws <:+ cs := by
  fun_induction escapeTags cs with
  | case1 => rfl
  | case2 c cs t ht ih =>
    obtain ⟨-, rest, hdrop, hcs⟩ := exists_of_tagAt? ht
    have hrest : List.replicate t.escapes '\\' ++ '[' :: (t.body ++ ']' :: rest) =
        (List.replicate t.escapes '\\' ++ '[' :: t.body) ++ ']' :: rest := by simp
    rw [hdrop] at ih ⊢
    rw [hcs, hrest]
    constructor
    · intro h
      exact (ih.mp (suffix_of_suffix_append hws h)).trans
        ((List.suffix_cons _ _).trans (List.suffix_append _ _))
    · intro h
      exact (ih.mpr (suffix_of_suffix_append hws h)).trans
        ((List.suffix_cons _ _).trans (List.suffix_append _ _))
  | case3 c cs hnone ih =>
    rw [List.suffix_cons_iff, List.suffix_cons_iff, ih]
    refine or_congr_left ?_
    constructor
    · rintro rfl
      have hopen : '[' ∉ cs := by
        rw [← List.count_eq_zero, ← count_escapeTags, List.count_eq_zero]
        exact fun hmem => hws.not_mem (by decide) (List.mem_cons_of_mem c hmem)
      rw [escapeTags_of_not_mem hopen]
    · rintro rfl
      have hopen : '[' ∉ cs := fun hmem => hws.not_mem (by decide) (List.mem_cons_of_mem c hmem)
      rw [escapeTags_of_not_mem hopen]

/-- **Escaping a text** escapes its tags and doubles a single backslash at the end. -/
theorem exists_escape_eq (cs : List Char) :
    ∃ tail, escape cs = escapeTags cs ++ tail ∧
      (EndsLone cs ∧ tail = ['\\'] ∨ ¬EndsLone cs ∧ tail = []) := by
  have hone : ['\\'] <:+ escapeTags cs ↔ ['\\'] <:+ cs :=
    suffix_escapeTags_iff (by simp [Backslashes]) cs
  have htwo : ['\\', '\\'] <:+ escapeTags cs ↔ ['\\', '\\'] <:+ cs :=
    suffix_escapeTags_iff (by simp [Backslashes]) cs
  rw [EndsLone, ← hone, ← htwo, ← List.reverse_prefix, ← List.reverse_prefix]
  unfold escape
  extract_lets escaped
  split
  · next rest h =>
    refine ⟨[], (List.append_nil _).symm, .inr ⟨fun hlone => hlone.2 ?_, rfl⟩⟩
    rw [h]
    exact ⟨rest, rfl⟩
  · next rest hrest h =>
    refine ⟨['\\'], rfl, .inl ⟨⟨?_, ?_⟩, rfl⟩⟩
    · rw [h]
      exact ⟨rest, rfl⟩
    · rw [h]
      rintro ⟨more, hmore⟩
      exact hrest more (List.cons.inj hmore).2.symm
  · next hone htwo =>
    refine ⟨[], (List.append_nil _).symm, .inr ⟨fun hlone => ?_, rfl⟩⟩
    obtain ⟨rest, hrest⟩ := hlone.1
    exact htwo rest hrest.symm

theorem mem_of_mem_escape {cs : List Char} {c : Char} (h : c ∈ escape cs) : c ∈ cs ∨ c = '\\' := by
  obtain ⟨tail, htail, hcases⟩ := exists_escape_eq cs
  rw [htail, List.mem_append] at h
  rcases h with h | h
  · exact mem_of_mem_escapeTags h
  · rcases hcases with ⟨-, rfl⟩ | ⟨-, rfl⟩
    · exact .inr (List.mem_singleton.mp h)
    · exact absurd h List.not_mem_nil

theorem count_escape (cs : List Char) : (escape cs).count '[' = cs.count '[' := by
  obtain ⟨tail, htail, hcases⟩ := exists_escape_eq cs
  rw [htail, List.count_append, count_escapeTags]
  rcases hcases with ⟨-, rfl⟩ | ⟨-, rfl⟩ <;> rfl

/-! ## Two texts, one behind the other -/

/-- What stands between the two texts. -/
def between : List Char := ": ".toList

section

variable {cs ds tail : List Char}

/-- The pieces of an escaped text and of backslashes behind it are texts. -/
theorem piecesFrom_escapeTags_append (htail : Backslashes tail) (ds : List Char) (place : Nat)
    (before : List Char) :
    (∀ p ∈ piecesFrom place before (escapeTags ds ++ tail), ∃ t, p = .text t) ∧
      texts (piecesFrom place before (escapeTags ds ++ tail)) = before.reverse ++ (ds ++ tail) := by
  have hopen : '[' ∉ tail := htail.not_mem (by decide)
  obtain ⟨ps, place', before', hpieces, htext, hchars⟩ :=
    exists_piecesFrom_escapeTags_append (uncrossed_of_not_mem (htail.not_mem (by decide)) ds)
      (fun _ => tagAt?_of_not_mem hopen) place before
  have hlast : piecesFrom place' before' tail = textPiece (before'.reverse ++ tail) :=
    piecesFrom_of_forall_suffix (fun es hes => tagAt?_of_not_mem fun hmem => hopen (hes.subset hmem))
      place' before'
  refine ⟨isPlain_escapeTags ds htail place before, ?_⟩
  rw [hpieces, texts_append, hlast, texts_textPiece, ← List.append_assoc, hchars, List.append_assoc]

theorem isTagBody_cons_iff (c : Char) (more : List Char) :
    IsTagBody (c :: more) ↔ isTagStart c = true ∧ '[' ∉ more ∧ ']' ∉ more := by
  constructor
  · rintro ⟨d, more', h, hbody⟩
    obtain ⟨rfl, rfl⟩ := List.cons.inj h
    exact hbody
  · exact fun h => ⟨c, more, rfl, h⟩

/-- A tag may go across a backslash in front of what stands between the texts. -/
theorem isTagBody_tail_iff (htail : Backslashes tail) (b w : List Char) :
    IsTagBody (b ++ (tail ++ (between ++ w))) ↔ IsTagBody (b ++ (between ++ w)) := by
  cases b with
  | nil =>
    have hcolon : ¬IsTagBody (between ++ w) := fun h =>
      absurd ((isTagBody_cons_iff ':' _).mp h).1 (by decide)
    refine iff_of_false ?_ hcolon
    cases tail with
    | nil => exact hcolon
    | cons c tail =>
      obtain rfl := htail c List.mem_cons_self
      exact fun h => absurd ((isTagBody_cons_iff '\\' _).mp h).1 (by decide)
  | cons c b =>
    have hopen : '[' ∉ tail := htail.not_mem (by decide)
    have hclose : ']' ∉ tail := htail.not_mem (by decide)
    rw [List.cons_append, List.cons_append, isTagBody_cons_iff, isTagBody_cons_iff]
    simp only [List.mem_append, hopen, hclose, false_or]

/-- The first closing bracket stands behind a text without any. -/
theorem exists_of_append_eq {us vs w rest : List Char} (h : ']' ∉ us)
    (heq : us ++ vs = w ++ ']' :: rest) : ∃ v, w = us ++ v ∧ vs = v ++ ']' :: rest := by
  rcases List.append_eq_append_iff.mp heq with ⟨v, hw, hvs⟩ | ⟨v, hus, hvs⟩
  · exact ⟨v, hw, hvs⟩
  · cases v with
    | nil => exact ⟨[], by rw [hus, List.append_nil, List.append_nil], hvs.symm⟩
    | cons c v =>
      obtain ⟨rfl, -⟩ := List.cons.inj hvs
      exact absurd (by simp [hus]) h

/-- No tag begins in an escaped text and ends in the other one either. -/
theorem Uncrossed.between_append {tail' : List Char} (hcross : Uncrossed (cs ++ between) ds)
    (htail : Backslashes tail) (htail' : Backslashes tail') :
    Uncrossed cs (tail ++ (between ++ (escapeTags ds ++ tail'))) := by
  intro us b w rest hcs hw hbody
  have hclose : ']' ∉ tail ++ between := by
    rw [List.mem_append, not_or]
    exact ⟨htail.not_mem (by decide), by decide⟩
  rw [← List.append_assoc] at hw
  obtain ⟨v, rfl, hv⟩ := exists_of_append_eq hclose hw
  have hopen : '[' ∉ v := fun hmem => hbody.not_mem.1
    (List.mem_append_right b (List.mem_append_right (tail ++ between) hmem))
  rw [List.append_assoc, isTagBody_tail_iff htail, ← List.append_assoc] at hbody
  rcases escapeTags_append_eq hopen hv with ⟨rest', hds⟩ | ⟨u, -, hu⟩
  · exact hcross us (b ++ between) v rest' (by rw [hcs, List.append_assoc, List.cons_append]) hds hbody
  · exact htail'.not_mem (c := ']') (by decide) (by simp [hu])

/-- **The pieces of the two texts**, if no tag begins in the first one and ends in the second one. -/
theorem piecesFrom_of_uncrossed {tail' : List Char} (hcross : Uncrossed (cs ++ between) ds)
    (htail : Backslashes tail) (htail' : Backslashes tail') (place : Nat) (before : List Char) :
    (∀ p ∈ piecesFrom place before (escapeTags cs ++ tail ++ between ++ (escapeTags ds ++ tail')),
        ∃ t, p = .text t) ∧
      texts (piecesFrom place before
        (escapeTags cs ++ tail ++ between ++ (escapeTags ds ++ tail'))) =
          before.reverse ++ (cs ++ (tail ++ (between ++ (ds ++ tail')))) := by
  have hopen : '[' ∉ tail ++ between := by
    rw [List.mem_append, not_or]
    exact ⟨htail.not_mem (by decide), by decide⟩
  have hlast : (tail ++ between).getLast? ≠ some '\\' := by
    rw [List.getLast?_append, show between.getLast? = some ' ' from rfl, Option.some_or]
    decide
  have hnone : tagAt? (tail ++ between ++ (escapeTags ds ++ tail')) = none :=
    tagAt?_append hopen (List.append_ne_nil_of_right_ne_nil _ (by decide)) hlast _
  have hcross' := hcross.between_append htail htail'
  rw [← List.append_assoc] at hcross'
  obtain ⟨ps, place', before', hpieces, htext, hchars⟩ :=
    exists_piecesFrom_escapeTags_append hcross' (fun _ => hnone) place before
  obtain ⟨htext', hchars'⟩ := piecesFrom_escapeTags_append htail' ds
    (place' + (tail ++ between).length) ((tail ++ between).reverse ++ before')
  have hsplit : escapeTags cs ++ tail ++ between ++ (escapeTags ds ++ tail') =
      escapeTags cs ++ (tail ++ between ++ (escapeTags ds ++ tail')) := by simp
  rw [hsplit, hpieces, piecesFrom_append hopen hlast]
  constructor
  · intro p hp
    exact (List.mem_append.mp hp).elim (htext p) (htext' p)
  · rw [texts_append, hchars', List.reverse_append, List.reverse_reverse, List.append_assoc,
      ← List.append_assoc (texts ps), hchars]
    simp

theorem exists_replicate_append (us : List Char) :
    ∃ us' n, us = us' ++ List.replicate n '\\' ∧ ¬['\\'] <:+ us' := by
  induction us using List.reverseRecOn with
  | nil => exact ⟨[], 0, rfl, by simp⟩
  | append_singleton us c ih =>
    by_cases hc : c = '\\'
    · obtain ⟨us', n, rfl, hlast⟩ := ih
      exact ⟨us', n + 1, by rw [hc, List.append_assoc, ← List.replicate_succ'], hlast⟩
    · refine ⟨us ++ [c], 0, by simp, fun ⟨vs, hvs⟩ => hc ?_⟩
      exact (List.singleton_inj.mp (List.append_inj_right' hvs rfl)).symm

/-- A bracket in front of what stands between the texts is one of the first text. -/
theorem exists_of_append_between_eq {us b : List Char} (h : cs ++ between = us ++ '[' :: b) :
    ∃ b', b = b' ++ between ∧ cs = us ++ '[' :: b' := by
  rcases List.append_eq_append_iff.mp h with ⟨m, -, hm⟩ | ⟨m, hm, hb⟩
  · exact absurd (hm ▸ List.mem_append_right m List.mem_cons_self : '[' ∈ between) (by decide)
  · cases m with
    | nil => exact absurd (hb.symm ▸ List.mem_cons_self : '[' ∈ [] ++ between) (by decide)
    | cons c m =>
      obtain ⟨rfl, rfl⟩ := List.cons.inj hb
      exact ⟨m, rfl, hm⟩

/-- **A tag that begins in the first text and ends in the second one**, with the backslashes in front
of it. -/
theorem exists_piecesFrom_of_crossed (hcross : ¬Uncrossed (cs ++ between) ds)
    (htail : Backslashes tail) (tail' : List Char) (place : Nat) (before : List Char) :
    ∃ ps t place' us rest qs,
      piecesFrom place before (escapeTags cs ++ tail ++ between ++ (escapeTags ds ++ tail')) =
        ps ++ tagPieces t place' ++ qs ∧
      texts ps = before.reverse ++ us ∧
      cs = us ++ (List.replicate t.escapes '\\' ++ '[' :: rest) := by
  simp only [Uncrossed, not_forall, not_not] at hcross
  obtain ⟨us, b, w, rest, hfirst, hds, hbody⟩ := hcross
  obtain ⟨b, rfl, hcs⟩ := exists_of_append_between_eq hfirst
  have hopen : '[' ∉ w := fun hmem => hbody.not_mem.1 (List.mem_append_right _ hmem)
  have hclose : ']' ∉ b := fun hmem =>
    hbody.not_mem.2 (List.mem_append_left w (List.mem_append_left between hmem))
  rw [List.append_assoc, ← isTagBody_tail_iff htail] at hbody
  obtain ⟨us, n, rfl, hlast⟩ := exists_replicate_append us
  rw [List.append_assoc] at hcs
  -- neither the front of the tag nor its end is escaped
  have hcs' : escapeTags cs = escapeTags us ++ (List.replicate n '\\' ++ '[' :: b) := by
    rw [hcs]
    refine escapeTags_append_of_close_not_mem (fun hmem => ?_) us
    rcases List.mem_append.mp hmem with hmem | hmem
    · exact absurd (List.eq_of_mem_replicate hmem) (by decide)
    · exact (List.mem_cons.mp hmem).elim (by decide) hclose
  have hds' : escapeTags ds = w ++ ']' :: escapeTags rest := hds ▸ escapeTags_close hopen rest
  generalize hbehind : List.replicate n '\\' ++
    '[' :: ((b ++ (tail ++ (between ++ w))) ++ ']' :: (escapeTags rest ++ tail')) = behind
  have hsplit : escapeTags cs ++ tail ++ between ++ (escapeTags ds ++ tail') =
      escapeTags us ++ behind := by
    rw [hcs', hds', ← hbehind]
    simp
  have hcross : Uncrossed us behind := by
    rintro us' b' w' rest' - hw' hbody'
    refine absurd (hbehind.trans hw') (append_bracket_ne ?_ fun hmem => ?_)
    · exact fun _ hc => List.eq_of_mem_replicate hc
    · exact hbody'.not_mem.1 (List.mem_append_right b' hmem)
  obtain ⟨ps, place', before', hpieces, -, hchars⟩ :=
    exists_piecesFrom_escapeTags_append hcross (fun h => absurd h hlast) place before
  obtain ⟨qs, htag⟩ : ∃ qs, piecesFrom place' before' behind = textPiece before'.reverse ++
      tagPieces ⟨n, b ++ (tail ++ (between ++ w))⟩ place' ++ qs :=
    ⟨_, hbehind ▸ piecesFrom_tag hbody n place' before' (escapeTags rest ++ tail')⟩
  refine ⟨ps ++ textPiece before'.reverse, ⟨n, b ++ (tail ++ (between ++ w))⟩, place', us, b, qs, ?_,
    ?_, hcs⟩
  · rw [hsplit, hpieces, htag, ← List.append_assoc, ← List.append_assoc]
  · rw [texts_append, texts_textPiece, hchars]

end

/-- The place of a text does not matter, nor does a blank in front of it. -/
theorem areLiteral_piecesFrom_iff (place place' : Nat) {before before' : List Char}
    (h : ∀ cs, IsLiteral (before.reverse ++ cs) ↔ IsLiteral (before'.reverse ++ cs))
    (cs : List Char) :
    AreLiteral (piecesFrom place before cs) ↔ AreLiteral (piecesFrom place' before' cs) := by
  have htext {before before' : List Char}
      (h : ∀ cs, IsLiteral (before.reverse ++ cs) ↔ IsLiteral (before'.reverse ++ cs)) :
      AreLiteral (textPiece before.reverse) ↔ AreLiteral (textPiece before'.reverse) := by
    rw [areLiteral_textPiece, areLiteral_textPiece]
    simpa using h []
  fun_induction piecesFrom place before cs generalizing place' before' with
  | case1 place before => rw [piecesFrom_nil, htext h]
  | case2 place before c cs t ht ih =>
    have htag : AreLiteral (tagPieces t place) ↔ AreLiteral (tagPieces t place') := by
      simp only [AreLiteral, tagPieces]
      split <;> simp
    have hrest : AreLiteral (piecesFrom (place + t.length) [] ((c :: cs).drop t.length)) ↔
        AreLiteral (piecesFrom (place' + t.length) [] ((c :: cs).drop t.length)) :=
      ih (place' + t.length) fun _ => Iff.rfl
    rw [piecesFrom_of_some ht, areLiteral_append, areLiteral_append, areLiteral_append,
      areLiteral_append, htext h, htag, hrest]
  | case3 place before c cs hnone ih =>
    rw [piecesFrom_of_none hnone]
    refine ih (place' + 1) fun ds => ?_
    rw [List.reverse_cons, List.reverse_cons, List.append_assoc, List.append_assoc]
    exact h _

/-- Two texts that are seen as they were: no tag begins in the first one and ends in the second one,
neither ends with a single backslash, and between their tags there are no backslashes in front of
brackets and no names of emoji. -/
structure Survives (cs ds : List Char) : Prop where
  uncrossed : Uncrossed (cs ++ between) ds
  first_end : ¬EndsLone cs
  second_end : ¬EndsLone ds
  literal : AreLiteral (pieces (escape cs ++ between ++ escape ds))

theorem count_escaped (cs ds : List Char) : (escape cs ++ between ++ escape ds).count '[' =
    (cs ++ between ++ ds).count '[' := by
  simp only [List.count_append, count_escape]

/-- There are no control characters in the escaped texts if there are none in the texts. -/
theorem printed_escaped {cs ds : List Char} (h : ∀ c ∈ cs ++ between ++ ds, 0x20 ≤ c.toNat) :
    ∀ c ∈ escape cs ++ between ++ escape ds, 0x20 ≤ c.toNat := by
  intro c hc
  obtain hmem | rfl : c ∈ cs ++ between ++ ds ∨ c = '\\' := by
    simp only [List.mem_append] at hc ⊢
    rcases hc with (hc | hc) | hc
    · exact (mem_of_mem_escape hc).imp_left fun hc => .inl (.inl hc)
    · exact .inl (.inl (.inr hc))
    · exact (mem_of_mem_escape hc).imp_left .inr
  · exact h c hmem
  · decide

/-- A last backslash that is doubled is seen twice. -/
theorem eq_nil_of_seen {cs ds tail tail' : List Char} (htail : tail = ['\\'] ∨ tail = [])
    (h : cs ++ (between ++ ds) = cs ++ (tail ++ (between ++ (ds ++ tail'))) ∨
      Deviates (cs ++ (between ++ ds)) (cs ++ (tail ++ (between ++ (ds ++ tail'))))) :
    tail = [] ∧ tail' = [] := by
  rw [List.append_cancel_left_eq, Deviates.append_left_iff] at h
  rcases htail with rfl | rfl
  · rcases h with h | h
    · exact absurd (List.cons.inj h).1 (by decide)
    · exact nomatch (h : Deviates (':' :: ' ' :: ds) ('\\' :: _))
  · have hend : between ++ ds ++ [] = between ++ ds ++ tail' ∨
        Deviates (between ++ ds ++ []) (between ++ ds ++ tail') := by simpa using h
    rw [List.append_cancel_left_eq, Deviates.append_left_iff] at hend
    exact ⟨rfl, (hend.resolve_right nofun).symm⟩

theorem backslashes_of_eq {tail : List Char} (h : tail = ['\\'] ∨ tail = []) :
    Backslashes tail := by
  rcases h with rfl | rfl <;> simp [Backslashes]

/-- A tag that begins in the first of two escaped texts and ends in the second one takes something
away. -/
theorem showPieces_escape_ne_of_crossed {cs ds : List Char} (hcross : ¬Uncrossed (cs ++ between) ds)
    (hprinted : ∀ c ∈ cs ++ between ++ ds, 0x20 ≤ c.toNat) (length : Nat) (opened : List Opened)
    (place : Nat) :
    (showPieces values length opened
      (piecesFrom place [' '] (escape cs ++ between ++ escape ds))).map Seen.chars ≠
        .ok (' ' :: (cs ++ between ++ ds)) := by
  intro h
  have hprinted' := printed_texts (printed_escaped hprinted) place
  have hcount := brackets_piecesFrom place [' '] (escape cs ++ between ++ escape ds)
  rw [count_escaped] at hcount
  obtain ⟨tail, hcs, htail⟩ := exists_escape_eq cs
  obtain ⟨tail', hds, -⟩ := exists_escape_eq ds
  have hback := backslashes_of_eq (htail.imp And.right And.right)
  obtain ⟨ps, t, place', us, rest, qs, hpieces, hchars, hfirst⟩ :=
    exists_piecesFrom_of_crossed hcross hback tail' place [' ']
  obtain ⟨s, hs, hseen⟩ := exists_of_map_eq_ok h
  rw [hcs, hds, hpieces] at hprinted' hcount hs
  refine ne_of_showPieces_tag (rest ++ (between ++ ds)) hchars ?_ hprinted' hs ?_
  · rw [hcount, hfirst]
    simp
  · rw [hseen, hfirst]
    simp

/-- **Escaped texts are seen as they were** exactly if they survive; a blank stands in front of them. -/
theorem showPieces_escape_eq_iff {cs ds : List Char}
    (hprinted : ∀ c ∈ cs ++ between ++ ds, 0x20 ≤ c.toNat) (length : Nat) (opened : List Opened)
    (place : Nat) :
    (showPieces values length opened
      (piecesFrom place [' '] (escape cs ++ between ++ escape ds))).map Seen.chars =
        .ok (' ' :: (cs ++ between ++ ds)) ↔ Survives cs ds := by
  have hprinted' := printed_texts (printed_escaped hprinted) place
  have hblank : ∀ es, IsLiteral ([' '].reverse ++ es) ↔ IsLiteral ([].reverse ++ es) :=
    isLiteral_blank_cons
  have hliteral : AreLiteral (piecesFrom place [' '] (escape cs ++ between ++ escape ds)) ↔
      AreLiteral (pieces (escape cs ++ between ++ escape ds)) :=
    areLiteral_piecesFrom_iff place 0 hblank _
  by_cases hcross : Uncrossed (cs ++ between) ds
  · obtain ⟨tail, hcs, htail⟩ := exists_escape_eq cs
    obtain ⟨tail', hds, htail'⟩ := exists_escape_eq ds
    have hone := htail.imp And.right And.right
    have hback' := backslashes_of_eq (htail'.imp And.right And.right)
    obtain ⟨htext, hchars⟩ :=
      piecesFrom_of_uncrossed hcross (backslashes_of_eq hone) hback' place [' ']
    rw [← hcs, ← hds] at htext hchars
    have hsame := seenTexts_eq htext hprinted'
    have hother := deviates_seenTexts htext hprinted'
    rw [hchars] at hsame hother
    rw [showPieces_of_texts values htext]
    simp only [Except.map, Except.ok.injEq]
    constructor
    · intro hout
      rw [hout] at hsame hother
      have hseen : ' ' :: cs ++ (between ++ ds) = ' ' :: cs ++ (tail ++ (between ++ (ds ++ tail'))) ∨
          Deviates (' ' :: cs ++ (between ++ ds))
            (' ' :: cs ++ (tail ++ (between ++ (ds ++ tail')))) := by
        rw [← List.append_assoc]
        exact (em _).imp hsame hother
      obtain ⟨rfl, rfl⟩ := eq_nil_of_seen hone hseen
      refine ⟨hcross, (htail.resolve_left fun h => List.cons_ne_nil _ _ h.2.symm).1,
        (htail'.resolve_left fun h => List.cons_ne_nil _ _ h.2.symm).1, hliteral.mp ?_⟩
      by_contra hlit
      exact (hother hlit).ne (by simp)
    · intro h
      obtain rfl : tail = [] := (htail.resolve_left fun h' => h.first_end h'.1).2
      obtain rfl : tail' = [] := (htail'.resolve_left fun h' => h.second_end h'.1).2
      rw [hsame (hliteral.mpr h.literal)]
      simp
  · exact iff_of_false (showPieces_escape_ne_of_crossed hcross hprinted length opened place)
      fun h => hcross h.uncrossed

end Enclosure.Console.Markup
