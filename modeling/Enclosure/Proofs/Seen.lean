import Enclosure.Console.Markup
import Mathlib.Data.List.TakeWhile
import Mathlib.Tactic.Common

/-!
# What is seen of a text

A text without tags is seen as it is, but for two things: a backslash in front of a bracket is left
out, and a name between colons may become an emoji.  Where this first changes the text, there is a
bracket in the place of a backslash, or some character in the place of a colon; so that a changed text
stays a changed one, whatever stands in front of it or behind it.  No bracket comes in that way.

What is here:

* `Emoji.IsDrawn`: what the characters of all emoji have in common.
* `Deviates`: one text is another one with something changed.
* `Emoji.replace_eq_or_deviates`: names of emoji.
* `Markup.deviates_unescapeBrackets`: backslashes in front of brackets.
* `Markup.IsLiteral`: a text that is seen as it is.
* `Markup.deviates_seenText`: all other texts are seen changed.
-/

set_option autoImplicit false

namespace Enclosure.Console

/-! ## Changed texts -/

/-- A text is seen instead of another one, and the first character that differs is a bracket in the
place of a backslash, or any character in the place of a colon. -/
inductive Deviates : List Char → List Char → Prop
  | bracket (r s : List Char) : Deviates ('[' :: r) ('\\' :: s)
  | colon (c : Char) (r s : List Char) (h : c ≠ ':') : Deviates (c :: r) (':' :: s)
  | cons (c : Char) {r s : List Char} (h : Deviates r s) : Deviates (c :: r) (c :: s)

namespace Deviates

variable {r s t : List Char}

theorem ne (h : Deviates r s) : r ≠ s := by
  induction h with
  | bracket r s => simp
  | colon c r s h => simp [h]
  | cons c h ih => simpa using ih

/-- A colon that becomes a backslash may become a bracket in the end, but no bracket changes. -/
theorem trans (h : Deviates r s) (h' : Deviates s t) : Deviates r t := by
  induction h generalizing t with
  | bracket r s =>
    cases h' with
    | colon => exact .colon _ _ _ (by decide)
    | cons => exact .bracket _ _
  | colon c r s h =>
    cases h' with
    | colon _ _ _ h' => exact absurd rfl h'
    | cons => exact .colon _ _ _ h
  | cons c h ih =>
    cases h' with
    | bracket => exact .bracket _ _
    | colon _ _ _ h' => exact .colon _ _ _ h'
    | cons _ h' => exact .cons c (ih h')

theorem append_left_iff (ps : List Char) : Deviates (ps ++ r) (ps ++ s) ↔ Deviates r s := by
  induction ps with
  | nil => rfl
  | cons p ps ih =>
    rw [← ih]
    refine ⟨fun h => ?_, .cons p⟩
    generalize hr : p :: ps ++ r = r' at h
    generalize hs : p :: ps ++ s = s' at h
    cases h with
    | bracket => exact absurd ((List.cons.inj hr).1.symm.trans (List.cons.inj hs).1) (by decide)
    | colon c _ _ h => exact absurd ((List.cons.inj hr).1.symm.trans (List.cons.inj hs).1) h
    | cons c h =>
      obtain ⟨-, rfl⟩ := List.cons.inj hr
      obtain ⟨-, rfl⟩ := List.cons.inj hs
      exact h

theorem append (h : Deviates r s) (r' s' : List Char) : Deviates (r ++ r') (s ++ s') := by
  induction h with
  | bracket r s => exact .bracket _ _
  | colon c r s h => exact .colon _ _ _ h
  | cons c h ih => exact .cons c ih

end Deviates

/-! ## Names of emoji -/

namespace Emoji

/-- What the characters of all emoji have in common. -/
structure IsDrawn (c : Char) : Prop where
  le_toNat : 0x20 ≤ c.toNat
  ne_colon : c ≠ ':'
  ne_bracket : c ≠ '['

/-- A code point of such a character. -/
def isDrawnCode (n : Nat) : Bool :=
  0x20 ≤ n && n != 0x3a && n != 0x5b && (n < 0xd800 || (0xdfff < n && n < 0x110000))

theorem isDrawn_ofNat {n : Nat} (h : isDrawnCode n = true) : IsDrawn (Char.ofNat n) := by
  simp only [isDrawnCode, Bool.and_eq_true, Bool.or_eq_true, decide_eq_true_eq, bne_iff_ne] at h
  obtain ⟨⟨⟨hle, hcolon⟩, hbracket⟩, hvalid⟩ := h
  have hcode : (Char.ofNat n).toNat = n := by
    rw [Char.ofNat, dif_pos hvalid]
    rfl
  refine ⟨hcode.symm ▸ hle, fun h => hcolon ?_, fun h => hbracket ?_⟩
  · rw [← hcode, h]
    rfl
  · rw [← hcode, h]
    rfl

/-- **Every name in the table** stands for some code points, all of them drawn. -/
theorem entries_drawn (first : Char) :
    ((entries first).all fun e => !e.2.isEmpty && e.2.all isDrawnCode) = true := by
  unfold entries
  split <;> decide +kernel

theorem isDrawn_of_find? {name : String} {cs : List Char} (h : find? name = some cs) :
    cs ≠ [] ∧ ∀ c ∈ cs, IsDrawn c := by
  unfold find? at h
  extract_lets lowered at h
  split at h
  · simp at h
  · next first _ _ =>
    obtain ⟨codes, hlookup, rfl⟩ := Option.map_eq_some_iff.mp h
    obtain ⟨before, after, hentries, -⟩ := List.lookup_eq_some_iff.mp hlookup
    have hentry := List.all_eq_true.mp (entries_drawn first) (lowered, codes) (by simp [hentries])
    rw [Bool.and_eq_true, Bool.not_eq_true', List.all_eq_true] at hentry
    refine ⟨fun hnil => ?_, fun c hc => ?_⟩
    · rw [List.map_eq_nil_iff.mp hnil] at hentry
      exact absurd hentry.1 (by simp)
    · obtain ⟨n, hn, rfl⟩ := List.mem_map.mp hc
      exact isDrawn_ofNat (hentry.2 n hn)

/-- What may be added to an emoji is drawn as well. -/
theorem isDrawn_of_mem_splitVariant {name : List Char} {c : Char}
    (h : c ∈ (splitVariant name).2) : IsDrawn c := by
  have hvariants : ∀ v ∈ variants, ∀ c ∈ v.2, 0x20 ≤ c.toNat ∧ c ≠ ':' ∧ c ≠ '[' := by
    simp [variants]
  rw [splitVariant] at h
  split at h
  · next v hv =>
    obtain ⟨hle, hcolon, hbracket⟩ := hvariants v (List.mem_of_find?_eq_some hv) c h
    exact ⟨hle, hcolon, hbracket⟩
  · simp at h

/-- **A name between colons** stays as it is, or something is drawn. -/
theorem ofName_cases (name : List Char) :
    ofName name = ':' :: name ++ [':'] ∨ ofName name ≠ [] ∧ ∀ c ∈ ofName name, IsDrawn c := by
  simp only [ofName]
  split
  · next cs hfind =>
    obtain ⟨hne, hdrawn⟩ := isDrawn_of_find? hfind
    refine .inr ⟨List.append_ne_nil_of_left_ne_nil hne _, fun c hc => ?_⟩
    exact (List.mem_append.mp hc).elim (hdrawn c) isDrawn_of_mem_splitVariant
  · exact .inl rfl

theorem replace_nil : replace [] = [] := by rw [replace]

theorem replace_cons {c : Char} {cs : List Char}
    (h : ¬(c = ':' ∧ (cs.dropWhile isNameChar).head? = some ':')) :
    replace (c :: cs) = c :: replace cs := by
  rw [replace, if_neg h]

theorem replace_cons_of_ne {c : Char} (h : c ≠ ':') (cs : List Char) :
    replace (c :: cs) = c :: replace cs := replace_cons fun hc => h hc.1

/-- Behind a colon there is a name with another colon behind it. -/
theorem exists_name {cs : List Char} (h : (cs.dropWhile isNameChar).head? = some ':') :
    ∃ name rest, cs.takeWhile isNameChar = name ∧ cs.drop (name.length + 1) = rest ∧
      cs = name ++ ':' :: rest := by
  obtain ⟨rest, hrest⟩ := List.head?_eq_some_iff.mp h
  have hcs : cs = cs.takeWhile isNameChar ++ ':' :: rest := by
    rw [← hrest, List.takeWhile_append_dropWhile]
  refine ⟨_, rest, rfl, ?_, hcs⟩
  generalize cs.takeWhile isNameChar = name at hcs ⊢
  subst hcs
  simp

/-- **Replacing names of emoji** changes nothing, or the first colon that it changes. -/
theorem replace_eq_or_deviates (cs : List Char) :
    replace cs = cs ∨ Deviates (replace cs) cs := by
  fun_induction replace cs with
  | case1 => exact .inl rfl
  | case2 c cs h ih =>
    obtain ⟨rfl, hcode⟩ := h
    obtain ⟨name, rest, hname, hrest, hcs⟩ := exists_name hcode
    rw [hname, hrest] at ih ⊢
    subst hcs
    rcases ofName_cases name with hname | ⟨hne, hdrawn⟩
    · have hsplit : ':' :: (name ++ ':' :: rest) = (':' :: name ++ [':']) ++ rest := by simp
      rw [hname, hsplit, List.append_cancel_left_eq, Deviates.append_left_iff]
      exact ih
    · obtain ⟨c, cs, hcons⟩ := List.exists_cons_of_ne_nil hne
      rw [hcons] at hdrawn ⊢
      exact .inr (.colon c _ _ (hdrawn c List.mem_cons_self).ne_colon)
  | case3 c cs h ih => exact ih.imp (congrArg (c :: ·)) (.cons c)

/-- Only emoji come in. -/
theorem mem_replace {cs : List Char} {c : Char} (h : c ∈ replace cs) : c ∈ cs ∨ IsDrawn c := by
  fun_induction replace cs with
  | case1 => exact .inl h
  | case2 d cs hcode ih =>
    obtain ⟨rfl, hcode⟩ := hcode
    obtain ⟨name, rest, hname, hrest, hcs⟩ := exists_name hcode
    rw [hname, hrest] at ih h
    subst hcs
    rcases List.mem_append.mp h with h | h
    · rcases ofName_cases name with hname | ⟨-, hdrawn⟩
      · have hsplit : ':' :: (name ++ ':' :: rest) = (':' :: name ++ [':']) ++ rest := by simp
        rw [hname] at h
        exact .inl (hsplit ▸ List.mem_append_left rest h)
      · exact .inr (hdrawn c h)
    · exact (ih h).imp_left fun h => by simp [h]
  | case3 d cs hcode ih =>
    rcases List.mem_cons.mp h with rfl | h
    · exact .inl List.mem_cons_self
    · exact (ih h).imp_left (List.mem_cons_of_mem d)

theorem count_replace_le (cs : List Char) : (replace cs).count '[' ≤ cs.count '[' := by
  fun_induction replace cs with
  | case1 => exact le_rfl
  | case2 d cs hcode ih =>
    obtain ⟨rfl, hcode⟩ := hcode
    obtain ⟨name, rest, hname, hrest, hcs⟩ := exists_name hcode
    rw [hname, hrest] at ih ⊢
    subst hcs
    rcases ofName_cases name with hname | ⟨-, hdrawn⟩
    · rw [hname]
      simpa using ih
    · have hnone : (ofName name).count '[' = 0 :=
        List.count_eq_zero.mpr fun hmem => (hdrawn _ hmem).ne_bracket rfl
      rw [List.count_append, hnone]
      simp
      omega
  | case3 d cs hcode ih =>
    rw [List.count_cons, List.count_cons]
    exact Nat.add_le_add_right ih _

theorem replace_of_not_mem {cs : List Char} (h : ':' ∉ cs) : replace cs = cs := by
  induction cs with
  | nil => exact replace_nil
  | cons c cs ih =>
    rw [List.mem_cons, not_or] at h
    rw [replace_cons_of_ne (Ne.symm h.1), ih h.2]

end Emoji

namespace Markup

/-! ## Backslashes in front of brackets -/

theorem unescapeBrackets_eq_self {cs : List Char} (h : ¬['\\', '['] <:+: cs) :
    unescapeBrackets cs = cs := by
  fun_induction unescapeBrackets cs with
  | case1 cs ih => exact absurd (List.prefix_append ['\\', '['] cs).isInfix h
  | case2 c cs hfront ih =>
    rw [ih fun hwithin => h (List.infix_cons hwithin)]
  | case3 => rfl

/-- **A backslash in front of a bracket** is not seen. -/
theorem deviates_unescapeBrackets {cs : List Char} (h : ['\\', '['] <:+: cs) :
    Deviates (unescapeBrackets cs) cs := by
  fun_induction unescapeBrackets cs with
  | case1 cs ih => exact .bracket _ _
  | case2 c cs hfront ih =>
    rcases List.infix_cons_iff.mp h with ⟨rest, hrest⟩ | hwithin
    · obtain ⟨rfl, rfl⟩ := List.cons.inj hrest
      exact absurd rfl (hfront _ rfl)
    · exact .cons c (ih hwithin)
  | case3 => exact absurd h (by decide)

theorem mem_of_mem_unescapeBrackets {cs : List Char} {c : Char} (h : c ∈ unescapeBrackets cs) :
    c ∈ cs := by
  fun_induction unescapeBrackets cs with
  | case1 cs ih =>
    refine List.mem_cons_of_mem _ ?_
    exact (List.mem_cons.mp h).elim (fun h => h ▸ List.mem_cons_self)
      fun h => List.mem_cons_of_mem _ (ih h)
  | case2 d cs hfront ih =>
    exact (List.mem_cons.mp h).elim (fun h => h ▸ List.mem_cons_self)
      fun h => List.mem_cons_of_mem _ (ih h)
  | case3 => exact h

theorem count_unescapeBrackets (cs : List Char) :
    (unescapeBrackets cs).count '[' = cs.count '[' := by
  fun_induction unescapeBrackets cs with
  | case1 cs ih => simp [ih]
  | case2 c cs hfront ih => simp [List.count_cons, ih]
  | case3 => rfl

/-! ## Texts that are seen as they are -/

/-- A text in which there is no backslash in front of a bracket and no name of an emoji. -/
structure IsLiteral (cs : List Char) : Prop where
  no_backslash : ¬['\\', '['] <:+: cs
  no_emoji : Emoji.replace cs = cs

theorem isLiteral_of_not_mem {cs : List Char} (hback : '\\' ∉ cs) (hcolon : ':' ∉ cs) :
    IsLiteral cs :=
  ⟨fun h => hback (h.subset (by simp)), Emoji.replace_of_not_mem hcolon⟩

/-- A blank in front does not matter. -/
theorem isLiteral_blank_cons (cs : List Char) : IsLiteral (' ' :: cs) ↔ IsLiteral cs := by
  have hemoji : Emoji.replace (' ' :: cs) = ' ' :: cs ↔ Emoji.replace cs = cs := by
    rw [Emoji.replace_cons_of_ne (by decide), List.cons_inj_right]
  have hback : ['\\', '['] <:+: ' ' :: cs ↔ ['\\', '['] <:+: cs := by
    rw [List.infix_cons_iff]
    simp
  constructor
  · rintro ⟨h, h'⟩
    exact ⟨hback.not.mp h, hemoji.mp h'⟩
  · rintro ⟨h, h'⟩
    exact ⟨hback.not.mpr h, hemoji.mpr h'⟩

/-- What is seen of a text between tags. -/
def seenText (cs : List Char) : List Char := seen (unescapeBrackets cs)

/-- A blank is seen as it is. -/
theorem seenText_blank_cons (cs : List Char) : seenText (' ' :: cs) = ' ' :: seenText cs := by
  have hescape : unescapeBrackets (' ' :: cs) = ' ' :: unescapeBrackets cs := by
    simp [unescapeBrackets]
  rw [seenText, hescape, seen, Emoji.replace_cons_of_ne (by decide),
    List.filter_cons_of_pos (by decide)]
  rfl

theorem mem_seenText {cs : List Char} {c : Char} (h : c ∈ seenText cs) :
    c ∈ cs ∨ Emoji.IsDrawn c :=
  (Emoji.mem_replace (List.mem_filter.mp h).1).imp_left mem_of_mem_unescapeBrackets

theorem count_seenText_le (cs : List Char) : (seenText cs).count '[' ≤ cs.count '[' :=
  calc (seenText cs).count '['
      ≤ (Emoji.replace (unescapeBrackets cs)).count '[' := List.filter_sublist.count_le _
    _ ≤ (unescapeBrackets cs).count '[' := Emoji.count_replace_le _
    _ = cs.count '[' := count_unescapeBrackets cs

theorem isStripped_of_le {c : Char} (h : 0x20 ≤ c.toNat) : isStripped c = false := by
  rw [isStripped, Bool.eq_false_iff, ne_eq, List.contains_iff_mem]
  intro hmem
  simp only [List.mem_cons, List.not_mem_nil, or_false] at hmem
  omega

/-- Nothing else is left out, if there are no control characters. -/
theorem seenText_eq {cs : List Char} (h : ∀ c ∈ cs, 0x20 ≤ c.toNat) :
    seenText cs = Emoji.replace (unescapeBrackets cs) := by
  refine List.filter_eq_self.mpr fun c hc => ?_
  have hle : 0x20 ≤ c.toNat := (Emoji.mem_replace hc).elim
    (fun hc => h c (mem_of_mem_unescapeBrackets hc)) Emoji.IsDrawn.le_toNat
  rw [isStripped_of_le hle, Bool.not_false]

theorem IsLiteral.seenText_eq {cs : List Char} (hlit : IsLiteral cs)
    (h : ∀ c ∈ cs, 0x20 ≤ c.toNat) : seenText cs = cs := by
  rw [Markup.seenText_eq h, unescapeBrackets_eq_self hlit.no_backslash, hlit.no_emoji]

/-- **A text that is not literal** is seen changed. -/
theorem deviates_seenText {cs : List Char} (h : ∀ c ∈ cs, 0x20 ≤ c.toNat)
    (hlit : ¬IsLiteral cs) : Deviates (seenText cs) cs := by
  rw [seenText_eq h]
  have hemoji := Emoji.replace_eq_or_deviates (unescapeBrackets cs)
  by_cases hback : ['\\', '['] <:+: cs
  · have hdeviates := deviates_unescapeBrackets hback
    rcases hemoji with heq | hemoji
    · rwa [heq]
    · exact hemoji.trans hdeviates
  · rw [unescapeBrackets_eq_self hback] at hemoji ⊢
    exact hemoji.resolve_left fun heq => hlit ⟨hback, heq⟩

end Markup
end Enclosure.Console
