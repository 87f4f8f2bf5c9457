import Enclosure.Proofs.Json.Document
import Mathlib.Data.List.Infix
import Mathlib.Data.List.TakeWhile

/-!
# What it takes to exceed the limits of the reader

The reader gives up on a document that nests too deep, and on a whole number with too many digits.
Both show in the document: every level it goes down has passed an opening bracket, and the digits of
a number stand in a row.

What is here:

* `Json.opens` and `Json.HasDigits`: brackets and digits in a row.
* `Json.Within`: what a step of reading may come to.
* `Json.value_within`: reading a value, by induction on the fuel along with items and members.
* `Json.ExceedsLimits.brackets_or_digits`: what a document looks like that exceeds a limit.
* `Json.readWithin_of_brackets` and `Json.readWithin_of_digits`: documents that do.
-/

set_option autoImplicit false

namespace Enclosure.Json

/-- Whether a character opens a list or an object. -/
def opens (x : CodePoint) : Bool := x.val == 0x5b || x.val == 0x7b

/-- So many digits in a row. -/
def HasDigits (n : Nat) (xs : Codes) : Prop :=
  ∃ run, run <:+: xs ∧ run.length = n ∧ ∀ x ∈ run, isDigit x = true

theorem HasDigits.of_suffix {n : Nat} {xs ys : Codes} (h : HasDigits n xs) (hsuffix : xs <:+ ys) :
    HasDigits n ys := by
  obtain ⟨run, hrun, hlen, hdigits⟩ := h
  exact ⟨run, hrun.trans hsuffix.isInfix, hlen, hdigits⟩

/-! ## One step -/

/-- What a step of reading may come to that starts with a text and may go down so many levels: it
goes on later in the text, it finds a fault of form, it has passed more brackets than there are
levels, or it has met a row of too many digits. -/
inductive Within {α : Type} (levels : Nat) (rest : Codes) : Reading α → Prop
  | done (x : α) (c : Cursor) (h : c.rest <:+ rest) : Within levels rest (.ok (x, c))
  | malformed (reason : String) (place : Nat) :
    Within levels rest (.error (.malformed reason place))
  | tooDeep (what : String) (h : levels < rest.countP opens) :
    Within levels rest (.error (.tooDeep what))
  | tooLong (n : Nat) (hn : maxDigits < n) (h : HasDigits n rest) :
    Within levels rest (.error (.tooLong n))

theorem Within.of_suffix {α : Type} {levels : Nat} {xs ys : Codes} {r : Reading α}
    (h : Within levels xs r) (hsuffix : xs <:+ ys) : Within levels ys r := by
  cases h with
  | done x c h => exact .done x c (h.trans hsuffix)
  | malformed reason place => exact .malformed reason place
  | tooDeep what h => exact .tooDeep what (Nat.lt_of_lt_of_le h (hsuffix.sublist.countP_le))
  | tooLong n hn h => exact .tooLong n hn (h.of_suffix hsuffix)

/-- Behind a bracket there is one level less. -/
theorem Within.opened {α : Type} {levels : Nat} {x : CodePoint} {xs : Codes} {r : Reading α}
    (h : Within levels xs r) (hx : opens x = true) : Within (levels + 1) (x :: xs) r := by
  cases h with
  | done y c h => exact .done y c (h.trans (List.suffix_cons x xs))
  | malformed reason place => exact .malformed reason place
  | tooDeep what h =>
    refine .tooDeep what ?_
    rw [List.countP_cons_of_pos hx]
    omega
  | tooLong n hn h => exact .tooLong n hn (h.of_suffix (List.suffix_cons x xs))

/-- A fault is the same whatever was to be read. -/
theorem Within.error {α β : Type} {levels : Nat} {xs : Codes} {e : JsonFault}
    (h : Within levels xs (.error e : Reading α)) : Within levels xs (.error e : Reading β) := by
  cases h with
  | malformed reason place => exact .malformed reason place
  | tooDeep what h => exact .tooDeep what h
  | tooLong n hn h => exact .tooLong n hn h

theorem Within.rest {α : Type} {levels : Nat} {xs : Codes} {x : α} {c : Cursor}
    (h : Within levels xs (.ok (x, c))) : c.rest <:+ xs := by
  cases h with
  | done x c h => exact h

/-! ## Cursors -/

theorem Cursor.rest_next (c : Cursor) : c.next.rest <:+ c.rest := List.drop_suffix 1 c.rest

theorem Cursor.rest_skip (c : Cursor) (n : Nat) : (c.skip n).rest <:+ c.rest :=
  List.drop_suffix n c.rest

theorem Cursor.rest_pastSpace (c : Cursor) : c.pastSpace.rest <:+ c.rest := c.rest_skip _

/-! ## Texts and numbers -/

theorem exists_malformed_of_unicodeEscape {c : Cursor} {e : JsonFault}
    (h : unicodeEscape c = .error e) : ∃ reason place, e = .malformed reason place := by
  rw [unicodeEscape] at h
  split at h
  · exact ⟨_, _, (Except.error.inj h).symm⟩
  · split at h
    · simp at h
    · exact ⟨_, _, (Except.error.inj h).symm⟩

theorem stringFrom_within (levels start fuel : Nat) (taken : Codes) (c : Cursor) :
    Within levels c.rest (stringFrom start fuel taken c) := by
  induction fuel generalizing taken c with
  | zero => exact .malformed _ _
  | succ fuel ih =>
    have hescape : ∀ {c' : Cursor} {e : JsonFault}, unicodeEscape c' = .error e →
        Within levels c.rest (.error e : Reading Codes) := by
      intro c' e he
      obtain ⟨reason, place, rfl⟩ := exists_malformed_of_unicodeEscape he
      exact .malformed reason place
    rw [stringFrom]
    split
    · exact .malformed _ _
    · split
      · exact .done _ _ c.rest_next
      · split
        · split
          · exact .malformed _ _
          · split
            · split
              · next he => exact hescape he
              · dsimp only
                split
                · split
                  · next he => exact hescape he
                  · split
                    · exact (ih _ _).of_suffix (((c.skip 6).rest_skip 6).trans (c.rest_skip 6))
                    · exact (ih _ _).of_suffix (c.rest_skip 6)
                · exact (ih _ _).of_suffix (c.rest_skip 6)
            · split
              · exact (ih _ _).of_suffix (c.rest_skip 2)
              · exact .malformed _ _
        · split
          · exact .malformed _ _
          · exact (ih _ _).of_suffix c.rest_next

/-- The digits at a cursor stand in a row. -/
theorem hasDigits_digits (c : Cursor) : HasDigits c.digits.length c.rest :=
  ⟨c.digits, (List.takeWhile_prefix isDigit).isInfix, rfl,
    fun x hx => List.all_eq_true.mp List.all_takeWhile x hx⟩

theorem number_within (levels : Nat) (c : Cursor) : Within levels c.rest (number c) := by
  unfold number
  extract_lets negative whole digits behind fraction after minus signed marked power n
  have hwhole : whole.rest <:+ c.rest := by
    simp only [whole]
    split
    · exact c.rest_next
    · exact List.suffix_rfl
  have hbehind : behind.rest <:+ c.rest := (whole.rest_skip _).trans hwhole
  have hafter : after.rest <:+ c.rest := by
    simp only [after]
    split
    · exact hbehind
    · exact (behind.rest_skip _).trans hbehind
  have hmarked : marked.rest <:+ c.rest := by
    simp only [marked]
    split
    · exact (after.rest_skip _).trans hafter
    · exact after.rest_next.trans hafter
  split
  · exact .malformed _ _
  · split
    next exponent last hlast =>
    have hlast : last.rest <:+ c.rest := by
      split at hlast
      · split at hlast
        · exact (Prod.mk.inj hlast).2 ▸ hafter
        · exact (Prod.mk.inj hlast).2 ▸ (marked.rest_skip _).trans hmarked
      · exact (Prod.mk.inj hlast).2 ▸ hafter
    split
    · split
      · next hlong =>
        refine .tooLong _ hlong ?_
        simp only [digits] at hlong ⊢
        split at hlong
        · -- a zero stands alone
          have htake := List.length_take_le 1 whole.rest
          rw [maxDigits] at hlong
          omega
        · next hzero =>
          rw [if_neg hzero]
          exact (hasDigits_digits whole).of_suffix hwhole
      · exact .done _ _ hlast
    · exact .done _ _ hlast

theorem wordOrNumber_within (levels : Nat) (c : Cursor) :
    Within levels c.rest (wordOrNumber c) := by
  rw [wordOrNumber]
  repeat' split
  all_goals first
    | exact .done _ _ (c.rest_skip _)
    | exact number_within levels c

/-! ## Values -/

theorem exists_rest_of_at? {c : Cursor} {x : Char} (h : c.at? x = true) :
    ∃ rest, c.rest = .ofChar x :: rest := by
  obtain ⟨rest, place⟩ := c
  cases rest with
  | nil => exact absurd h Bool.false_ne_true
  | cons y rest =>
    have hy : y = .ofChar x := Fin.ext (beq_iff_eq.mp h)
    exact ⟨rest, by rw [hy]⟩

/-- Going down one level. -/
theorem within_of_bracket {levels : Nat} {c : Cursor} {x : Char} (h : c.at? x = true)
    (hx : opens (.ofChar x) = true) {r : Reading Json}
    (hr : Within levels c.next.pastSpace.rest r) : Within (levels + 1) c.rest r := by
  obtain ⟨rest, hrest⟩ := exists_rest_of_at? h
  have hnext : c.next.rest = rest := by rw [Cursor.next, hrest, List.drop_succ_cons, List.drop_zero]
  rw [hrest, ← hnext]
  exact (hr.of_suffix c.next.rest_pastSpace).opened hx

theorem within_of_lowest {c : Cursor} {x : Char} (h : c.at? x = true)
    (hx : opens (.ofChar x) = true) (what : String) :
    Within 0 c.rest (.error (.tooDeep what) : Reading Json) := by
  obtain ⟨rest, hrest⟩ := exists_rest_of_at? h
  refine .tooDeep what ?_
  rw [hrest, List.countP_cons_of_pos hx]
  exact Nat.succ_pos _

theorem value_within_succ {fuel : Nat}
    (hitems : ∀ levels taken c, Within levels c.rest (items fuel levels taken c))
    (hmembers : ∀ levels taken c, Within levels c.rest (members fuel levels taken c))
    (levels : Nat) (c : Cursor) : Within levels c.rest (value (fuel + 1) levels c) := by
  rw [value.eq_def]
  dsimp only
  split
  · have htext := stringFrom_within levels c.place (fuel + 1) [] c.next
    split
    · next s last heq =>
      rw [heq] at htext
      exact .done _ _ (htext.rest.trans c.rest_next)
    · next e heq =>
      rw [heq] at htext
      exact (htext.of_suffix c.rest_next).error
  · split
    · next hbrace =>
      cases levels with
      | zero => exact within_of_lowest hbrace rfl _
      | succ levels =>
        refine within_of_bracket hbrace rfl ?_
        dsimp only
        split
        · exact .done _ _ (Cursor.rest_next _)
        · exact hmembers levels [] _
    · split
      · next hbracket =>
        cases levels with
        | zero => exact within_of_lowest hbracket rfl _
        | succ levels =>
          refine within_of_bracket hbracket rfl ?_
          dsimp only
          split
          · exact .done _ _ (Cursor.rest_next _)
          · exact hitems levels [] _
      · exact wordOrNumber_within levels c

theorem items_within_succ {fuel : Nat}
    (hvalue : ∀ levels c, Within levels c.rest (value fuel levels c))
    (hitems : ∀ levels taken c, Within levels c.rest (items fuel levels taken c))
    (levels : Nat) (taken : List Json) (c : Cursor) :
    Within levels c.rest (items (fuel + 1) levels taken c) := by
  have hfirst := hvalue levels c
  rw [items]
  split
  · next e heq =>
    rw [heq] at hfirst
    exact hfirst
  · next v last heq =>
    rw [heq] at hfirst
    have hlast : last.pastSpace.rest <:+ c.rest := last.rest_pastSpace.trans hfirst.rest
    dsimp only
    split
    · exact .done _ _ ((Cursor.rest_next _).trans hlast)
    · split
      · exact (hitems levels _ _).of_suffix
          ((Cursor.rest_pastSpace _).trans ((Cursor.rest_next _).trans hlast))
      · exact .malformed _ _

theorem members_within_succ {fuel : Nat}
    (hvalue : ∀ levels c, Within levels c.rest (value fuel levels c))
    (hmembers : ∀ levels taken c, Within levels c.rest (members fuel levels taken c))
    (levels : Nat) (taken : List (Codes × Json)) (c : Cursor) :
    Within levels c.rest (members (fuel + 1) levels taken c) := by
  have hkey := stringFrom_within levels c.place (fuel + 1) [] c.next
  rw [members]
  split
  · split
    · next e heq =>
      rw [heq] at hkey
      exact (hkey.of_suffix c.rest_next).error
    · next key last heq =>
      rw [heq] at hkey
      have hlast : last.pastSpace.rest <:+ c.rest :=
        last.rest_pastSpace.trans (hkey.rest.trans c.rest_next)
      dsimp only
      split
      · have hstart : last.pastSpace.next.pastSpace.rest <:+ c.rest :=
          (Cursor.rest_pastSpace _).trans ((Cursor.rest_next _).trans hlast)
        have hread := hvalue levels last.pastSpace.next.pastSpace
        split
        · next e heq =>
          rw [heq] at hread
          exact hread.of_suffix hstart
        · next v after heq =>
          rw [heq] at hread
          have hafter : after.pastSpace.rest <:+ c.rest :=
            after.rest_pastSpace.trans (hread.rest.trans hstart)
          split
          · exact .done _ _ ((Cursor.rest_next _).trans hafter)
          · split
            · exact (hmembers levels _ _).of_suffix
                ((Cursor.rest_pastSpace _).trans ((Cursor.rest_next _).trans hafter))
            · exact .malformed _ _
      · exact .malformed _ _
  · exact .malformed _ _

/-- **Reading a value** goes down no level without a bracket, and gives up on no number without the
digits. -/
theorem value_within (fuel : Nat) :
    (∀ levels c, Within levels c.rest (value fuel levels c)) ∧
      (∀ levels taken c, Within levels c.rest (items fuel levels taken c)) ∧
      ∀ levels taken c, Within levels c.rest (members fuel levels taken c) := by
  -- the three readers call each other with less fuel, so one induction carries all of them
  induction fuel with
  | zero =>
    refine ⟨fun levels c => ?_, fun levels taken c => ?_, fun levels taken c => ?_⟩
    · rw [value.eq_def]
      exact .malformed _ _
    · rw [items]
      exact .malformed _ _
    · rw [members]
      exact .malformed _ _
  | succ fuel ih =>
    obtain ⟨hvalue, hitems, hmembers⟩ := ih
    exact ⟨value_within_succ hitems hmembers, items_within_succ hvalue hitems,
      members_within_succ hvalue hmembers⟩

/-! ## Documents -/

variable {levels : Nat} {text : Codes}

/-- The document nests deeper than a reader with so many levels takes, or has a longer whole
number. -/
def ExceedsLimits (levels : Nat) (text : Codes) : Prop :=
  (∃ what, readWithin levels text = .error (.tooDeep what)) ∨
    ∃ n, readWithin levels text = .error (.tooLong n)

/-- **A document that exceeds a limit** has more opening brackets than there are levels, or more
digits in a row than a number may have. -/
theorem ExceedsLimits.brackets_or_digits (h : ExceedsLimits levels text) :
    levels < text.countP opens ∨ ∃ n, maxDigits < n ∧ HasDigits n text := by
  have hwithin := (value_within (2 * text.length + 2)).1 levels
    (Cursor.pastSpace ⟨text, 0⟩)
  have hread : ∀ {e : JsonFault}, readWithin levels text = .error e →
      (∀ reason place, e ≠ .malformed reason place) →
      value (2 * text.length + 2) levels (Cursor.pastSpace ⟨text, 0⟩) = .error e := by
    intro e he hne
    rw [readWithin] at he
    dsimp only at he
    split at he
    · next e' heq => rw [heq, Except.error.inj he]
    · split at he
      · simp at he
      · exact absurd (Except.error.inj he).symm (hne _ _)
  obtain ⟨what, h⟩ | ⟨n, h⟩ := h
  · rw [hread h (by simp)] at hwithin
    cases hwithin.of_suffix (Cursor.rest_pastSpace _) with
    | tooDeep what h => exact .inl h
  · rw [hread h (by simp)] at hwithin
    cases hwithin.of_suffix (Cursor.rest_pastSpace _) with
    | tooLong n hn h => exact .inr ⟨n, hn, h⟩

theorem readWithin_eq_error (hspace : text.takeWhile isSpace = []) {e : JsonFault}
    (h : value (2 * text.length + 2) levels ⟨text, 0⟩ = .error e) :
    readWithin levels text = .error e := by
  rw [readWithin]
  simp only [pastSpace_eq_self hspace, h]

/-- One bracket more than there are levels is one too many, whatever comes after it. -/
theorem value_of_brackets (levels fuel : Nat) (hfuel : 2 * levels < fuel) (rest : Codes)
    (place : Nat) :
    value fuel levels ⟨List.replicate (levels + 1) (.ofChar '[') ++ rest, place⟩ =
      .error (.tooDeep "array") := by
  induction levels generalizing fuel place with
  | zero =>
    obtain ⟨fuel, rfl⟩ := Nat.exists_eq_add_one_of_ne_zero (n := fuel) (by omega)
    rw [value.eq_def]
    rfl
  | succ levels ih =>
    obtain ⟨fuel, rfl⟩ := Nat.exists_eq_add_one_of_ne_zero (n := fuel) (by omega)
    obtain ⟨fuel, rfl⟩ := Nat.exists_eq_add_one_of_ne_zero (n := fuel) (by omega)
    have hspace : (List.replicate (levels + 1) (CodePoint.ofChar '[') ++ rest).takeWhile isSpace =
        [] := rfl
    have hopen : Cursor.at? ⟨List.replicate (levels + 1) (.ofChar '[') ++ rest, place + 1⟩ ']' =
        false := rfl
    rw [List.replicate_succ, List.cons_append, value_bracket _ _ hspace, hopen,
      if_neg (by decide), items, ih fuel (by omega)]

/-- **Too many brackets at the start** of a document make it nest too deep. -/
theorem readWithin_of_brackets {n : Nat} (hn : levels < n) (rest : Codes) :
    readWithin levels (List.replicate n (.ofChar '[') ++ rest) = .error (.tooDeep "array") := by
  obtain ⟨k, rfl⟩ := Nat.exists_eq_add_of_lt hn
  rw [Nat.add_right_comm, List.replicate_add, List.append_assoc]
  refine readWithin_eq_error rfl (value_of_brackets levels _ ?_ _ 0)
  rw [List.length_append, List.length_replicate]
  omega

/-- **Too many digits in a row**, the first of them no zero, are no number that is read. -/
theorem readWithin_of_digits {x : CodePoint} {run : Codes} (hzero : x ≠ .ofChar '0')
    (hdigits : ∀ y ∈ x :: run, isDigit y = true) (hlong : maxDigits < (x :: run).length) :
    readWithin levels (x :: run) = .error (.tooLong (x :: run).length) := by
  have hx := hdigits x List.mem_cons_self
  have hother {y : Char} (hy : isDigit (.ofChar y) = false) :
      Cursor.at? ⟨x :: run, 0⟩ y = false := by
    rw [← Bool.not_eq_true]
    intro h
    obtain ⟨rest, hrest⟩ := exists_rest_of_at? h
    rw [(List.cons.inj hrest).1, hy] at hx
    exact absurd hx (by decide)
  have hfirst : Cursor.at? ⟨x :: run, 0⟩ '0' = false := by
    rw [← Bool.not_eq_true]
    intro h
    obtain ⟨rest, hrest⟩ := exists_rest_of_at? h
    exact hzero (List.cons.inj hrest).1
  have htaken : (x :: run).takeWhile isDigit = x :: run := List.takeWhile_eq_self_iff.mpr hdigits
  have hend (y : Char) (place : Nat) : Cursor.at? ⟨[], place⟩ y = false := rfl
  refine readWithin_eq_error (List.takeWhile_cons_of_neg (by simp [isSpace_of_isDigit hx])) ?_
  rw [value_eq_wordOrNumber (hother rfl) (hother rfl) (hother rfl),
    wordOrNumber_eq_number (hother rfl) (hother rfl) (hother rfl) (hother rfl) (hother rfl)
      (startsWith_eq_false rfl (hother (y := '-') rfl))]
  simp only [number, hother (y := '-') rfl, Bool.false_eq_true, if_false, hfirst, Cursor.digits,
    htaken, List.isEmpty_cons, Cursor.skip, List.drop_length, hend, Bool.or_self, List.isEmpty_nil,
    if_true, Option.isNone_none, Bool.and_self, if_pos hlong]

end Enclosure.Json
