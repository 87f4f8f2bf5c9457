import Enclosure.Proofs.Failures
import Mathlib.Data.List.DropRight

/-!
# What a refusal says

A refusal is meant to be clean: it says something, there is no white space around it, and it does not
start with the words that some diagnoses are framed with.  To diagnose a message once is not always
enough for that.  White space is cut off before the framing, so what stood between the framing and the
message is still there afterwards; and the framing is taken off once, so a message that was framed twice
is still framed.  A refusal that comes from a back end that cannot be built is not diagnosed at all: it
ends as the failure behind it does.  This file says exactly when a refusal is clean.

What is here:

* `Codes.IsTrimmed` and `trimCodes_eq_self_iff`: a text without white space around it.
* `Codes.IsClean` and `isClean_iff`: a text is clean if there is nothing in it to diagnose.
* `diagnosis_cases`: the three things that a diagnosis can be.
* `isClean_diagnosis_iff`: which messages have a clean diagnosis.
* `Host.exists_cause_of_grammarFault?`: what is said about a back end that cannot be built.
* `Session.refusals_clean_iff`: which refusals of a check are clean.
-/

set_option autoImplicit false

namespace Enclosure

/-! ## White space around a text -/

/-- There is no white space at either end of a text. -/
structure Codes.IsTrimmed (xs : Codes) : Prop where
  /-- It does not start with any. -/
  start : ∀ x ∈ xs.head?, Text.isBlankCode x.val = false
  /-- It does not end with any. -/
  stop : ∀ x ∈ xs.getLast?, Text.isBlankCode x.val = false

theorem trimCodes_eq_rdropWhile (xs : Codes) :
    Text.trimCodes xs = (xs.dropWhile fun x => Text.isBlankCode x.val).rdropWhile
      fun x => Text.isBlankCode x.val := rfl

/-- What is left of a text has no white space around it. -/
theorem isTrimmed_trimCodes (xs : Codes) : (Text.trimCodes xs).IsTrimmed := by
  rw [trimCodes_eq_rdropWhile]
  have hhead := List.head?_dropWhile_not (fun x : CodePoint => Text.isBlankCode x.val) xs
  generalize xs.dropWhile (fun x : CodePoint => Text.isBlankCode x.val) = ys at hhead
  constructor
  · -- what is cut off at the end is not cut off at the start
    intro x hx
    obtain ⟨rest, hrest⟩ := List.rdropWhile_prefix (fun x : CodePoint => Text.isBlankCode x.val) ys
    obtain ⟨zs, hzs⟩ := List.head?_eq_some_iff.mp hx
    have hys : ys.head? = some x := by rw [← hrest, hzs, List.cons_append, List.head?_cons]
    rwa [hys] at hhead
  · intro x hx
    have hlast := List.head?_dropWhile_not (fun x : CodePoint => Text.isBlankCode x.val) ys.reverse
    rw [List.rdropWhile, List.getLast?_reverse] at hx
    rwa [show _ = some x from hx] at hlast

theorem dropWhile_eq_self_of_head? {xs : Codes}
    (h : ∀ x ∈ xs.head?, Text.isBlankCode x.val = false) :
    xs.dropWhile (fun x => Text.isBlankCode x.val) = xs := by
  cases xs with
  | nil => rfl
  | cons x xs => exact List.dropWhile_cons_of_neg (by simp [h x rfl])

/-- **Nothing is cut off** if and only if there is no white space around a text. -/
theorem trimCodes_eq_self_iff {xs : Codes} : Text.trimCodes xs = xs ↔ xs.IsTrimmed := by
  refine ⟨fun h => h ▸ isTrimmed_trimCodes xs, fun h => ?_⟩
  have hreverse : ∀ x ∈ xs.reverse.head?, Text.isBlankCode x.val = false := by
    rw [List.head?_reverse]
    exact h.stop
  rw [Text.trimCodes, dropWhile_eq_self_of_head? h.start, dropWhile_eq_self_of_head? hreverse,
    List.reverse_reverse]

theorem length_trimCodes_le (xs : Codes) : (Text.trimCodes xs).length ≤ xs.length := by
  have hback := (List.dropWhile_sublist (fun x : CodePoint => Text.isBlankCode x.val)
    (l := (xs.dropWhile fun x => Text.isBlankCode x.val).reverse)).length_le
  have hfront := (List.dropWhile_sublist (fun x : CodePoint => Text.isBlankCode x.val)
    (l := xs)).length_le
  rw [List.length_reverse] at hback
  rw [Text.trimCodes, List.length_reverse]
  exact hback.trans hfront

/-! ## Diagnoses -/

/-- A text that says something, has no white space around it and is not framed. -/
structure Codes.IsClean (xs : Codes) : Prop extends Codes.IsTrimmed xs where
  /-- There is something in it. -/
  nonempty : xs ≠ []
  /-- It does not start with the framing. -/
  unframed : ¬framing <+: xs

/-- What a diagnosis says when there is nothing else to say. -/
theorem isClean_unknown : (Codes.ofString "Unknown error").IsClean := by
  have hhead : (Codes.ofString "Unknown error").head? = some (CodePoint.ofChar 'U') := rfl
  have hlast : (Codes.ofString "Unknown error").getLast? = some (CodePoint.ofChar 'r') := rfl
  refine ⟨⟨fun x hx => ?_, fun x hx => ?_⟩, by decide, by decide⟩
  · obtain rfl := Option.some_inj.mp (hhead.symm.trans hx)
    decide
  · obtain rfl := Option.some_inj.mp (hlast.symm.trans hx)
    decide

/-- **The three things that a diagnosis can be**: that nothing is known, what stands behind the framing,
or the message without the white space around it. -/
theorem diagnosis_cases (message : Codes) :
    (Text.trimCodes message = [] ∧ diagnosis message = Codes.ofString "Unknown error") ∨
    (∃ rest, Text.trimCodes message = framing ++ rest ∧ rest ≠ [] ∧ diagnosis message = rest) ∨
    (Text.trimCodes message ≠ [] ∧ ¬framing <+: Text.trimCodes message ∧
      diagnosis message = Text.trimCodes message) := by
  have htrimmed := isTrimmed_trimCodes message
  simp only [diagnosis]
  generalize Text.trimCodes message = xs at htrimmed
  by_cases hframed : framing <+: xs
  · obtain ⟨rest, rfl⟩ := hframed
    -- the framing ends with white space, so there is something behind it
    have hne : rest ≠ [] := by
      rintro rfl
      exact absurd (htrimmed.stop (CodePoint.ofChar ' ') rfl) (by decide)
    rw [if_pos (List.isPrefixOf_iff_prefix.mpr (List.prefix_append framing rest)), List.drop_left,
      if_neg (by rwa [List.isEmpty_iff])]
    exact .inr (.inl ⟨rest, rfl, hne, rfl⟩)
  · rw [if_neg (mt List.isPrefixOf_iff_prefix.mp hframed)]
    by_cases hnil : xs = []
    · rw [if_pos (List.isEmpty_iff.mpr hnil)]
      exact .inl ⟨hnil, rfl⟩
    · rw [if_neg (mt List.isEmpty_iff.mp hnil)]
      exact .inr (.inr ⟨hnil, hframed, rfl⟩)

/-- **A text is clean** if and only if a diagnosis leaves it as it is. -/
theorem isClean_iff {xs : Codes} : xs.IsClean ↔ diagnosis xs = xs := by
  constructor
  · intro h
    have hself := trimCodes_eq_self_iff.mpr h.toIsTrimmed
    rcases diagnosis_cases xs with ⟨hnil, -⟩ | ⟨rest, hrest, -⟩ | ⟨-, -, heq⟩
    · exact absurd (hself.symm.trans hnil) h.nonempty
    · exact absurd ⟨rest, hrest.symm.trans hself⟩ h.unframed
    · exact heq.trans hself
  · intro h
    rcases diagnosis_cases xs with ⟨-, heq⟩ | ⟨rest, hrest, -, heq⟩ | ⟨hne, hframed, heq⟩
    · exact (heq.symm.trans h) ▸ isClean_unknown
    · -- a text cannot be framed and be what stands behind its own framing
      have hle := length_trimCodes_le xs
      rw [hrest, List.length_append, heq.symm.trans h] at hle
      exact absurd hle (by simp [framing, Codes.length_ofString])
    · have hself : Text.trimCodes xs = xs := heq.symm.trans h
      rw [hself] at hne hframed
      exact ⟨trimCodes_eq_self_iff.mp hself, hne, hframed⟩

theorem getLast?_diagnosis (message : Codes) :
    ∀ x ∈ (diagnosis message).getLast?, Text.isBlankCode x.val = false := by
  have hstop := (isTrimmed_trimCodes message).stop
  rcases diagnosis_cases message with ⟨-, heq⟩ | ⟨rest, hrest, hne, heq⟩ | ⟨-, -, heq⟩
  · exact heq ▸ isClean_unknown.stop
  · rw [hrest] at hstop
    intro x hx
    rw [heq] at hx
    exact hstop x (by rw [List.getLast?_append_of_ne_nil _ hne]; exact hx)
  · exact heq ▸ hstop

/-- The last code point of a text is there, and it is not white space. -/
def Codes.EndsVisibly (xs : Codes) : Prop :=
  ∃ x, xs.getLast? = some x ∧ Text.isBlankCode x.val = false

/-- **A diagnosis never ends with white space.** -/
theorem endsVisibly_diagnosis (message : Codes) : (diagnosis message).EndsVisibly := by
  have hlast := List.getLast?_eq_some_getLast (diagnosis_ne_nil message)
  exact ⟨_, hlast, getLast?_diagnosis message _ hlast⟩

/-- Behind the framing of a message there is neither white space nor another framing. -/
def IsFramedOnce (message : Codes) : Prop :=
  ∀ rest, Text.trimCodes message = framing ++ rest →
    (∀ x ∈ rest.head?, Text.isBlankCode x.val = false) ∧ ¬framing <+: rest

/-- **The messages with a clean diagnosis.** -/
theorem isClean_diagnosis_iff {message : Codes} :
    (diagnosis message).IsClean ↔ IsFramedOnce message := by
  have hstop := getLast?_diagnosis message
  have hne := diagnosis_ne_nil message
  rcases diagnosis_cases message with ⟨hnil, heq⟩ | ⟨rest, hrest, -, heq⟩ | ⟨-, hframed, heq⟩
  · refine iff_of_true (heq ▸ isClean_unknown) fun rest hrest => ?_
    exact absurd (hrest.symm.trans hnil) (by simp [framing, Codes.ofString, Codes.ofChars])
  · rw [heq] at hstop hne ⊢
    constructor
    · intro h rest' hrest'
      obtain rfl := List.append_cancel_left (hrest.symm.trans hrest')
      exact ⟨h.start, h.unframed⟩
    · intro h
      obtain ⟨hstart, hunframed⟩ := h rest hrest
      exact ⟨⟨hstart, hstop⟩, hne, hunframed⟩
  · refine iff_of_true ?_ fun rest hrest => absurd ⟨rest, hrest.symm⟩ hframed
    rw [heq] at hne ⊢
    exact ⟨isTrimmed_trimCodes message, hne, hframed⟩

/-! ## Back ends that cannot be built -/

/-- Why concrete trees cannot be read. -/
def GrammarState.cause? : GrammarState → Option String
  | .working => none
  | .broken message => some message
  | .absent message => some message

/-- How a failure to build a back end starts. -/
inductive IsOpening : String → Prop
  | grammar : IsOpening "tree-sitter grammar for python is unavailable: "
  | backend : IsOpening "tree-sitter backend is unavailable: "

/-- What is said about a grammar that does not work is an opening and the cause, as it is. -/
theorem Host.exists_cause_of_grammarFault? {host : Host} {message : String}
    (h : host.grammarFault? = some message) :
    ∃ opening cause, IsOpening opening ∧ host.grammar.cause? = some cause ∧
      message = opening ++ cause := by
  rw [grammarFault?] at h
  cases hgrammar : host.grammar with
  | working =>
    rw [hgrammar] at h
    cases h
  | broken cause =>
    rw [hgrammar] at h
    exact ⟨_, cause, .grammar, rfl, (Option.some_inj.mp h).symm⟩
  | absent cause =>
    rw [hgrammar] at h
    exact ⟨_, cause, .backend, rfl, (Option.some_inj.mp h).symm⟩

/-- An opening starts with something other than white space or the framing, and ends with white space. -/
theorem IsOpening.ends {opening : String} (h : IsOpening opening) :
    (∃ xs, Codes.ofString opening = CodePoint.ofChar 't' :: xs) ∧
      (Codes.ofString opening).getLast? = some (CodePoint.ofChar ' ') := by
  cases h <;> exact ⟨⟨_, rfl⟩, rfl⟩

/-- **A cause behind an opening**: the two of them are clean exactly if the cause ends visibly. -/
theorem IsOpening.isClean_append_iff {opening : String} (h : IsOpening opening) (cause : String) :
    (Codes.ofString (opening ++ cause)).IsClean ↔ (Codes.ofString cause).EndsVisibly := by
  obtain ⟨⟨xs, hstart⟩, hlast⟩ := h.ends
  have hgetLast : (Codes.ofString opening ++ Codes.ofString cause).getLast? =
      (Codes.ofString cause).getLast?.or (Codes.ofString opening).getLast? := List.getLast?_append
  rw [Codes.ofString_append]
  constructor
  · intro hclean
    cases hcause : (Codes.ofString cause).getLast? with
    | none =>
      -- without a cause the white space of the opening comes last
      rw [hcause, hlast, Option.none_or] at hgetLast
      exact absurd (hclean.stop _ hgetLast) (by decide)
    | some x =>
      rw [hcause, Option.some_or] at hgetLast
      exact ⟨x, hcause, hclean.stop x hgetLast⟩
  · rintro ⟨x, hx, hvisible⟩
    rw [hx, Option.some_or] at hgetLast
    have hcons : Codes.ofString opening ++ Codes.ofString cause =
        CodePoint.ofChar 't' :: (xs ++ Codes.ofString cause) := by rw [hstart, List.cons_append]
    refine ⟨⟨fun y hy => ?_, fun y hy => ?_⟩, by simp [hcons], fun hframed => ?_⟩
    · rw [hcons] at hy
      obtain rfl := Option.some_inj.mp hy
      decide
    · obtain rfl := Option.some_inj.mp (hgetLast.symm.trans hy)
      exact hvisible
    · rw [hcons] at hframed
      have hne : CodePoint.ofChar 'I' ≠ CodePoint.ofChar 't' := by decide
      exact hne (List.cons_prefix_cons.mp hframed).1

/-! ## Refusals -/

theorem Verdict.of_refused {message : Codes} {v : Verdict} (h : Verdict.refused message = .ok v) :
    v.valid = false ∧ Codes.ofString v.error = message := by
  rw [refused] at h
  cases hs : message.toString? with
  | none =>
    rw [hs] at h
    cases h
  | some s =>
    rw [hs] at h
    obtain rfl := Except.ok.inj h
    exact ⟨rfl, (Codes.toString?_eq_some_iff.mp hs).symm⟩

/-- A refusal of a back end is the diagnosis of what the back end says. -/
theorem Backend.exists_failure_of_check {b : Backend} {n : Nat} {source : Codes} {v : Verdict}
    (hv : (b.check n source).value = .ok v) (hrefused : v.valid = false) :
    ∃ failure, (b.answer n source).value = .error failure ∧
      Codes.ofString v.error = diagnosis failure.message := by
  rw [value_check] at hv
  cases hanswer : (b.answer n source).value with
  | ok nodes =>
    rw [hanswer] at hv
    obtain rfl := Except.ok.inj hv
    cases hrefused
  | error failure =>
    rw [hanswer] at hv
    cases failure with
    | unparsable message line => exact ⟨_, rfl, (Verdict.of_refused hv).2⟩
    | unavailable message => exact ⟨_, rfl, (Verdict.of_refused hv).2⟩
    | unspecific message => cases hv
    | foreign kind message => cases hv

namespace Session

variable {s : Session} {host : Host} {source : Codes}

/-- Without its back end, a session says why it has none: in these words, and not in a diagnosis. -/
theorem exists_cause_of_check {failure : Failure} (h : s.backendIn host = .error failure)
    {v : Verdict} (hv : (s.check host source).value.1 = .ok v) :
    ∃ opening cause, IsOpening opening ∧ host.grammar.cause? = some cause ∧
      v.error = opening ++ cause := by
  obtain ⟨message, hfault, rfl⟩ := exists_message_of_backendIn_eq_error h
  obtain ⟨opening, cause, hopening, hcause, rfl⟩ := Host.exists_cause_of_grammarFault? hfault
  rw [value_check, h] at hv
  exact ⟨opening, cause, hopening, hcause, Codes.ofString_inj.mp (Verdict.of_refused hv).2⟩

/-- **Which refusals of a check are clean.**  A refusal always says something, and it is clean exactly if
there is nothing in it to diagnose.  If the session has its back end, then the refusal is the diagnosis
of what the back end says, does not end with white space, and is clean exactly if that is not framed
twice and has no white space behind its framing.  If it has not, then the refusal is an opening and the
cause as it is, and is clean exactly if the cause ends visibly. -/
theorem refusals_clean_iff (s : Session) (host : Host) (source : Codes) {v : Verdict}
    (hv : (s.check host source).value.1 = .ok v) (hrefused : v.valid = false) :
    v.error ≠ "" ∧
    ((Codes.ofString v.error).IsClean ↔
      diagnosis (Codes.ofString v.error) = Codes.ofString v.error) ∧
    ((∃ b failure, s.backendIn host = .ok b ∧ (b.answer s.asked source).value = .error failure ∧
        Codes.ofString v.error = diagnosis failure.message ∧ (Codes.ofString v.error).EndsVisibly ∧
        ((Codes.ofString v.error).IsClean ↔ IsFramedOnce failure.message)) ∨
      ∃ failure opening cause, s.backendIn host = .error failure ∧ IsOpening opening ∧
        host.grammar.cause? = some cause ∧ v.error = opening ++ cause ∧
        ((Codes.ofString v.error).IsClean ↔ (Codes.ofString cause).EndsVisibly)) := by
  cases hb : s.backendIn host with
  | ok b =>
    have hsession : (s.check host source).value.1 = (b.check s.asked source).value := by
      rw [value_check, hb]
    obtain ⟨failure, hanswer, herror⟩ := Backend.exists_failure_of_check (hsession ▸ hv) hrefused
    refine ⟨fun hempty => ?_, isClean_iff,
      .inl ⟨b, failure, rfl, hanswer, herror, herror ▸ endsVisibly_diagnosis _, ?_⟩⟩
    · rw [hempty] at herror
      exact diagnosis_ne_nil _ herror.symm
    · rw [herror]
      exact isClean_diagnosis_iff
  | error failure =>
    obtain ⟨opening, cause, hopening, hcause, herror⟩ := exists_cause_of_check hb hv
    refine ⟨fun hempty => ?_, isClean_iff, .inr ⟨failure, opening, cause, rfl, hopening, hcause, herror,
      herror ▸ hopening.isClean_append_iff cause⟩⟩
    obtain ⟨⟨xs, hstart⟩, -⟩ := hopening.ends
    rw [(String.append_eq_empty_iff.mp (herror.symm.trans hempty)).1] at hstart
    cases hstart

/-- A session whose back end frames what it says twice. -/
def framedTwice : Session where
  settings := {}
  slot := .held
    { name := "framed", answer := fun _ _ => pure (.error (.unparsable
        (framing ++ (framing ++ Codes.ofString "no text")) .null)) }
  mode := .largest
  kinds := none

/-- A session that still has to build the back end for concrete trees. -/
def unbuilt : Session where
  settings := {}
  slot := .planned .concrete
  mode := .largest
  kinds := none

/-- Neither of these two sessions refuses a text cleanly: the one leaves a framing, and the other has no
back end and leaves the line end of the cause. -/
theorem framedTwice_unbuilt_unclean :
    (∃ v, (framedTwice.check Workspace.unreadyHost []).value.1 = .ok v ∧ v.valid = false ∧
      ¬(Codes.ofString v.error).IsClean) ∧
    ∃ v, (unbuilt.check { Workspace.unreadyHost with grammar := .broken "no network\n" } []).value.1 =
      .ok v ∧ v.valid = false ∧ ¬(Codes.ofString v.error).IsClean := by
  constructor
  · refine ⟨⟨false, "Invalid: no text"⟩, rfl, rfl, fun hclean => ?_⟩
    obtain ⟨-, -, ⟨b, failure, hb, hanswer, -, -, hiff⟩ | ⟨_, _, _, hb, -⟩⟩ :=
      refusals_clean_iff framedTwice Workspace.unreadyHost [] rfl rfl
    · obtain rfl := Except.ok.inj hb
      obtain rfl := Except.error.inj hanswer
      exact (hiff.mp hclean _ rfl).2 (List.prefix_append _ _)
    · cases hb
  · refine ⟨⟨false, "tree-sitter grammar for python is unavailable: no network\n"⟩, rfl, rfl,
      fun hclean => ?_⟩
    obtain ⟨-, -, ⟨_, _, hb, -⟩ | ⟨failure, opening, cause, -, -, hcause, -, hiff⟩⟩ :=
      refusals_clean_iff unbuilt
        { Workspace.unreadyHost with grammar := .broken "no network\n" } [] rfl rfl
    · cases hb
    · obtain rfl := Option.some_inj.mp hcause
      obtain ⟨x, hx, hvisible⟩ := hiff.mp hclean
      obtain rfl : CodePoint.ofChar '\n' = x := Option.some_inj.mp hx
      exact absurd hvisible (by decide)

end Session
end Enclosure
