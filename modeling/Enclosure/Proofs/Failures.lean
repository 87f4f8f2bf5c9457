import Enclosure.Proofs.Verdicts

/-!
# Failures that get past a search or a check

A back end may fail in three ways that are its own, or in a foreign one.  A search takes all three of
them for a text in which nothing is found.  A check has a handler for two of them only: a failure that
says no more than that it is one of the family gets past it, and so does a message that cannot be
repeated in a verdict, because there are surrogates in it.  This file says exactly what a search and a
check come to, for every answer that a back end can give.

What is here:

* `noSurrogates_diagnosis_iff`: a diagnosis can be repeated if and only if the message can.
* `Verdict.refused_eq_error`: what comes of a message that cannot.
* `Backend.exists_found_iff`: the answers after which a search comes to an end.
* `Backend.exists_verdict_iff`: the answers after which a check comes to a verdict.
* `Backend.failures_absorbed_iff`: all of it together.
-/

set_option autoImplicit false

namespace Enclosure

/-! ## Messages that can be repeated -/

/-- White space is no surrogate. -/
theorem isSurrogate_of_isBlankCode {x : CodePoint} (h : Text.isBlankCode x.val = true) :
    x.isSurrogate = false := by
  simp only [Text.isBlankCode, Bool.or_eq_true, Bool.and_eq_true, decide_eq_true_eq, beq_iff_eq] at h
  simp only [CodePoint.isSurrogate, Bool.and_eq_false_iff, decide_eq_false_iff_not]
  omega

theorem noSurrogates_of_dropWhile_isBlankCode {xs : Codes}
    (h : Codes.NoSurrogates (xs.dropWhile fun x => Text.isBlankCode x.val)) : xs.NoSurrogates := by
  intro x hx
  rw [← List.takeWhile_append_dropWhile (p := fun x : CodePoint => Text.isBlankCode x.val) (l := xs),
    List.mem_append] at hx
  rcases hx with hx | hx
  · have hblank : Text.isBlankCode x.val = true := by simpa using List.mem_takeWhile_imp hx
    exact isSurrogate_of_isBlankCode hblank
  · exact h x hx

theorem noSurrogates_of_trimCodes {xs : Codes} (h : (Text.trimCodes xs).NoSurrogates) :
    xs.NoSurrogates := by
  have hend : Codes.NoSurrogates (xs.dropWhile fun x => Text.isBlankCode x.val).reverse :=
    noSurrogates_of_dropWhile_isBlankCode fun x hx => h x (List.mem_reverse.mpr hx)
  exact noSurrogates_of_dropWhile_isBlankCode fun x hx => hend x (List.mem_reverse.mpr hx)

/-- **A diagnosis holds every surrogate of its message**: what is cut off is white space and framing. -/
theorem noSurrogates_diagnosis_iff {message : Codes} :
    (diagnosis message).NoSurrogates ↔ message.NoSurrogates := by
  refine ⟨fun h => noSurrogates_of_trimCodes ?_, noSurrogates_diagnosis⟩
  unfold diagnosis at h
  extract_lets trimmed bare at h
  have hbare : Codes.NoSurrogates bare := by
    split at h
    · next hempty =>
      rw [List.isEmpty_iff.mp hempty]
      exact fun _ hx => absurd hx List.not_mem_nil
    · exact h
  by_cases hframed : framing.isPrefixOf trimmed = true
  · obtain ⟨rest, hrest⟩ := List.isPrefixOf_iff_prefix.mp hframed
    have hdrop : bare = rest := by
      rw [show bare = trimmed.drop framing.length from if_pos hframed, ← hrest, List.drop_left]
    intro x hx
    rw [show Text.trimCodes message = framing ++ rest from hrest.symm, List.mem_append] at hx
    exact hx.elim (Codes.noSurrogates_ofString _ x) (hdrop ▸ hbare x)
  · rwa [show bare = trimmed from if_neg hframed] at hbare

/-- **A message with surrogates makes no verdict.** -/
theorem Verdict.refused_eq_error {message : Codes} (h : ¬message.NoSurrogates) :
    Verdict.refused message =
      .error (.invalid (Fault.message ⟨[.field "error"], .brokenText, .text message⟩)) := by
  rw [refused, Codes.toString?_eq_none_iff.mpr h]

/-! ## What comes of an answer -/

namespace Backend

variable {b : Backend} {n : Nat} {source : Codes}

/-- An expected failure is no tree to find anything in. -/
theorem value_find_of_not_isForeign {failure : Failure} (h : (b.answer n source).value = .error failure)
    (hfamily : failure.isForeign = false) (range : LineRange) (mode : Mode) (kinds : Kinds) :
    (b.find n source range mode kinds).value = .ok none := by
  rw [value_find, h]
  simp only [hfamily, Bool.false_eq_true, if_false, ite_self]

/-- **A search comes to an end** unless it asks a back end that fails in a foreign way. -/
theorem exists_found_iff (range : LineRange) (mode : Mode) (kinds : Kinds) :
    (∃ found, (b.find n source range mode kinds).value = .ok found) ↔
      range.isEmpty = true ∨
        ∀ failure, (b.answer n source).value = .error failure → failure.isForeign = false := by
  cases hanswer : (b.answer n source).value with
  | ok nodes =>
    refine iff_of_true ?_ (.inr (by simp))
    rw [value_find, hanswer]
    split <;> exact ⟨_, rfl⟩
  | error failure =>
    simp only [Except.error.injEq, forall_eq']
    cases hfamily : failure.isForeign with
    | false => exact iff_of_true ⟨none, value_find_of_not_isForeign hanswer hfamily _ _ _⟩ (.inr rfl)
    | true =>
      rw [value_find, hanswer]
      simp only [hfamily, if_true]
      cases range.isEmpty <;> simp

/-- **A check comes to a verdict** if and only if there are nodes, or one of the two failures that it
has a handler for with a message that can be repeated. -/
theorem exists_verdict_iff :
    (∃ v, (b.check n source).value = .ok v) ↔
      KeepsContract (b.answer n source).value ∧ Spoken (b.answer n source).value := by
  refine ⟨?_, fun ⟨hkeeps, hspoken⟩ =>
    (exists_verdict hkeeps hspoken).imp fun v hv => hv.1⟩
  have hrepeated {message : Codes} (h : ∃ v, Verdict.refused (diagnosis message) = .ok v) :
      message.NoSurrogates := by
    by_contra hbroken
    obtain ⟨v, hv⟩ := h
    rw [Verdict.refused_eq_error (mt noSurrogates_diagnosis_iff.mp hbroken)] at hv
    cases hv
  rw [value_check]
  cases (b.answer n source).value with
  | ok nodes => exact fun _ => ⟨.nodes nodes, fun _ hfailure => by cases hfailure⟩
  | error failure =>
    cases failure with
    | unparsable message line =>
      exact fun h => ⟨.unparsable message line, fun _ hf => Except.error.inj hf ▸ hrepeated h⟩
    | unavailable message =>
      exact fun h => ⟨.unavailable message, fun _ hf => Except.error.inj hf ▸ hrepeated h⟩
    | unspecific message => exact fun ⟨v, hv⟩ => by cases hv
    | foreign kind message => exact fun ⟨v, hv⟩ => by cases hv

/-- **What a search and a check make of the answer of a back end.**  A search comes to an end after
nodes and after every failure of the family, and finds nothing after a failure.  A check comes to a
verdict, which is good exactly if there are nodes, in fewer cases: the failure has to be one of the two
that say more, and its message has to be free of surrogates.  Otherwise the failure gets past the
check, as it is or as a verdict that cannot be made. -/
theorem failures_absorbed_iff (b : Backend) (n : Nat) (source : Codes) :
    (∀ range mode kinds,
      ((∃ found, (b.find n source range mode kinds).value = .ok found) ↔
        range.isEmpty = true ∨
          ∀ failure, (b.answer n source).value = .error failure → failure.isForeign = false) ∧
      ∀ failure, (b.answer n source).value = .error failure → failure.isForeign = false →
        (b.find n source range mode kinds).value = .ok none) ∧
    ((∃ v, (b.check n source).value = .ok v) ↔
      KeepsContract (b.answer n source).value ∧ Spoken (b.answer n source).value) ∧
    (∀ v, (b.check n source).value = .ok v →
      (v.valid = true ↔ ∃ nodes, (b.answer n source).value = .ok nodes)) ∧
    (∀ message, (b.answer n source).value = .error (.unspecific message) →
      (b.check n source).value = .error (.unspecific message)) ∧
    (∀ failure, (b.answer n source).value = .error failure →
      KeepsContract (b.answer n source).value → ¬failure.message.NoSurrogates →
      (b.check n source).value = .error (.invalid (Fault.message
        ⟨[.field "error"], .brokenText, .text (diagnosis failure.message)⟩))) := by
  refine ⟨fun range mode kinds => ⟨exists_found_iff range mode kinds, fun failure hanswer hfamily =>
    value_find_of_not_isForeign hanswer hfamily range mode kinds⟩, exists_verdict_iff,
    fun v hv => ?_, fun message hanswer => ?_, fun failure hanswer hkeeps hbroken => ?_⟩
  · obtain ⟨hkeeps, hspoken⟩ := exists_verdict_iff.mp ⟨v, hv⟩
    obtain ⟨v', hv', hvalid, -⟩ := exists_verdict hkeeps hspoken
    obtain rfl := Except.ok.inj (hv.symm.trans hv')
    exact hvalid
  · rw [value_check, hanswer]
  · have hrefused := Verdict.refused_eq_error (mt noSurrogates_diagnosis_iff.mp hbroken)
    rw [value_check, hanswer]
    rw [hanswer] at hkeeps
    cases hkeeps with
    | unparsable message line => exact hrefused
    | unavailable message => exact hrefused

/-- A back end that always fails in the same way, which is expected but says nothing more. -/
def unspecificBackend (message : Codes) : Backend where
  name := "odd"
  answer := fun _ _ => pure (.error (.unspecific message))

/-- A search finds nothing with such a back end, but a check comes to no verdict. -/
theorem unspecificBackend_unabsorbed :
    ((unspecificBackend (Codes.ofString "boom")).find 0 [] ⟨1, 1, by decide, by decide⟩ .largest
      none).value = .ok none ∧
    ((unspecificBackend (Codes.ofString "boom")).check 0 []).value =
      .error (.unspecific (Codes.ofString "boom")) := by
  obtain ⟨hfind, -, -, hcheck, -⟩ :=
    failures_absorbed_iff (unspecificBackend (Codes.ofString "boom")) 0 []
  exact ⟨(hfind _ _ _).2 _ rfl rfl, hcheck _ rfl⟩

end Backend
end Enclosure
