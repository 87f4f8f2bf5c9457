import Enclosure.Proofs.Agreement
import Enclosure.Proofs.Contract
import Enclosure.Proofs.Histories

/-!
# What a check says and what a search finds

A check and a search stumble over the same things, a back end that cannot be had and a text that has
no nodes, but each has words and handlers of its own.  Both come to an end for all failures that are
expected; a refusal always says something; and a text that is refused is one in which nothing is ever
found.

What is here:

* `diagnosis_ne_nil`: a diagnosis is not empty.
* `exists_refusal`: a verdict on a text that is refused says why.
* `Backend.exists_verdict` and `Backend.exists_found`: what a back end with an expected answer makes of
  a check and of a search.
* `Session.check_and_find_agree`: the two of them in sessions with the same back end.
-/

set_option autoImplicit false

namespace Enclosure

/-! ## Refusals -/

/-- Whatever is left of a message, a diagnosis has something to say. -/
theorem diagnosis_ne_nil (message : Codes) : diagnosis message ≠ [] := by
  unfold diagnosis
  extract_lets trimmed bare
  split
  · exact List.cons_ne_nil _ _
  · next h => exact fun hnil => h (List.isEmpty_iff.mpr hnil)

/-- A message with something in it and without surrogates makes a verdict that says something. -/
theorem exists_refusal {message : Codes} (h : message.NoSurrogates) (hne : message ≠ []) :
    ∃ error, error ≠ "" ∧ Verdict.refused message = .ok ⟨false, error⟩ := by
  obtain ⟨cs, rfl⟩ := Codes.exists_ofChars_eq h
  refine ⟨String.ofList cs, ?_, ?_⟩
  · rw [ne_eq, String.ofList_eq_empty_iff]
    rintro rfl
    exact hne rfl
  · rw [Verdict.refused, Codes.toString?, Codes.toChars?_ofChars, Option.map_some]

/-! ## Back ends with an expected answer -/

namespace Backend

variable {b : Backend} {n : Nat} {source : Codes}

/-- A check comes to a verdict: the text is well formed if there are nodes, and if there are none the
verdict says why. -/
theorem exists_verdict (hkeeps : KeepsContract (b.answer n source).value)
    (hspoken : Spoken (b.answer n source).value) :
    ∃ v, (b.check n source).value = .ok v ∧
      (v.valid = true ↔ ∃ nodes, (b.answer n source).value = .ok nodes) ∧
      (v.error = "" ↔ v.valid = true) := by
  rw [value_check]
  revert hkeeps hspoken
  generalize (b.answer n source).value = answer
  have refusal {message : Codes} (hclean : message.NoSurrogates) {failure : Failure} :
      ∃ v, Verdict.refused (diagnosis message) = .ok v ∧
        (v.valid = true ↔ ∃ nodes : List Node, Except.error failure = .ok nodes) ∧
        (v.error = "" ↔ v.valid = true) := by
    obtain ⟨error, herror, hverdict⟩ :=
      exists_refusal (noSurrogates_diagnosis hclean) (diagnosis_ne_nil message)
    exact ⟨_, hverdict, by simp, by simp [herror]⟩
  rintro (nodes | ⟨message, line⟩ | message) hspoken
  · exact ⟨_, rfl, by simp, by simp⟩
  · exact refusal (hspoken _ rfl)
  · exact refusal (hspoken _ rfl)

/-- A search comes to an end, and finds nothing without nodes. -/
theorem exists_found (hkeeps : KeepsContract (b.answer n source).value) (range : LineRange)
    (mode : Mode) (kinds : Kinds) :
    ∃ found, (b.find n source range mode kinds).value = .ok found ∧
      ((¬∃ nodes, (b.answer n source).value = .ok nodes) → found = none) := by
  obtain ⟨found, hfound⟩ := exists_found_of_keepsContract hkeeps range mode kinds
  refine ⟨found, hfound, fun hnone => ?_⟩
  rw [value_find] at hfound
  revert hkeeps hfound hnone
  generalize (b.answer n source).value = answer
  rintro (nodes | ⟨message, line⟩ | message) hfound hnone
  · exact absurd ⟨nodes, rfl⟩ hnone
  · split at hfound <;> exact (Except.ok.inj hfound).symm
  · split at hfound <;> exact (Except.ok.inj hfound).symm

end Backend

/-! ## Sessions -/

namespace Session

/-- A check without a back end says why there is none, whatever the text. -/
theorem value_check_of_error {s : Session} {host : Host} {failure : Failure}
    (h : s.backendIn host = .error failure) :
    ∃ error, error ≠ "" ∧ ∀ source, (s.check host source).value.1 = .ok ⟨false, error⟩ := by
  obtain ⟨message, hfault, rfl⟩ := exists_message_of_backendIn_eq_error h
  have hne : message ≠ "" := by
    rintro rfl
    exact host.grammarFault?_ne_empty hfault
  refine ⟨message, hne, fun source => ?_⟩
  rw [value_check, h]
  simp only [Failure.isForeign, Bool.false_eq_true, if_false, Failure.message, Verdict.refused,
    Codes.toString?_ofString]

/-- A search without a back end finds nothing. -/
theorem value_find_of_error {s : Session} {host : Host} {failure : Failure}
    (h : s.backendIn host = .error failure) (source : Codes) (start stop : Int) :
    (s.find host source start stop).value.1 = .ok none := by
  obtain ⟨message, -, rfl⟩ := exists_message_of_backendIn_eq_error h
  rw [value_find, h]
  cases LineRange.ofLines? start stop <;> rfl

/-- **A check and a search agree** on what is well formed, whatever the session and whatever it looks
for, if its back end has one answer to the text, and one that is expected.  A check comes to a verdict:
the text is well formed exactly if the session has its back end and that has nodes to report, and
exactly then the verdict gives no reason.  A search comes to an end around any two lines, in this
session and in any other one with the same back end, and finds nothing in a text that is refused. -/
theorem check_and_find_agree (s : Session) (host : Host) (source : Codes)
    (hanswer : ∀ b, s.backendIn host = .ok b → ∃ answer, Backend.KeepsContract answer ∧
      Backend.Spoken answer ∧ ∀ n, (b.answer n source).value = answer) :
    ∃ v, (s.check host source).value.1 = .ok v ∧
      (v.valid = true ↔ ∃ b nodes, s.backendIn host = .ok b ∧
        (b.answer s.asked source).value = .ok nodes) ∧
      (v.error = "" ↔ v.valid = true) ∧
      ∀ (s' : Session) (host' : Host), s'.backendIn host' = s.backendIn host →
        ∀ start stop, ∃ found, (s'.find host' source start stop).value.1 = .ok found ∧
          (v.valid = false → found = none) := by
  cases hb : s.backendIn host with
  | error failure =>
    obtain ⟨error, hne, hcheck⟩ := value_check_of_error hb
    refine ⟨_, hcheck source, by simp, by simp [hne], fun s' host' hb' start stop => ?_⟩
    exact ⟨none, value_find_of_error hb' source start stop, fun _ => rfl⟩
  | ok b =>
    obtain ⟨answer, hkeeps, hspoken, heq⟩ := hanswer b hb
    obtain ⟨v, hcheck, hvalid, herror⟩ := Backend.exists_verdict
      ((heq s.asked).symm ▸ hkeeps) ((heq s.asked).symm ▸ hspoken)
    have hsession : (s.check host source).value.1 = (b.check s.asked source).value := by
      rw [value_check, hb]
    refine ⟨v, hsession.trans hcheck, ?_, herror, fun s' host' hb' start stop => ?_⟩
    · rw [hvalid]
      exact ⟨fun ⟨nodes, hnodes⟩ => ⟨b, nodes, rfl, hnodes⟩,
        fun ⟨c, nodes, hc, hnodes⟩ => ⟨nodes, Except.ok.inj hc ▸ hnodes⟩⟩
    · rw [value_find, hb']
      cases LineRange.ofLines? start stop with
      | none => exact ⟨none, rfl, fun _ => rfl⟩
      | some range =>
        obtain ⟨found, hfound, hnothing⟩ := Backend.exists_found
          ((heq s'.asked).symm ▸ hkeeps) range s'.mode s'.kinds
        refine ⟨found, hfound, fun hv => hnothing ?_⟩
        rw [heq s'.asked, ← heq s.asked, ← hvalid, hv]
        exact Bool.false_ne_true

/-- A session whose back end refuses every text, with words that are nothing but a frame. -/
def wordless : Session where
  settings := {}
  slot := .held
    { name := "wordless", answer := fun _ _ => pure (.error (.unparsable framing .null)) }
  mode := .largest
  kinds := some ["If"]

/-- This session still says something about a text, and finds nothing in it. -/
theorem wordless_refuses :
    (∀ b, wordless.backendIn Workspace.unreadyHost = .ok b → ∃ answer,
      Backend.KeepsContract answer ∧ Backend.Spoken answer ∧
        ∀ n, (b.answer n []).value = answer) ∧
    ∃ v, (wordless.check Workspace.unreadyHost []).value.1 = .ok v ∧ v.valid = false ∧
      v.error ≠ "" ∧ (wordless.find Workspace.unreadyHost [] 1 1).value.1 = .ok none := by
  have hanswer : ∀ b, wordless.backendIn Workspace.unreadyHost = .ok b → ∃ answer,
      Backend.KeepsContract answer ∧ Backend.Spoken answer ∧
        ∀ n, (b.answer n []).value = answer := by
    intro b hb
    obtain rfl := Except.ok.inj hb
    refine ⟨_, .unparsable framing .null, fun failure hfailure => ?_, fun n => rfl⟩
    obtain rfl := Except.error.inj hfailure
    exact Codes.noSurrogates_ofString "Invalid: "
  obtain ⟨v, hcheck, hvalid, herror, hfind⟩ :=
    check_and_find_agree wordless Workspace.unreadyHost [] hanswer
  have hrefused : v.valid = false := by
    rw [Bool.eq_false_iff, ne_eq, hvalid]
    rintro ⟨b, nodes, hb, hnodes⟩
    obtain rfl := Except.ok.inj hb
    cases hnodes
  obtain ⟨found, hfound, hnothing⟩ := hfind wordless Workspace.unreadyHost rfl 1 1
  rw [hnothing hrefused] at hfound
  exact ⟨hanswer, v, hcheck, hrefused, fun h => by simp [herror.mp h] at hrefused, hfound⟩

end Session
end Enclosure
