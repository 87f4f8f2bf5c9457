import Enclosure.Lookup
import Enclosure.Proofs.Choice
import Enclosure.Proofs.Codes

/-!
# What a search and a check answer

A search and a check are read off what the back end answers.  Each has one equation here, so nothing
else has to look into how the journal is kept on the way.

What is here:

* `Node.exists_context?_of_contains`: a node that takes part in a search has a context.
* `exists_verdict_of_noSurrogates`: the verdict on a text that is refused.
* `Backend.value_find`: the answer to a search.
* `Backend.value_check`: the answer to a check.
-/

set_option autoImplicit false

namespace Enclosure

theorem Node.exists_context?_of_contains {n : Node} {range : LineRange}
    (h : n.contains range = true) : ∃ c, n.context? = some c := by
  obtain ⟨first, last, hs, -, -⟩ := (contains_eq_true_iff n range).mp h
  exact ⟨_, by rw [context?, hs, Option.map_some]⟩

/-- What a search finds is one of the nodes, and it takes part. -/
theorem isEligible_of_select_eq_some {nodes : List Node} {range : LineRange} {mode : Mode}
    {kinds : Kinds} {n : Node} (h : select nodes range mode kinds = some n) :
    n ∈ nodes ∧ n.IsEligible range kinds := by
  rw [select, selectBy] at h
  split at h
  · exact absurd h (by simp)
  · obtain ⟨before, w, after, rfl, hbest⟩ := (Mode.choose_eq_some_iff _ _ _ _).mp h
    exact ⟨by simp, ((Node.eligibleWidth?_eq_some_iff _ _ _ _).mp hbest.width_eq).1⟩

/-! ## Verdicts -/

theorem trimCodes_subset (xs : Codes) : Text.trimCodes xs ⊆ xs := by
  intro x hx
  have hback := (List.dropWhile_sublist _).subset (List.mem_reverse.mp hx)
  exact (List.dropWhile_sublist _).subset (List.mem_reverse.mp hback)

theorem noSurrogates_diagnosis {message : Codes} (h : message.NoSurrogates) :
    (diagnosis message).NoSurrogates := by
  have htrim : (Text.trimCodes message).NoSurrogates := h.of_subset (trimCodes_subset message)
  have hdrop : Codes.NoSurrogates ((Text.trimCodes message).drop framing.length) :=
    htrim.of_subset (List.drop_subset _ _)
  simp only [diagnosis]
  by_cases hframed : framing.isPrefixOf (Text.trimCodes message) = true
  · rw [if_pos hframed]
    split
    · exact Codes.noSurrogates_ofString _
    · exact hdrop
  · rw [if_neg hframed]
    split
    · exact Codes.noSurrogates_ofString _
    · exact htrim

/-- A message without surrogates makes a verdict, and the text is not well formed. -/
theorem exists_verdict_of_noSurrogates {message : Codes} (h : message.NoSurrogates) :
    ∃ v, Verdict.refused (diagnosis message) = .ok v ∧ v.valid = false := by
  obtain ⟨s, hs⟩ := Codes.toString?_eq_some_of_noSurrogates (noSurrogates_diagnosis h)
  exact ⟨⟨false, s⟩, by rw [Verdict.refused, hs], rfl⟩

/-! ## Answers -/

namespace Backend

theorem value_ask (b : Backend) (earlier : Nat) (source : Codes) :
    (b.ask earlier source).value = (b.answer earlier source).value := rfl

/-- **The answer to a search**: nothing for an empty range, the chosen node of a tree, nothing for
an expected failure, and a foreign failure as it is. -/
theorem value_find (b : Backend) (earlier : Nat) (source : Codes) (range : LineRange) (mode : Mode)
    (kinds : Kinds) :
    (b.find earlier source range mode kinds).value =
      if range.isEmpty then .ok none
      else
        match (b.answer earlier source).value with
        | .ok nodes => .ok ((select nodes range mode kinds).bind Node.context?)
        | .error failure => if failure.isForeign then .error failure else .ok none := by
  rw [find]
  split
  · rfl
  · rw [Traced.value_bind, value_ask]
    cases (b.answer earlier source).value with
    | error failure => cases h : failure.isForeign <;> simp [h]
    | ok nodes =>
      cases hsel : select nodes range mode kinds with
      | none => simp [hsel]
      | some n =>
        obtain ⟨c, hc⟩ := n.exists_context?_of_contains (isEligible_of_select_eq_some hsel).2.1
        simp [hsel, hc, Node.toContext, Except.map]

/-- **The answer to a check.** -/
theorem value_check (b : Backend) (earlier : Nat) (source : Codes) :
    (b.check earlier source).value =
      match (b.answer earlier source).value with
      | .ok _ => .ok ⟨true, ""⟩
      | .error (.unparsable message _) => Verdict.refused (diagnosis message)
      | .error (.unavailable message) => Verdict.refused (diagnosis message)
      | .error failure => .error failure := by
  rw [check, Traced.value_bind, value_ask]
  cases (b.answer earlier source).value with
  | ok nodes => rfl
  | error failure => cases failure <;> rfl

end Backend
end Enclosure
