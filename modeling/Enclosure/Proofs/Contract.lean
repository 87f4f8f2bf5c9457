import Enclosure.Backend.Interpreter
import Enclosure.Proofs.Json.Limits
import Enclosure.Proofs.Lookup
import Enclosure.Proofs.Utf8

/-!
# The failures of the back end for another interpreter

Whatever the other program does, the back end has nodes to report, or it says that the text is not
well formed or that the program could not be used.  There are two exceptions: the attempt to start
the program may fail in a way of its own, and the reader of documents gives up on one that exceeds
its limits, which nobody expects.

What is here:

* `Backend.KeepsContract`: answers that the callers of a back end expect.
* `Ending.IsUncaught`: the endings of a program after which there is another one.
* `Report.keepsContract_ofEnding` and `Report.ofEnding_of_isUncaught`: these are all.
* `Backend.interpreter_keeps_contract_iff`: what this means for an answer and for a search.
* `Ending.isUncaught_of_brackets` and `Ending.isUncaught_of_digits`: outputs that exceed the limits.
-/

set_option autoImplicit false

namespace Enclosure

/-- An answer that the callers of a back end expect: nodes, or a failure that says that the text is
not well formed or that the back end could not be used. -/
inductive Backend.KeepsContract : Except Failure (List Node) → Prop
  | nodes (ns : List Node) : KeepsContract (.ok ns)
  | unparsable (message : Codes) (line : Json) : KeepsContract (.error (.unparsable message line))
  | unavailable (message : Codes) : KeepsContract (.error (.unavailable message))

/-- An ending of a program after which the back end fails in another way: starting it failed for
none of the usual reasons, or it has written a document that exceeds the limits of a reader with so
many levels. -/
inductive Ending.IsUncaught (levels : Nat) : Ending → Prop
  | failed (kind message : String) : IsUncaught levels (.failed kind message)
  | exceeding (output diagnostics : Bytes) (text : Codes) (hdecode : decodeAny output = .ok text)
    (h : Json.ExceedsLimits levels text) : IsUncaught levels (.exited 0 output diagnostics)

/-! ## One ending -/

namespace Report

open Backend

variable {levels : Nat}

/-- A document is understood, or it is no report; both are expected. -/
theorem keepsContract_ofDocument (program : String) (document : Json) :
    KeepsContract (ofDocument program document) := by
  unfold ofDocument
  split
  · split
    · exact .unparsable _ _
    · cases nodesOf _ with
      | ok ns => exact .nodes ns
      | error e => exact .unavailable _
  · exact .unavailable _

theorem keepsContract_ofOutput (program : String) {output : Bytes}
    (h : ∀ text, decodeAny output = .ok text → ¬Json.ExceedsLimits levels text) :
    KeepsContract (ofOutput program output levels) := by
  unfold ofOutput
  cases hdecode : decodeAny output with
  | error fault => exact .unavailable _
  | ok text =>
    have hlimit := h text hdecode
    simp only
    cases hread : Json.readWithin levels text with
    | ok document => exact keepsContract_ofDocument program document
    | error fault =>
      cases fault with
      | malformed reason place => exact .unavailable _
      | tooDeep what => exact absurd (.inl ⟨what, hread⟩) hlimit
      | tooLong digits => exact absurd (.inr ⟨digits, hread⟩) hlimit

theorem ofOutput_of_exceedsLimits (program : String) {output : Bytes} {text : Codes}
    (hdecode : decodeAny output = .ok text) (h : Json.ExceedsLimits levels text) :
    ∃ kind message, ofOutput program output levels = .error (.foreign kind message) := by
  obtain ⟨what, hread⟩ | ⟨digits, hread⟩ := h
  · refine ⟨"RecursionError", Codes.ofString ((JsonFault.tooDeep what).message text), ?_⟩
    simp only [ofOutput, hdecode, hread]
  · refine ⟨"ValueError", Codes.ofString ((JsonFault.tooLong digits).message text), ?_⟩
    simp only [ofOutput, hdecode, hread]

/-- **The endings that are expected**: all but those that are uncaught. -/
theorem keepsContract_ofEnding (launch : Launch) {ending : Ending} (h : ¬ending.IsUncaught levels) :
    KeepsContract (ofEnding launch ending levels) := by
  cases ending with
  | notFound => exact .unavailable _
  | timedOut => exact .unavailable _
  | refused reason => exact .unavailable _
  | failed kind message => exact absurd (.failed kind message) h
  | exited status output diagnostics =>
    simp only [ofEnding]
    split
    · next hstatus =>
      subst hstatus
      exact keepsContract_ofOutput _ fun text hdecode hlimit =>
        h (.exceeding output diagnostics text hdecode hlimit)
    · exact .unavailable _

/-- **The others** end in a failure of a foreign kind. -/
theorem ofEnding_of_isUncaught (launch : Launch) {ending : Ending} (h : ending.IsUncaught levels) :
    ∃ kind message, ofEnding launch ending levels = .error (.foreign kind message) := by
  cases h with
  | failed kind message => exact ⟨kind, _, rfl⟩
  | exceeding output diagnostics text hdecode hlimit =>
    obtain ⟨kind, message, houtput⟩ := ofOutput_of_exceedsLimits launch.program hdecode hlimit
    exact ⟨kind, message, by rw [ofEnding, if_pos rfl, houtput]⟩

end Report

/-! ## Answers and searches -/

namespace Backend

variable {b : Backend} {n : Nat} {source : Codes}

theorem exists_found_of_keepsContract (h : KeepsContract (b.answer n source).value)
    (range : LineRange) (mode : Mode) (kinds : Kinds) :
    ∃ found, (b.find n source range mode kinds).value = .ok found := by
  rw [value_find]
  revert h
  generalize (b.answer n source).value = answer
  rintro (ns | ⟨message, line⟩ | message)
  · split <;> exact ⟨_, rfl⟩
  · split <;> exact ⟨_, rfl⟩
  · split <;> exact ⟨_, rfl⟩

theorem value_find_of_foreign {kind : String} {message : Codes}
    (h : (b.answer n source).value = .error (.foreign kind message)) {range : LineRange}
    (hrange : range.isEmpty = false) (mode : Mode) (kinds : Kinds) :
    (b.find n source range mode kinds).value = .error (.foreign kind message) := by
  rw [value_find, h, hrange]
  rfl

theorem value_answer_interpreter_eq_ofEnding (start : Launch → Ending) (program : String)
    (timeout : Option Seconds) (levels n : Nat) (source : Codes) :
    ((Backend.interpreter start program timeout levels).answer n source).value =
      Report.ofEnding (launchFor program timeout source)
        (start (launchFor program timeout source)) levels := rfl

/-- **The back end keeps to its contract** unless the program could not be started for none of the
usual reasons, or has written, with status 0, a document that exceeds the limits of the reader,
however many levels that has room for.  A search that asks it at all fails in exactly these cases.
The document has then more opening brackets than there are levels, or more digits in a row than a
number may have. -/
theorem interpreter_keeps_contract_iff (start : Launch → Ending) (program : String)
    (timeout : Option Seconds) (levels : Nat) (source : Codes) (n : Nat) :
    (KeepsContract ((Backend.interpreter start program timeout levels).answer n source).value ↔
      ¬(start (launchFor program timeout source)).IsUncaught levels) ∧
    (∀ range mode kinds,
      (∃ found, ((Backend.interpreter start program timeout levels).find n source range mode
        kinds).value = .ok found) ↔
      range.isEmpty = true ∨ ¬(start (launchFor program timeout source)).IsUncaught levels) ∧
    (∀ status output diagnostics,
      start (launchFor program timeout source) = .exited status output diagnostics →
      (start (launchFor program timeout source)).IsUncaught levels →
      status = 0 ∧ ∃ text, decodeAny output = .ok text ∧
        (levels < text.countP Json.opens ∨
          ∃ k, Json.maxDigits < k ∧ Json.HasDigits k text)) := by
  have hvalue := value_answer_interpreter_eq_ofEnding start program timeout levels n source
  have hcaught : ¬(start (launchFor program timeout source)).IsUncaught levels →
      KeepsContract ((Backend.interpreter start program timeout levels).answer n source).value := by
    rw [hvalue]
    exact Report.keepsContract_ofEnding _
  have huncaught : (start (launchFor program timeout source)).IsUncaught levels →
      ∃ kind message, ((Backend.interpreter start program timeout levels).answer n source).value =
        .error (.foreign kind message) := by
    rw [hvalue]
    exact Report.ofEnding_of_isUncaught _
  refine ⟨⟨fun hkeeps h => ?_, hcaught⟩, fun range mode kinds => ⟨fun hfound => ?_, ?_⟩, ?_⟩
  · obtain ⟨kind, message, hanswer⟩ := huncaught h
    rw [hanswer] at hkeeps
    cases hkeeps
  · by_contra hneither
    obtain ⟨hrange, h⟩ := not_or.mp hneither
    obtain ⟨kind, message, hanswer⟩ := huncaught (not_not.mp h)
    obtain ⟨found, hfound⟩ := hfound
    rw [value_find_of_foreign hanswer (Bool.not_eq_true _ ▸ hrange)] at hfound
    cases hfound
  · rintro (hrange | h)
    · exact ⟨none, by rw [value_find, if_pos hrange]⟩
    · exact exists_found_of_keepsContract (hcaught h) range mode kinds
  · intro status output diagnostics hstart h
    rw [hstart] at h
    cases h with
    | exceeding _ _ text hdecode hlimit =>
      exact ⟨rfl, text, hdecode, hlimit.brackets_or_digits⟩

end Backend

/-! ## Outputs that exceed the limits -/

namespace Ending

variable {levels : Nat}

/-- **Brackets**: an output that starts with more of them than there are levels, whatever comes
then. -/
theorem isUncaught_of_brackets {k : Nat} (hlevels : 0 < levels) (hk : levels < k) (rest : Codes)
    (diagnostics : Bytes) :
    IsUncaught levels
      (.exited 0 (Utf8.encode (List.replicate k (.ofChar '[') ++ rest)) diagnostics) := by
  refine .exceeding _ _ _ ?_ (.inl ⟨"array", Json.readWithin_of_brackets hk rest⟩)
  -- the first two brackets tell the encoding
  obtain ⟨k, rfl⟩ : ∃ j, k = j + 2 := ⟨k - 2, by omega⟩
  rw [List.replicate_succ, List.replicate_succ, List.cons_append, List.cons_append]
  exact decodeAny_encode _ (by decide) (by decide) (by decide) (by decide)

/-- **Digits**: an output that is a row of more of them than a number may have. -/
theorem isUncaught_of_digits {x y : CodePoint} {run : Codes} (hzero : x ≠ .ofChar '0')
    (hdigits : ∀ z ∈ x :: y :: run, Json.isDigit z = true)
    (hlong : Json.maxDigits < (x :: y :: run).length) (diagnostics : Bytes) :
    IsUncaught levels (.exited 0 (Utf8.encode (x :: y :: run)) diagnostics) := by
  have hvalue : ∀ z ∈ x :: y :: run, 0 < z.val ∧ z.val < 0x80 := by
    intro z hz
    have hdigit := hdigits z hz
    rw [Json.isDigit, Bool.and_eq_true, decide_eq_true_eq, decide_eq_true_eq] at hdigit
    omega
  refine .exceeding _ _ _ ?_ (.inr ⟨_, Json.readWithin_of_digits hzero hdigits hlong⟩)
  obtain ⟨hx, hx'⟩ := hvalue x (by simp)
  obtain ⟨hy, hy'⟩ := hvalue y (by simp)
  exact decodeAny_encode run hx hx' hy hy'

end Ending
end Enclosure
