import Enclosure.Proofs.Diagnoses

/-!
# Which failures leave a warning

A search that fails looks like a search that found nothing, and a check without its back end looks like
a check of a bad text.  Only the journal tells them apart: whoever keeps a failure to himself writes a
warning that names the back end and says what failed.  A search does so for every failure of the
family, whether the back end could not be built or could not answer.  A check does so for a back end
that it could ask and that could not be used, and stays silent about one that could not be built.

A back end may write warnings of its own while it answers.  They come first, and everything below counts
what a search or a check adds to them; the back ends that a host builds write none.

What is here:

* `Traced.warnings`: the warnings among some events.
* `Notice.Reports`: a warning about a back end and a failure.
* `Backend.warnings_find` and `Backend.warnings_check`: what a back end with an answer adds.
* `Session.failureIn`: the failure that a session comes up against.
* `Session.warnings_find` and `Session.warnings_check`: what a session adds.
* `Session.absorbed_failures_warned`: which failures leave a warning, and what it says.
-/

set_option autoImplicit false

namespace Enclosure

/-! ## Warnings -/

namespace Traced

/-- The warnings among some events. -/
def warnings (events : List Event) : List Notice :=
  (notices events).filter fun n => n.level = .warning

theorem warnings_append (es fs : List Event) : warnings (es ++ fs) = warnings es ++ warnings fs := by
  rw [warnings, notices, List.filterMap_append, List.filter_append]
  rfl

end Traced

open Traced (warnings warnings_append)

/-- A notice is a warning that names a back end and repeats what is said about a failure. -/
structure Notice.Reports (n : Notice) (name : String) (cause : Codes) : Prop where
  /-- It is a warning. -/
  level_eq : n.level = .warning
  /-- The back end is named in it. -/
  names : Codes.ofString name <:+: n.text
  /-- It says what failed. -/
  tells : cause <:+: n.text

theorem Notice.searchFailed_reports (name : String) (cause : Codes) :
    (Notice.searchFailed name cause).Reports name cause := by
  refine ⟨rfl, ?_, (List.suffix_append _ cause).isInfix⟩
  rw [Notice.text, Codes.ofString_append, Codes.ofString_append]
  exact ⟨_, Codes.ofString " backend: " ++ cause, (List.append_assoc _ _ cause).symm⟩

theorem Notice.checkFailed_reports (name : String) (cause : Codes) :
    (Notice.checkFailed name cause).Reports name cause := by
  refine ⟨rfl, ?_, (List.suffix_append _ cause).isInfix⟩
  rw [Notice.text, Codes.ofString_append, List.append_assoc]
  exact (List.infix_append' [] _ _)

/-! ## Back ends that answer -/

namespace Backend

variable (b : Backend) (n : Nat) (source : Codes)

theorem warnings_ask :
    warnings (b.ask n source).events = warnings (b.answer n source).events := by
  rw [ask, Traced.events_bind, warnings_append]
  rfl

/-- **A search adds one warning** for a failure that it keeps to itself, and none otherwise. -/
theorem warnings_find {range : LineRange} (hrange : range.isEmpty = false) (mode : Mode)
    (kinds : Kinds) :
    warnings (b.find n source range mode kinds).events =
      warnings (b.answer n source).events ++
        match (b.answer n source).value with
        | .ok _ => []
        | .error failure =>
          if failure.isForeign then [] else [.searchFailed b.name failure.message] := by
  rw [find, if_neg (by rw [hrange]; exact Bool.false_ne_true), Traced.events_bind, warnings_append,
    warnings_ask, value_ask]
  congr 1
  cases (b.answer n source).value with
  | ok nodes =>
    simp only
    cases select nodes range mode kinds <;> rfl
  | error failure =>
    simp only
    cases failure.isForeign <;> rfl

/-- **A check adds one warning** if its back end could not be used, and none otherwise. -/
theorem warnings_check :
    warnings (b.check n source).events =
      warnings (b.answer n source).events ++
        match (b.answer n source).value with
        | .error (.unavailable message) => [.checkFailed b.name message]
        | _ => [] := by
  rw [check, Traced.events_bind, warnings_append, warnings_ask, value_ask]
  congr 1
  cases (b.answer n source).value with
  | ok nodes => rfl
  | error failure => cases failure <;> rfl

end Backend

/-- What a host builds writes no warnings while it answers. -/
theorem Host.warnings_answer_of_build {h : Host} {e : Settings} {kind : BackendKind} {b : Backend}
    (hb : h.build e kind = .ok b) (n : Nat) (source : Codes) :
    warnings (b.answer n source).events = [] := by
  cases kind with
  | abstract => obtain rfl := Except.ok.inj hb; rfl
  | interpreter => obtain rfl := Except.ok.inj hb; rfl
  | concrete =>
    obtain rfl := Except.ok.inj (build_repaired hb)
    simp only [Backend.concrete]
    split <;> rfl

/-! ## Sessions -/

namespace Session

variable {s : Session} {host : Host} {source : Codes}

/-- The failure that a question about a text comes up against: the back end cannot be built, or it has
no nodes to report. -/
def failureIn (s : Session) (host : Host) (source : Codes) : Option Failure :=
  match s.backendIn host with
  | .error failure => some failure
  | .ok b =>
    match (b.answer s.asked source).value with
    | .error failure => some failure
    | .ok _ => none

/-- The warnings that the back end of a session writes itself. -/
def ownWarnings (s : Session) (host : Host) (source : Codes) : List Notice :=
  match s.backendIn host with
  | .error _ => []
  | .ok b => warnings (b.answer s.asked source).events

theorem backendName_of_backendIn_eq_error {failure : Failure} (h : s.backendIn host = .error failure) :
    s.backendName = "tree-sitter" := by
  rw [backendIn] at h
  rw [backendName]
  cases hslot : s.slot with
  | held b =>
    rw [hslot] at h
    cases h
  | planned kind =>
    rw [hslot] at h
    cases kind with
    | concrete => rfl
    | abstract => cases h
    | interpreter => cases h

theorem not_isForeign_of_backendIn_eq_error {failure : Failure}
    (h : s.backendIn host = .error failure) : failure.isForeign = false := by
  obtain ⟨message, -, rfl⟩ := exists_message_of_backendIn_eq_error h
  rfl

/-- A warning about a back end that cannot be built does not get the name of the back end; the failure
itself starts with it. -/
theorem unbuilt_reports {failure : Failure} (h : s.backendIn host = .error failure) :
    (Notice.unbuilt failure.message).Reports s.backendName failure.message := by
  have htells : failure.message <:+: (Notice.unbuilt failure.message).text :=
    (List.suffix_append _ _).isInfix
  refine ⟨rfl, List.IsInfix.trans ?_ htells, htells⟩
  rw [backendName_of_backendIn_eq_error h]
  obtain ⟨message, hfault, rfl⟩ := exists_message_of_backendIn_eq_error h
  obtain ⟨opening, cause, hopening, -, rfl⟩ := Host.exists_cause_of_grammarFault? hfault
  rw [Failure.message, Codes.ofString_append]
  refine List.IsInfix.trans ?_ (List.prefix_append _ _).isInfix
  cases hopening with
  | grammar => exact ⟨[], Codes.ofString " grammar for python is unavailable: ", rfl⟩
  | backend => exact ⟨[], Codes.ofString " backend is unavailable: ", rfl⟩

/-- **What a search adds** to the warnings of its back end. -/
theorem warnings_find {start stop : Int} (hstart : 1 ≤ start) (hstop : start ≤ stop) :
    warnings (s.find host source start stop).events =
      s.ownWarnings host source ++
        match s.failureIn host source with
        | none => []
        | some failure =>
          if failure.isForeign then []
          else
            match s.backendIn host with
            | .error _ => [.unbuilt failure.message]
            | .ok b => [.searchFailed b.name failure.message] := by
  have hrange : (⟨start, stop, hstart, hstart.trans hstop⟩ : LineRange).isEmpty = false :=
    (LineRange.isEmpty_eq_false_iff _).mpr hstop
  rw [find_eq, (LineRange.ofLines?_eq_some_iff start stop ⟨start, stop, hstart, hstart.trans hstop⟩).mpr
    ⟨rfl, rfl⟩, ownWarnings, failureIn]
  cases hb : s.backendIn host with
  | error failure =>
    simp only [not_isForeign_of_backendIn_eq_error hb]
    rfl
  | ok b =>
    simp only [counting, b.warnings_find s.asked source hrange]
    cases (b.answer s.asked source).value <;> rfl

/-- **What a check adds** to the warnings of its back end: nothing, if there is none. -/
theorem warnings_check (s : Session) (host : Host) (source : Codes) :
    warnings (s.check host source).events =
      s.ownWarnings host source ++
        match s.backendIn host, s.failureIn host source with
        | .ok b, some (.unavailable message) => [.checkFailed b.name message]
        | _, _ => [] := by
  rw [check_eq, ownWarnings, failureIn]
  cases hb : s.backendIn host with
  | error failure =>
    simp only [not_isForeign_of_backendIn_eq_error hb]
    rfl
  | ok b =>
    simp only [counting, b.warnings_check s.asked source]
    rcases (b.answer s.asked source).value with (_ | _ | _ | _) | _ <;> rfl

/-- A question that comes up against an expected failure finds nothing. -/
theorem value_find_of_failureIn {failure : Failure} (h : s.failureIn host source = some failure)
    (hfamily : failure.isForeign = false) (start stop : Int) :
    (s.find host source start stop).value.1 = .ok none := by
  cases hb : s.backendIn host with
  | error _ => exact value_find_of_error hb source start stop
  | ok b =>
    rw [failureIn, hb] at h
    rw [value_find, hb]
    cases LineRange.ofLines? start stop with
    | none => rfl
    | some range =>
      cases hanswer : (b.answer s.asked source).value with
      | ok nodes =>
        simp only [hanswer] at h
        cases h
      | error failure' =>
        simp only [hanswer, Option.some_inj] at h
        subst h
        exact Backend.value_find_of_not_isForeign hanswer hfamily range s.mode s.kinds

/-- Without its back end, a session refuses every text in the words of the failure. -/
theorem exists_refusal_of_backendIn_eq_error {failure : Failure}
    (h : s.backendIn host = .error failure) (source : Codes) :
    ∃ error, Codes.ofString error = failure.message ∧
      (s.check host source).value.1 = .ok ⟨false, error⟩ := by
  obtain ⟨error, -, hcheck⟩ := value_check_of_error h
  refine ⟨error, ?_, hcheck source⟩
  have hrefused := hcheck source
  rw [value_check, h] at hrefused
  simp only [not_isForeign_of_backendIn_eq_error h, Bool.false_eq_true, if_false] at hrefused
  exact (Verdict.of_refused hrefused).2

/-- Some warnings are one more than those that a back end has written itself, and that one is about a
failure of the back end. -/
def WarnsOnce (own all : List Notice) (name : String) (cause : Codes) : Prop :=
  ∃ n : Notice, n.Reports name cause ∧ all = own ++ [n]

/-- **Which failures leave a warning.**  A search in some lines adds exactly one warning for a failure
of the family, wherever that comes from, and finds nothing; it adds none if there is no such failure.  A
check adds exactly one warning if it has its back end and that could not be used, and none for a text
that is good or that is refused.  But if the back end could not be built, then a check writes no
warning at all, and its verdict cannot be told from one on the text.  The back ends that a host builds
write no warnings themselves, so for them these are all that there are. -/
theorem absorbed_failures_warned (s : Session) (host : Host) (source : Codes) :
    (∀ start stop : Int, 1 ≤ start → start ≤ stop →
      (∀ failure, s.failureIn host source = some failure → failure.isForeign = false →
        (s.find host source start stop).value.1 = .ok none ∧
        WarnsOnce (s.ownWarnings host source) (warnings (s.find host source start stop).events)
          s.backendName failure.message) ∧
      ((∀ failure, s.failureIn host source = some failure → failure.isForeign = true) →
        warnings (s.find host source start stop).events = s.ownWarnings host source)) ∧
    (∀ message, s.failureIn host source = some (.unavailable message) →
      ((∃ b, s.backendIn host = .ok b) →
        WarnsOnce (s.ownWarnings host source) (warnings (s.check host source).events)
          s.backendName message) ∧
      ((¬∃ b, s.backendIn host = .ok b) →
        warnings (s.check host source).events = [] ∧
        ∃ error, Codes.ofString error = message ∧
          (s.check host source).value.1 = .ok ⟨false, error⟩)) ∧
    ((∀ message, s.failureIn host source ≠ some (.unavailable message)) →
      warnings (s.check host source).events = s.ownWarnings host source) ∧
    (∀ (h : Host) (e : Settings) (kind : BackendKind) (b : Backend),
      h.build e kind = .ok b → s.backendIn host = .ok b → s.ownWarnings host source = []) := by
  refine ⟨fun start stop hstart hstop => ⟨fun failure hfailure hfamily => ?_, fun hforeign => ?_⟩,
    fun message hfailure => ⟨?_, ?_⟩, fun hnone => ?_, fun h e kind b hbuild hb => ?_⟩
  · refine ⟨value_find_of_failureIn hfailure hfamily start stop, ?_⟩
    rw [warnings_find hstart hstop, hfailure]
    simp only [hfamily, Bool.false_eq_true, if_false]
    cases hb : s.backendIn host with
    | ok b => exact ⟨_, name_of_backendIn hb ▸ Notice.searchFailed_reports b.name _, rfl⟩
    | error cause =>
      obtain rfl : cause = failure := by
        rw [failureIn, hb] at hfailure
        exact Option.some_inj.mp hfailure
      exact ⟨_, unbuilt_reports hb, rfl⟩
  · rw [warnings_find hstart hstop]
    cases hfailure : s.failureIn host source with
    | none => exact List.append_nil _
    | some failure =>
      simp only [hforeign failure hfailure, if_true]
      exact List.append_nil _
  · rintro ⟨b, hb⟩
    rw [warnings_check, hb, hfailure]
    exact ⟨_, name_of_backendIn hb ▸ Notice.checkFailed_reports b.name message, rfl⟩
  · intro hnone
    cases hb : s.backendIn host with
    | ok b => exact absurd ⟨b, hb⟩ hnone
    | error failure =>
      obtain ⟨error, herror, hcheck⟩ := exists_refusal_of_backendIn_eq_error hb source
      rw [failureIn, hb, Option.some_inj] at hfailure
      rw [hfailure] at herror
      refine ⟨?_, error, herror, hcheck⟩
      rw [warnings_check, ownWarnings, hb, List.nil_append]
  · rw [warnings_check]
    split
    · next b message _ hfailure => exact absurd hfailure (hnone message)
    · exact List.append_nil _
  · rw [ownWarnings, hb]
    exact Host.warnings_answer_of_build hbuild _ _

/-- The session that still has to build the back end for concrete trees, where that is not possible:
the search writes its warning, and the check does not. -/
theorem unbuilt_checked_silently :
    WarnsOnce [] (warnings (unbuilt.find Workspace.unreadyHost [] 1 1).events) "tree-sitter"
      (Codes.ofString "tree-sitter grammar for python is unavailable: no grammar") ∧
    warnings (unbuilt.check Workspace.unreadyHost []).events = [] ∧
    (unbuilt.check Workspace.unreadyHost []).value.1 =
      .ok ⟨false, "tree-sitter grammar for python is unavailable: no grammar"⟩ := by
  obtain ⟨hfind, hcheck, -, -⟩ := absorbed_failures_warned unbuilt Workspace.unreadyHost []
  have hnone : ¬∃ b, unbuilt.backendIn Workspace.unreadyHost = .ok b := by
    rintro ⟨b, hb⟩
    cases hb
  obtain ⟨hsilent, error, herror, hverdict⟩ := (hcheck _ rfl).2 hnone
  obtain rfl := Codes.ofString_inj.mp herror
  exact ⟨((hfind 1 1 (by decide) (by decide)).1 _ rfl rfl).2, hsilent, hverdict⟩

end Session
end Enclosure
