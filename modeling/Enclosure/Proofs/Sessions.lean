import Enclosure.Session
import Enclosure.Proofs.Lookup

/-!
# What a session answers

A session asks the back end that it holds, or the one that it would build.  Its answer to a search
or a check follows from that back end, so two sessions whose back ends answer alike give the same
answers if they look for the same.

What is here:

* `Session.made`: a new session, with `Session.create_eq_ok_iff`.
* `Session.backendIn`: the back end that a session asks.
* `Session.find_eq` and `Session.check_eq`: a search and a check by this back end.
* `Session.value_find` and `Session.value_check`: their answers.
* `Backend.AnswersAlike` and `Backend.SameAnswers`: back ends that give the same answers.
* `Backend.value_find_congr` and `Backend.value_check_congr`: the same answer is taken the same way.
* `Session.value_find_eq_of_same` and `Session.value_check_eq_of_same`: sessions that answer the same.
* `Host.build_congr`, `Host.answersAlike_of_build` and `Host.exists_message_of_build_eq_error`: what
  a host builds.
-/

set_option autoImplicit false

namespace Enclosure

namespace Session

/-! ## New sessions -/

/-- A new session. -/
def made (settings : Settings) (kind : BackendKind) (mode : Mode) (kinds : Kinds) : Session where
  settings := settings
  slot := .planned kind
  mode := mode
  kinds := kinds

/-- A session is made by name from settings that can be read and a name that is known. -/
theorem create_eq_ok_iff {e : Environment} {name : Option String} {mode : Option Mode}
    {kinds : Kinds} {given : Option Settings} {s : Session} :
    create e (.named name) mode kinds given = .ok s ↔
      ∃ settings kind, Host.settingsOr given e = .ok settings ∧
        BackendKind.ofName (Host.nameOr name settings) = .ok kind ∧
        made settings kind (mode.getD settings.mode) kinds = s := by
  rw [create]
  cases Host.settingsOr given e with
  | error fault => simp
  | ok settings =>
    simp only
    cases hkind : BackendKind.ofName (Host.nameOr name settings) with
    | error fault => simp [hkind]
    | ok kind => simp [hkind, made]

/-! ## Answers -/

/-- The back end that a session asks: the one it holds, or the one it would build. -/
def backendIn (s : Session) (host : Host) : Except Failure Backend :=
  match s.slot with
  | .held b => .ok b
  | .planned kind => host.build s.settings kind

theorem acquire_eq (s : Session) (host : Host) :
    s.acquire host = (s.backendIn host).map fun b => (b, { s with slot := .held b }) := by
  obtain ⟨settings, slot, mode, kinds, asked⟩ := s
  cases slot with
  | held b => rfl
  | planned kind =>
    simp only [acquire, backendIn]
    cases host.build settings kind <;> rfl

/-- The session once it holds a back end. -/
def holding (s : Session) (b : Backend) : Session := { s with slot := .held b }

/-- A search, by the back end that the session asks. -/
theorem find_eq (s : Session) (host : Host) (source : Codes) (start stop : Int) :
    s.find host source start stop =
      match LineRange.ofLines? start stop with
      | none => pure (.ok none, s)
      | some range =>
        match s.backendIn host with
        | .error failure =>
          if failure.isForeign then pure (.error failure, s)
          else do
            Traced.note (.unbuilt failure.message)
            pure (.ok none, s)
        | .ok b => (s.holding b).counting (b.find s.asked source range s.mode s.kinds) := by
  rw [find]
  cases LineRange.ofLines? start stop with
  | none => rfl
  | some range =>
    rw [acquire_eq]
    cases s.backendIn host <;> rfl

/-- A check, by the back end that the session asks. -/
theorem check_eq (s : Session) (host : Host) (source : Codes) :
    s.check host source =
      match s.backendIn host with
      | .error failure =>
        if failure.isForeign then pure (.error failure, s)
        else pure (Verdict.refused failure.message, s)
      | .ok b => (s.holding b).counting (b.check s.asked source) := by
  rw [check, acquire_eq]
  cases s.backendIn host <;> rfl

/-- **The answer to a search** in a session. -/
theorem value_find (s : Session) (host : Host) (source : Codes) (start stop : Int) :
    (s.find host source start stop).value.1 =
      match LineRange.ofLines? start stop with
      | none => .ok none
      | some range =>
        match s.backendIn host with
        | .error failure => if failure.isForeign then .error failure else .ok none
        | .ok b => (b.find s.asked source range s.mode s.kinds).value := by
  rw [find_eq]
  cases LineRange.ofLines? start stop with
  | none => rfl
  | some range =>
    cases s.backendIn host with
    | ok b => rfl
    | error failure => cases h : failure.isForeign <;> simp [h]

/-- **The answer to a check** in a session. -/
theorem value_check (s : Session) (host : Host) (source : Codes) :
    (s.check host source).value.1 =
      match s.backendIn host with
      | .error failure =>
        if failure.isForeign then .error failure else Verdict.refused failure.message
      | .ok b => (b.check s.asked source).value := by
  rw [check_eq]
  cases s.backendIn host with
  | ok b => rfl
  | error failure => cases h : failure.isForeign <;> simp [h]

end Session

/-! ## Back ends that answer alike -/

namespace Backend

/-- Two back ends that give the same answers, however often each has been asked before. -/
def AnswersAlike (a b : Backend) : Prop :=
  ∀ m n source, (a.answer m source).value = (b.answer n source).value

/-- Two attempts to get a back end that come to the same. -/
inductive SameAnswers : Except Failure Backend → Except Failure Backend → Prop
  | built (a b : Backend) (h : a.AnswersAlike b) : SameAnswers (.ok a) (.ok b)
  | failed (failure : Failure) : SameAnswers (.error failure) (.error failure)

/-- What a search finds depends on the answer alone. -/
theorem value_find_congr {a b : Backend} {m n : Nat} {source source' : Codes}
    (h : (a.answer m source).value = (b.answer n source').value) (range : LineRange) (mode : Mode)
    (kinds : Kinds) :
    (a.find m source range mode kinds).value = (b.find n source' range mode kinds).value := by
  rw [value_find, value_find, h]

/-- What a check says depends on the answer alone. -/
theorem value_check_congr {a b : Backend} {m n : Nat} {source source' : Codes}
    (h : (a.answer m source).value = (b.answer n source').value) :
    (a.check m source).value = (b.check n source').value := by
  rw [value_check, value_check, h]

end Backend

theorem Session.value_find_eq_of_same {s s' : Session} {host : Host}
    (h : Backend.SameAnswers (s.backendIn host) (s'.backendIn host)) (hmode : s.mode = s'.mode)
    (hkinds : s.kinds = s'.kinds) (source : Codes) (start stop : Int) :
    (s.find host source start stop).value.1 = (s'.find host source start stop).value.1 := by
  rw [value_find, value_find]
  cases LineRange.ofLines? start stop with
  | none => rfl
  | some range =>
    revert h
    generalize s.backendIn host = x
    generalize s'.backendIn host = y
    rintro (⟨a, b, h⟩ | failure)
    · simp only [hmode, hkinds]
      exact Backend.value_find_congr (h _ _ _) _ _ _
    · rfl

theorem Session.value_check_eq_of_same {s s' : Session} {host : Host}
    (h : Backend.SameAnswers (s.backendIn host) (s'.backendIn host)) (source : Codes) :
    (s.check host source).value.1 = (s'.check host source).value.1 := by
  rw [value_check, value_check]
  revert h
  generalize s.backendIn host = x
  generalize s'.backendIn host = y
  rintro (⟨a, b, h⟩ | failure)
  · exact Backend.value_check_congr (h _ _ _)
  · rfl

namespace BackendKind

/-- Each back end goes by its name. -/
theorem ofName_text (kind : BackendKind) : ofName kind.text = .ok kind := by
  cases kind <;> rfl

theorem text_inj {kind other : BackendKind} : kind.text = other.text ↔ kind = other := by
  refine ⟨fun h => ?_, congrArg text⟩
  have hsame : ofName kind.text = ofName other.text := congrArg ofName h
  rwa [ofName_text, ofName_text, Except.ok.injEq] at hsame

theorem ofName_empty : ofName "" = .error (.unknownBackend "") := rfl

theorem text_ne_empty (kind : BackendKind) : kind.text ≠ "" := by
  cases kind <;> decide

end BackendKind

namespace Host

/-- Only the back end for another interpreter depends on the settings, and only on its program and
its time limit. -/
theorem build_congr (h : Host) {e e' : Settings} {kind : BackendKind}
    (hsame : kind = .interpreter → e.program = e'.program ∧ e.timeout = e'.timeout) :
    h.build e kind = h.build e' kind := by
  cases kind with
  | abstract => rfl
  | concrete => rfl
  | interpreter =>
    obtain ⟨hprogram, htimeout⟩ := hsame rfl
    rw [build, build, hprogram, htimeout]

/-- What a host builds gives the same answer each time. -/
theorem answersAlike_of_build {h : Host} {e : Settings} {kind : BackendKind} {b : Backend}
    (hb : h.build e kind = .ok b) : b.AnswersAlike b := by
  cases kind with
  | abstract =>
    obtain rfl := Except.ok.inj hb
    exact fun m n source => rfl
  | interpreter =>
    obtain rfl := Except.ok.inj hb
    exact fun m n source => rfl
  | concrete =>
    rw [build] at hb
    split at hb
    · obtain rfl := Except.ok.inj hb
      exact fun m n source => rfl
    · simp at hb

/-- A back end goes by the name of its kind. -/
theorem name_of_build {h : Host} {e : Settings} {kind : BackendKind} {b : Backend}
    (hb : h.build e kind = .ok b) : b.name = kind.text := by
  cases kind with
  | abstract => obtain rfl := Except.ok.inj hb; rfl
  | interpreter => obtain rfl := Except.ok.inj hb; rfl
  | concrete =>
    rw [build] at hb
    split at hb
    · obtain rfl := Except.ok.inj hb; rfl
    · simp at hb

/-- What is wrong with the grammar is put into words. -/
theorem grammarFault?_ne_empty (h : Host) : h.grammarFault? ≠ some "" := by
  intro hfault
  rw [grammarFault?] at hfault
  split at hfault <;> simp [toString] at hfault

/-- A back end that cannot be built could not be used, and the message says what is wrong with the
grammar. -/
theorem exists_message_of_build_eq_error {h : Host} {e : Settings} {kind : BackendKind}
    {failure : Failure} (hf : h.build e kind = .error failure) :
    ∃ message, h.grammarFault? = some message ∧
      failure = .unavailable (Codes.ofString message) := by
  cases kind with
  | abstract => simp [build] at hf
  | interpreter => simp [build] at hf
  | concrete =>
    rw [build] at hf
    split at hf
    · simp at hf
    · next message hfault => exact ⟨message, hfault, (Except.error.inj hf).symm⟩

theorem sameAnswers_build (h : Host) (e : Settings) (kind : BackendKind) :
    Backend.SameAnswers (h.build e kind) (h.build e kind) := by
  cases hb : h.build e kind with
  | ok b => exact .built b b (answersAlike_of_build hb)
  | error failure => exact .failed failure

end Host
end Enclosure
