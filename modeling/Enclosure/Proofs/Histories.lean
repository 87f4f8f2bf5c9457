import Enclosure.Proofs.Sessions

/-!
# Sessions over time

A session builds its back end at the first question for which that is possible, and keeps it.  What
it answers from then on does not show what happened before: a new session with the same settings and
the same wishes would answer alike.

What is here:

* `Workspace.after`: what some steps lead to.
* `Step.needsBackend` and `Step.asks`: which steps need a back end, and which of them ask it.
* `Workspace.Effect`: all that one step does to the state, with `Workspace.effect_step`.
* `Workspace.Descends`: what the steps of a session keep, with `Workspace.Descends.after`.
* `Workspace.Descends.reply_eq`: a session answers as a new one.
* `Workspace.session_run_invariant`: all of it together.
-/

set_option autoImplicit false

namespace Enclosure

/-! ## How often a back end is asked -/

theorem Traced.questions_append (es fs : List Event) :
    questions (es ++ fs) = questions es + questions fs := List.countP_append

namespace Backend

/-- The back end asks no other one while it answers. -/
def AsksNobody (b : Backend) : Prop :=
  ∀ n source, Traced.questions (b.answer n source).events = 0

variable {b : Backend}

/-- The answers of a stable back end do not depend on how often it has been asked. -/
theorem IsStable.find_eq (h : b.IsStable) (m n : Nat) (source : Codes) (range : LineRange)
    (mode : Mode) (kinds : Kinds) :
    b.find m source range mode kinds = b.find n source range mode kinds := by
  rw [find, find, ask, ask, h m n source]

theorem IsStable.check_eq (h : b.IsStable) (m n : Nat) (source : Codes) :
    b.check m source = b.check n source := by
  rw [check, check, ask, ask, h m n source]

theorem questions_ask (h : b.AsksNobody) (n : Nat) (source : Codes) :
    Traced.questions (b.ask n source).events = 1 := by
  rw [ask, Traced.events_bind, Traced.questions_append, h n source]
  rfl

/-- A search asks once, unless its range holds no line. -/
theorem questions_find (h : b.AsksNobody) (n : Nat) (source : Codes) (range : LineRange)
    (mode : Mode) (kinds : Kinds) :
    Traced.questions (b.find n source range mode kinds).events =
      if range.isEmpty then 0 else 1 := by
  rw [find]
  split
  · rfl
  · rw [Traced.events_bind, Traced.questions_append, questions_ask h]
    cases (b.ask n source).value with
    | ok nodes =>
      simp only
      cases select nodes range mode kinds <;> rfl
    | error failure =>
      simp only
      cases failure.isForeign <;> rfl

/-- A check asks once. -/
theorem questions_check (h : b.AsksNobody) (n : Nat) (source : Codes) :
    Traced.questions (b.check n source).events = 1 := by
  rw [check, Traced.events_bind, Traced.questions_append, questions_ask h]
  cases (b.ask n source).value with
  | ok nodes => rfl
  | error failure => cases failure <;> rfl

end Backend

/-! ## What a host builds, whenever it does -/

namespace Host

/-- The host with its grammar in working order. -/
def repaired (h : Host) : Host := { h with grammar := .working }

/-- Two hosts with the same readers and programs; their grammars may be in different states. -/
def SharesReaders (h h' : Host) : Prop := h.repaired = h'.repaired

variable {h : Host} {e : Settings} {kind : BackendKind} {b : Backend}

/-- What can be built at all is what can be built with the grammar in working order. -/
theorem build_repaired (hb : h.build e kind = .ok b) : h.repaired.build e kind = .ok b := by
  cases kind with
  | abstract => exact hb
  | interpreter => exact hb
  | concrete =>
    rw [build] at hb
    split at hb
    · exact hb
    · simp at hb

theorem exists_build_repaired (h : Host) (e : Settings) (kind : BackendKind) :
    ∃ b, h.repaired.build e kind = .ok b := by
  cases kind <;> exact ⟨_, rfl⟩

theorem build_eq_of_sharesReaders {h' : Host} {b' : Backend} (hshare : h.SharesReaders h')
    (hb : h.repaired.build e kind = .ok b) (hb' : h'.build e kind = .ok b') : b = b' := by
  rw [hshare, build_repaired hb', Except.ok.injEq] at hb
  exact hb.symm

theorem isStable_of_build (hb : h.build e kind = .ok b) : b.IsStable := by
  cases kind with
  | abstract => obtain rfl := Except.ok.inj hb; exact fun m n source => rfl
  | interpreter => obtain rfl := Except.ok.inj hb; exact fun m n source => rfl
  | concrete => obtain rfl := Except.ok.inj (build_repaired hb); exact fun m n source => rfl

theorem asksNobody_of_build (hb : h.build e kind = .ok b) : b.AsksNobody := by
  cases kind with
  | abstract => obtain rfl := Except.ok.inj hb; exact fun n source => rfl
  | interpreter => obtain rfl := Except.ok.inj hb; exact fun n source => rfl
  | concrete =>
    obtain rfl := Except.ok.inj (build_repaired hb)
    intro n source
    simp only [Backend.concrete]
    split <;> rfl

end Host

/-! ## One session -/

theorem LineRange.ofLines?_eq_some_iff (start stop : Int) (r : LineRange) :
    ofLines? start stop = some r ↔ r.start = start ∧ r.stop = stop := by
  obtain ⟨first, last, hfirst, hlast⟩ := r
  rw [ofLines?]
  constructor
  · intro h
    split at h
    · obtain ⟨rfl, rfl⟩ := LineRange.mk.inj (Option.some_inj.mp h)
      exact ⟨rfl, rfl⟩
    · cases h
  · rintro ⟨rfl, rfl⟩
    exact dif_pos ⟨hfirst, hlast⟩

namespace Session

variable {s : Session} {host : Host} {b : Backend}

theorem backendIn_of_held (h : s.slot = .held b) (host : Host) : s.backendIn host = .ok b := by
  rw [backendIn, h]

/-- The back end of a session goes by the name that the session has for it. -/
theorem name_of_backendIn (h : s.backendIn host = .ok b) : b.name = s.backendName := by
  rw [backendIn] at h
  rw [backendName]
  cases hslot : s.slot with
  | held c =>
    rw [hslot] at h
    rw [Slot.name, Except.ok.inj h]
  | planned kind =>
    rw [hslot] at h
    exact Host.name_of_build h

/-- If a session cannot have its back end, it holds none, and the message says what is wrong with the
grammar. -/
theorem exists_message_of_backendIn_eq_error {failure : Failure}
    (h : s.backendIn host = .error failure) :
    ∃ message, host.grammarFault? = some message ∧
      failure = .unavailable (Codes.ofString message) := by
  rw [backendIn] at h
  cases hslot : s.slot with
  | held c =>
    rw [hslot] at h
    cases h
  | planned kind =>
    rw [hslot] at h
    exact Host.exists_message_of_build_eq_error h

end Session

/-! ## One step -/

namespace Step

/-- The questions: searches and checks. -/
def isQuestion : Step → Bool
  | find _ _ _ => true
  | check _ => true
  | _ => false

/-- The steps that need a back end: checks, and searches around lines that exist. -/
def needsBackend : Step → Bool
  | find _ start stop => 1 ≤ start && 1 ≤ stop
  | check _ => true
  | _ => false

/-- The steps that ask the back end if there is one: checks, and searches in a range with a line in
it. -/
def asks : Step → Bool
  | find _ start stop => 1 ≤ start && start ≤ stop
  | check _ => true
  | _ => false

theorem isQuestion_of_needsBackend {step : Step} (h : step.needsBackend = true) :
    step.isQuestion = true := by
  cases step with
  | find source start stop => rfl
  | check source => rfl
  | setMode mode => cases h
  | setKinds kinds => cases h
  | setEnvironment e => cases h
  | setGrammar g => cases h

theorem needsBackend_of_asks {step : Step} (h : step.asks = true) : step.needsBackend = true := by
  cases step with
  | find source start stop =>
    simp only [asks, needsBackend, Bool.and_eq_true, decide_eq_true_eq] at h ⊢
    omega
  | check source => rfl
  | setMode mode => cases h
  | setKinds kinds => cases h
  | setEnvironment e => cases h
  | setGrammar g => cases h

end Step

/-- A reply that found nothing, or that a text is not well formed. -/
inductive Reply.IsNegative : Reply → Prop
  | nothing : IsNegative (.context (.ok none))
  | refused (error : String) : IsNegative (.verdict (.ok ⟨false, error⟩))

namespace Workspace

/-- What a step leads to. -/
def next (w : Workspace) (step : Step) : Workspace := (w.step step).value.2

/-- What some steps lead to, one after the other. -/
def after (w : Workspace) (steps : List Step) : Workspace := steps.foldl next w

/-- The reply to a step, with all that happened on the way. -/
def reply (w : Workspace) (step : Step) : Traced Reply := (w.step step).onValue Prod.fst

/-- All that one step does to a workspace. -/
structure Effect (w : Workspace) (step : Step) : Prop where
  /-- The settings stay. -/
  settings_eq : (w.next step).session.settings = w.session.settings
  /-- The name of the back end stays. -/
  backendName_eq : (w.next step).session.backendName = w.session.backendName
  /-- A back end is held if it was held before, or if the step needs one and can have this one. -/
  held_iff : ∀ b, (w.next step).session.slot = .held b ↔
    w.session.slot = .held b ∨ step.needsBackend = true ∧ w.session.backendIn w.host = .ok b
  /-- If the step needs a back end and cannot have one, nothing changes and the reply is negative. -/
  failed : step.needsBackend = true → ∀ failure, w.session.backendIn w.host = .error failure →
    w.next step = w ∧ (w.reply step).value.IsNegative
  /-- A question changes nothing but what is held and how often it has been asked. -/
  question : step.isQuestion = true → w.next step =
    { w with session := { w.session with
      slot := (w.next step).session.slot
      asked := w.session.asked + Traced.questions (w.reply step).events } }
  /-- The back end is asked once by the steps that ask it, if there is one, and never else. -/
  questions_eq : Traced.questions (w.reply step).events =
    if step.asks && (w.session.backendIn w.host).isOk then 1 else 0

section

variable {w : Workspace} {source : Codes} {start stop : Int} {range : LineRange} {b : Backend}
  {failure : Failure}

/-- A step that leaves everything as it is and asks nobody. -/
theorem effect_of_unchanged {step : Step} (hnext : w.next step = w)
    (hevents : Traced.questions (w.reply step).events = 0)
    (hneeds : step.needsBackend = true → ∃ failure, w.session.backendIn w.host = .error failure)
    (hreply : step.needsBackend = true → (w.reply step).value.IsNegative) : Effect w step where
  settings_eq := by rw [hnext]
  backendName_eq := by rw [hnext]
  held_iff b := by
    rw [hnext]
    refine ⟨.inl, fun h => h.resolve_right fun ⟨hstep, hb⟩ => ?_⟩
    obtain ⟨failure, hfailure⟩ := hneeds hstep
    rw [hb] at hfailure
    cases hfailure
  failed hstep _ _ := ⟨hnext, hreply hstep⟩
  question _ := by rw [hnext, hevents]; rfl
  questions_eq := by
    rw [hevents]
    cases hstep : step.asks with
    | false => rfl
    | true =>
      obtain ⟨failure, hfailure⟩ := hneeds (Step.needsBackend_of_asks hstep)
      rw [hfailure]
      rfl

/-- A question that the back end of the session answers. -/
theorem effect_of_answered {step : Step} (hb : w.session.backendIn w.host = .ok b)
    (hnext : w.next step = { w with session := { w.session.holding b with
      asked := w.session.asked + Traced.questions (w.reply step).events } })
    (hneeds : step.needsBackend = true)
    (hevents : Traced.questions (w.reply step).events = if step.asks then 1 else 0) :
    Effect w step where
  settings_eq := by rw [hnext]; rfl
  backendName_eq := by
    rw [hnext]
    exact Session.name_of_backendIn hb
  held_iff c := by
    rw [hnext]
    constructor
    · intro h
      obtain rfl : b = c := Slot.held.inj h
      exact .inr ⟨hneeds, hb⟩
    · rintro (h | ⟨-, hc⟩)
      · rw [Session.backendIn_of_held h, Except.ok.injEq] at hb
        exact congrArg Slot.held hb.symm
      · rw [hb, Except.ok.injEq] at hc
        exact congrArg Slot.held hc
  failed _ failure hfailure := by
    rw [hb] at hfailure
    cases hfailure
  question _ := by
    rw [hnext]
    rfl
  questions_eq := by
    rw [hevents, hb]
    cases step.asks <;> rfl

/-- A step that is no question leaves the back end and the settings alone. -/
theorem effect_of_not_question {step : Step} (h : step.isQuestion = false)
    (hslot : (w.next step).session.slot = w.session.slot)
    (hsettings : (w.next step).session.settings = w.session.settings)
    (hevents : (w.reply step).events = []) : Effect w step := by
  have hneeds : step.needsBackend = false := by
    rw [Bool.eq_false_iff]
    exact fun hstep => Bool.eq_false_iff.mp h (Step.isQuestion_of_needsBackend hstep)
  have hasks : step.asks = false := by
    rw [Bool.eq_false_iff]
    exact fun hstep => Bool.eq_false_iff.mp hneeds (Step.needsBackend_of_asks hstep)
  refine ⟨hsettings, by rw [Session.backendName, hslot]; rfl, fun b => by simp [hslot, hneeds],
    fun hstep => ?_, fun hstep => ?_, by rw [hevents, hasks]; rfl⟩
  · simp [hneeds] at hstep
  · simp [h] at hstep

theorem effect_find (hquiet : ∀ b, w.session.backendIn w.host = .ok b → b.AsksNobody)
    (source : Codes) (start stop : Int) : Effect w (.find source start stop) := by
  have hfind := w.session.find_eq w.host source start stop
  cases hrange : LineRange.ofLines? start stop with
  | none =>
    rw [hrange] at hfind
    have hneeds : (Step.find source start stop).needsBackend ≠ true := by
      have hout := (LineRange.ofLines?_eq_none_iff start stop).mp hrange
      simp only [Step.needsBackend, ne_eq, Bool.and_eq_true, decide_eq_true_eq]
      omega
    refine effect_of_unchanged ?_ ?_ (fun h => absurd h hneeds) (fun h => absurd h hneeds)
    · simp only [next, step, hfind]
      rfl
    · simp only [reply, step, hfind]
      rfl
  | some range =>
    obtain ⟨hstart, hstop⟩ := (LineRange.ofLines?_eq_some_iff start stop range).mp hrange
    rw [hrange] at hfind
    cases hb : w.session.backendIn w.host with
    | error failure =>
      obtain ⟨message, -, rfl⟩ := Session.exists_message_of_backendIn_eq_error hb
      rw [hb] at hfind
      refine effect_of_unchanged ?_ ?_ (fun _ => ⟨_, hb⟩) fun _ => ?_
      · simp only [next, step, hfind]
        rfl
      · simp only [reply, step, hfind]
        rfl
      · simp only [reply, step, hfind]
        exact .nothing
    | ok b =>
      rw [hb] at hfind
      have hasks : (Step.find source start stop).asks = !range.isEmpty := by
        have := range.one_le_start
        rw [Bool.eq_iff_iff]
        simp only [Step.asks, LineRange.isEmpty, Bool.and_eq_true, Bool.not_eq_true',
          decide_eq_true_eq, decide_eq_false_iff_not]
        omega
      refine effect_of_answered hb ?_ ?_ ?_
      · simp only [next, reply, step, hfind]
        rfl
      · have hout := (LineRange.ofLines?_eq_none_iff start stop).not.mp (by simp [hrange])
        simp only [Step.needsBackend, Bool.and_eq_true, decide_eq_true_eq]
        omega
      · have hasked := Backend.questions_find (hquiet b hb) w.session.asked source range
          w.session.mode w.session.kinds
        simp only [reply, step, hfind, hasks]
        refine hasked.trans ?_
        cases range.isEmpty <;> rfl

theorem effect_check (hquiet : ∀ b, w.session.backendIn w.host = .ok b → b.AsksNobody)
    (source : Codes) : Effect w (.check source) := by
  have hcheck := w.session.check_eq w.host source
  cases hb : w.session.backendIn w.host with
  | error failure =>
    obtain ⟨message, -, rfl⟩ := Session.exists_message_of_backendIn_eq_error hb
    have hrefused : Verdict.refused (Codes.ofString message) = .ok ⟨false, message⟩ := by
      rw [Verdict.refused, Codes.toString?_ofString]
    rw [hb] at hcheck
    refine effect_of_unchanged ?_ ?_ (fun _ => ⟨_, hb⟩) fun _ => ?_
    · simp only [next, step, hcheck]
      rfl
    · simp only [reply, step, hcheck]
      rfl
    · simp only [reply, step, hcheck]
      show Reply.IsNegative (.verdict (Verdict.refused (Codes.ofString message)))
      rw [hrefused]
      exact .refused message
  | ok b =>
    rw [hb] at hcheck
    refine effect_of_answered hb ?_ rfl ?_
    · simp only [next, reply, step, hcheck]
      rfl
    · have hasked := Backend.questions_check (hquiet b hb) w.session.asked source
      simp only [reply, step, hcheck]
      exact hasked

/-- **What a step does.** -/
theorem effect_step (hquiet : ∀ b, w.session.backendIn w.host = .ok b → b.AsksNobody)
    (step : Step) : Effect w step := by
  cases step with
  | find source start stop => exact effect_find hquiet source start stop
  | check source => exact effect_check hquiet source
  | setMode mode => exact effect_of_not_question rfl rfl rfl rfl
  | setKinds kinds => exact effect_of_not_question rfl rfl rfl rfl
  | setEnvironment e => exact effect_of_not_question rfl rfl rfl rfl
  | setGrammar g => exact effect_of_not_question rfl rfl rfl rfl

end

/-! ## Many steps -/

/-- What the steps of a session keep: the readers of the host, the settings, and that the session
holds no back end or the one of its kind that these settings ask for. -/
structure Descends (w₀ : Workspace) (kind : BackendKind) (w : Workspace) : Prop where
  /-- Only the grammar may be in another state. -/
  readers : w₀.host.SharesReaders w.host
  /-- The settings are those of the start. -/
  settings_eq : w.session.settings = w₀.session.settings
  /-- There is no back end, or the right one. -/
  slot : w.session.slot = .planned kind ∨
    ∃ b, w.session.slot = .held b ∧ w.host.repaired.build w.session.settings kind = .ok b

namespace Descends

variable {w₀ w : Workspace} {kind : BackendKind} {b : Backend}

/-- Whatever back end the session asks is the one for its settings. -/
theorem build_eq (h : Descends w₀ kind w) (hb : w.session.backendIn w.host = .ok b) :
    w.host.repaired.build w.session.settings kind = .ok b := by
  rcases h.slot with hslot | ⟨c, hslot, hc⟩
  · rw [Session.backendIn, hslot] at hb
    exact Host.build_repaired hb
  · rw [Session.backendIn_of_held hslot, Except.ok.injEq] at hb
    exact hb ▸ hc

theorem backendName_eq (h : Descends w₀ kind w) : w.session.backendName = kind.text := by
  rw [Session.backendName]
  rcases h.slot with hslot | ⟨b, hslot, hb⟩
  · rw [hslot, Slot.name]
  · rw [hslot, Slot.name, Host.name_of_build hb]

/-- All that is said of one step holds of the next one. -/
theorem effect (h : Descends w₀ kind w) (step : Step) : Effect w step :=
  effect_step (fun _ hb => Host.asksNobody_of_build (h.build_eq hb)) step

/-- One step more. -/
theorem next (h : Descends w₀ kind w) (step : Step) : Descends w₀ kind (w.next step) := by
  have heffect := h.effect step
  have hreaders : (w.next step).host.repaired = w.host.repaired := by cases step <;> rfl
  refine ⟨h.readers.trans hreaders.symm, heffect.settings_eq.trans h.settings_eq, ?_⟩
  cases hslot : (w.next step).session.slot with
  | planned other =>
    -- the name tells which kind it is
    have hname := heffect.backendName_eq.trans h.backendName_eq
    rw [Session.backendName, hslot, Slot.name] at hname
    rw [BackendKind.text_inj.mp hname]
    exact .inl rfl
  | held b =>
    refine .inr ⟨b, rfl, ?_⟩
    have hb : w.session.backendIn w.host = .ok b := by
      rcases (heffect.held_iff b).mp hslot with hheld | ⟨-, hb⟩
      · exact Session.backendIn_of_held hheld w.host
      · exact hb
    rw [hreaders, heffect.settings_eq]
    exact h.build_eq hb

/-- **What any number of steps keep.** -/
theorem after (h : Descends w₀ kind w) (steps : List Step) : Descends w₀ kind (w.after steps) := by
  induction steps generalizing w with
  | nil => exact h
  | cons step steps ih => exact ih (h.next step)

/-- A back end that is there stays. -/
theorem held_after (h : Descends w₀ kind w) (hb : w.session.slot = .held b) (steps : List Step) :
    (w.after steps).session.slot = .held b := by
  induction steps generalizing w with
  | nil => exact hb
  | cons step steps ih => exact ih (h.next step) (((h.effect step).held_iff b).mpr (.inl hb))

end Descends

/-! ## Forgetting what happened -/

/-- Two sessions that ask the same stable back end for the same give the same reply. -/
theorem reply_eq_of_isStable {w w' : Workspace} {b : Backend} (hstable : b.IsStable)
    (hb : w.session.backendIn w.host = .ok b) (hb' : w'.session.backendIn w'.host = .ok b)
    (hmode : w.session.mode = w'.session.mode) (hkinds : w.session.kinds = w'.session.kinds)
    {step : Step} (hstep : step.isQuestion = true) : w.reply step = w'.reply step := by
  cases step with
  | find source start stop =>
    simp only [reply, step, Session.find_eq, hb, hb', hmode, hkinds,
      hstable.find_eq w.session.asked w'.session.asked]
    cases LineRange.ofLines? start stop <;> rfl
  | check source =>
    simp only [reply, step, Session.check_eq, hb, hb',
      hstable.check_eq w.session.asked w'.session.asked]
    rfl
  | setMode mode => cases hstep
  | setKinds kinds => cases hstep
  | setEnvironment e => cases hstep
  | setGrammar g => cases hstep

end Workspace

namespace Session

/-- A session that is made by a name holds no back end yet. -/
theorem exists_kind_of_create {e : Environment} {name : Option String} {mode : Option Mode}
    {kinds : Kinds} {settings : Option Settings} {s : Session}
    (h : create e (.named name) mode kinds settings = .ok s) : ∃ kind, s.slot = .planned kind := by
  obtain ⟨own, kind, -, -, rfl⟩ := create_eq_ok_iff.mp h
  exact ⟨kind, rfl⟩

/-- A new session for the same back end, with the same settings and the same wishes. -/
def renewed (s : Session) (kind : BackendKind) : Session :=
  { settings := s.settings, slot := .planned kind, mode := s.mode, kinds := s.kinds }

theorem create_renewed (s : Session) (e : Environment) {kind : BackendKind}
    (hname : s.backendName = kind.text) :
    create e (.named (some s.backendName)) (some s.mode) s.kinds (some s.settings) =
      .ok (s.renewed kind) := by
  refine create_eq_ok_iff.mpr ⟨s.settings, kind, rfl, ?_, rfl⟩
  simp only [Host.nameOr, hname, if_neg kind.text_ne_empty, kind.ofName_text]

end Session

namespace Workspace

/-- **Nothing of what happened shows**: a question is answered as a new session with the same
settings and the same wishes would answer it, on any host with the same readers on which that
session can have its back end. -/
theorem Descends.reply_eq {w₀ w : Workspace} {kind : BackendKind} {b b' : Backend}
    (h : Descends w₀ kind w) (hb : w.session.backendIn w.host = .ok b) {step : Step}
    (hstep : step.isQuestion = true) {host : Host} (hhost : w.host.SharesReaders host)
    (hb' : (w.session.renewed kind).backendIn host = .ok b') (e : Environment) :
    w.reply step = reply ⟨host, e, w.session.renewed kind⟩ step := by
  have hbuild := h.build_eq hb
  obtain rfl : b = b' := Host.build_eq_of_sharesReaders hhost hbuild hb'
  have hrenewed : (⟨host, e, w.session.renewed kind⟩ : Workspace).session.backendIn host = .ok b :=
    hb'
  exact reply_eq_of_isStable (Host.isStable_of_build hbuild) hb hrenewed rfl rfl hstep

/-- **The life of a session** that is made by the name of a back end, whatever is asked of it and
happens around it, in any order.  Its settings and the name of its back end stay what they are; a
back end that is there stays there; every step has the effect that `Effect` describes; and every
question to a session that has its back end is answered as by a new session with the same settings
and wishes, which can be made at any time and has its back end whenever the grammar is in order. -/
theorem session_run_invariant {e : Environment} {name : Option String} {mode : Option Mode}
    {kinds : Kinds} {settings : Option Settings} {s : Session}
    (hcreate : Session.create e (.named name) mode kinds settings = .ok s) (host : Host)
    (steps : List Step) :
    let w := (⟨host, e, s⟩ : Workspace).after steps
    (w.session.settings = s.settings ∧ w.session.backendName = s.backendName) ∧
    (∀ b more, w.session.slot = .held b → (w.after more).session.slot = .held b) ∧
    (∀ step, w.Effect step) ∧
    ∀ e', ∃ fresh, Session.create e' (.named (some s.backendName)) (some w.session.mode)
        w.session.kinds (some s.settings) = .ok fresh ∧
      (∃ b, fresh.backendIn w.host.repaired = .ok b) ∧
      ∀ b b' host' step, step.isQuestion = true → w.session.backendIn w.host = .ok b →
        w.host.SharesReaders host' → fresh.backendIn host' = .ok b' →
        w.reply step = reply ⟨host', e', fresh⟩ step := by
  obtain ⟨kind, hslot⟩ := Session.exists_kind_of_create hcreate
  have hstart : Descends ⟨host, e, s⟩ kind ⟨host, e, s⟩ := ⟨rfl, rfl, .inl hslot⟩
  intro w
  have h : Descends ⟨host, e, s⟩ kind w := hstart.after steps
  have hname : w.session.backendName = s.backendName :=
    h.backendName_eq.trans hstart.backendName_eq.symm
  refine ⟨⟨h.settings_eq, hname⟩, fun b more hb => h.held_after hb more, h.effect, fun e' => ?_⟩
  refine ⟨w.session.renewed kind, ?_, ?_, fun b b' host' step hstep hb hhost hb' => ?_⟩
  · rw [← hname, ← show w.session.settings = s.settings from h.settings_eq]
    exact w.session.create_renewed e' h.backendName_eq
  · exact Host.exists_build_repaired w.host w.session.settings kind
  · exact h.reply_eq hb hstep hhost hb' e'

/-- A host whose grammar cannot be loaded yet. -/
def unreadyHost : Host where
  abstractTree _ := .error (.unreadable [])
  concreteTree _ := default
  grammar := .broken "no grammar"
  start _ := .notFound

/-- A check that fails, a search in no line that gets the back end, and a grammar that is gone
again. -/
def lateSteps : List Step :=
  [.check [], .setGrammar .working, .setMode .smallest, .find [] 2 1, .setGrammar (.broken "gone"),
    .setEnvironment { mode := some "none" }]

/-- The session of these steps has a back end in the end, and checks a text as a new one would. -/
theorem unreadyHost_checked_at_last :
    ∃ s fresh, Session.create {} (.named (some "TS")) none none none = .ok s ∧
      Session.create {} (.named (some "tree-sitter")) (some .smallest) none (some s.settings) =
        .ok fresh ∧
      ((⟨unreadyHost, {}, s⟩ : Workspace).after lateSteps).session.slot =
        .held (.concrete unreadyHost.concreteTree) ∧
      ((⟨unreadyHost, {}, s⟩ : Workspace).after lateSteps).reply (.check []) =
        reply ⟨unreadyHost.repaired, {}, fresh⟩ (.check []) := by
  have hcreate : Session.create {} (.named (some "TS")) none none none =
      .ok { settings := {}, slot := .planned .concrete, mode := .largest, kinds := none } := rfl
  obtain ⟨-, -, -, hfresh⟩ := session_run_invariant hcreate unreadyHost lateSteps
  obtain ⟨fresh, hmade, ⟨b, hb⟩, hreply⟩ := hfresh {}
  exact ⟨_, fresh, hcreate, hmade, rfl, hreply _ b _ _ rfl rfl rfl hb⟩

end Workspace
end Enclosure
