import Enclosure.Proofs.Sessions
import Enclosure.Service.Toolbox

/-!
# Calls that override something

A call that asks for a mode or for kinds of its own is answered in a new session.  Of the session of
the server the new one knows the name of its back end, its mode and its kinds; the settings are
those of the environment, and a back end that was handed to the server is gone.  So the answer is
the one that the session of the server would give if that session goes by the name of its back end
and, for the back end that needs settings, if the environment still says what it was made with.

What is here:

* `Session.overridden`: a session with the mode and the kinds of a call.
* `Toolbox.answer_own` and `Toolbox.answer_fresh`: the answer to a call.
* `Session.SurvivesRebuilding`: sessions that a new one stands in for.
* `Toolbox.agrees_of_survivesRebuilding`: these answer as they should.
* `Toolbox.survivesRebuilding_of_agrees`: no others do.
* `Toolbox.overriding_calls_exact`: all of it together.
-/

set_option autoImplicit false

namespace Enclosure

/-! ## What a call asks for -/

/-- The kinds that count: those of a call if it names any, and otherwise those of the session. -/
def Kinds.orElse (kinds other : Kinds) : Kinds :=
  match kinds.orAny with
  | some ks => some ks
  | none => other

/-- The call asks for neither a mode nor any kinds. -/
def Query.IsBare (q : Query) : Prop := q.mode = none ∧ q.kinds.orAny = none

namespace Session

/-- The session with the mode and the kinds of a call, as far as the call names them. -/
def overridden (s : Session) (q : Query) : Session :=
  { s with mode := q.mode.getD s.mode, kinds := q.kinds.orElse s.kinds }

theorem overridden_of_isBare (s : Session) {q : Query} (h : q.IsBare) : s.overridden q = s := by
  rw [overridden, Kinds.orElse, h.1, h.2]
  rfl

theorem backendIn_overridden (s : Session) (q : Query) (host : Host) :
    (s.overridden q).backendIn host = s.backendIn host := rfl

theorem create_named (e : Environment) (name : String) (mode : Mode) (kinds : Kinds) :
    create e (.named name) (some mode) kinds none =
      match Settings.ofEnvironment e with
      | .error fault => .error fault
      | .ok settings =>
        match BackendKind.ofName (Host.nameOr (some name) settings) with
        | .error fault => .error fault
        | .ok kind =>
          .ok { settings := settings, slot := .planned kind, mode := mode, kinds := kinds } := by
  simp only [create, Host.settingsOr]
  cases Settings.ofEnvironment e with
  | error fault => rfl
  | ok settings =>
    simp only
    cases BackendKind.ofName (Host.nameOr (some name) settings) with
    | error fault => rfl
    | ok kind => rfl

end Session

namespace Toolbox

variable {t : Toolbox} {host : Host} {e : Environment} {q : Query}

/-- The answer to a call that asks for a search. -/
def answer (t : Toolbox) (host : Host) (e : Environment) (q : Query) :
    Except Failure (Option Context) := (t.search host e q).value.1

/-- The name that a new session is made with. -/
def nameFor (t : Toolbox) : Option String → String
  | some name => if name = "" then t.session.backendName else name
  | none => t.session.backendName

theorem some_nameFor (t : Toolbox) (backend : Option String) :
    some (t.nameFor backend) =
      match backend with
      | some b => if b = "" then some t.session.backendName else some b
      | none => some t.session.backendName := by
  cases backend with
  | none => rfl
  | some b =>
    simp only [nameFor]
    split <;> rfl

theorem choose_own (t : Toolbox) (e : Environment) {mode : Option Mode} {kinds : Kinds}
    {backend : Option String} (h : mode = none ∧ kinds.orAny = none ∧ backend = none) :
    t.choose e mode kinds backend = .ok .own := by
  rw [choose.eq_def, h.1, h.2.1, h.2.2]

theorem choose_fresh (t : Toolbox) (e : Environment) {mode : Option Mode} {kinds : Kinds}
    {backend : Option String} (h : ¬(mode = none ∧ kinds.orAny = none ∧ backend = none)) :
    t.choose e mode kinds backend =
      (Session.create e (.named (t.nameFor backend)) (some (mode.getD t.session.mode))
        (kinds.orElse t.session.kinds) none).map .fresh := by
  rw [choose.eq_def]
  split
  · next hkinds => exact absurd ⟨rfl, hkinds, rfl⟩ h
  · exact congrArg (fun name => (Session.create e (.named name) _ _ none).map Choice.fresh)
      (t.some_nameFor _).symm

/-- **A call that overrides nothing** is answered in the session of the server. -/
theorem answer_own (hbare : q.IsBare) (hbackend : q.backend = none) :
    t.answer host e q = (t.session.search host q).value.1 := by
  rw [answer, search, t.choose_own e ⟨hbare.1, hbare.2, hbackend⟩]
  rfl

/-- **Any other call** is answered in a new session. -/
theorem answer_fresh (h : ¬(q.IsBare ∧ q.backend = none)) :
    t.answer host e q =
      match Session.create e (.named (t.nameFor q.backend)) (some (q.mode.getD t.session.mode))
        (q.kinds.orElse t.session.kinds) none with
      | .error fault => .error (Host.misconfigured fault)
      | .ok s => (s.search host q).value.1 := by
  rw [answer, search, t.choose_fresh e fun hnone => h ⟨⟨hnone.1, hnone.2.1⟩, hnone.2.2⟩]
  generalize Session.create e (.named (t.nameFor q.backend)) (some (q.mode.getD t.session.mode))
    (q.kinds.orElse t.session.kinds) none = created
  cases created <;> rfl

end Toolbox

/-! ## Sessions that a new one stands in for -/

/-- A name of the back end of a session: the one it goes by, or another one for the same. -/
def Session.IsCalled (s : Session) (name : String) : Prop :=
  name = s.backendName ∨ ∃ kind, BackendKind.ofName name = .ok kind ∧ kind.text = s.backendName

/-- A session that goes by the name of its back end, made with settings that the environment still
has as far as that back end needs them. -/
def Session.SurvivesRebuilding (s : Session) (e : Environment) : Prop :=
  ∃ kind settings, s.slot = .planned kind ∧ Settings.ofEnvironment e = .ok settings ∧
    (kind = .interpreter →
      settings.program = s.settings.program ∧ settings.timeout = s.settings.timeout)

/-! ## Telling back ends apart -/

/-- A host on which every back end refuses every text. -/
def Host.refusing : Host where
  abstractTree _ := .error (.unreadable [])
  concreteTree _ := default
  grammar := .absent ""
  start _ := .notFound

/-- A concrete tree with one construct in the first line. -/
def lineTree : Concrete.Tree :=
  .node { kind := "module", span := ⟨⟨0, 0⟩, ⟨1, 0⟩, 0, 0⟩ }
    [.node { kind := "line", span := ⟨⟨0, 0⟩, ⟨1, 0⟩, 0, 0⟩ } []]

/-- A host on which no back end refuses a text: those for abstract trees fail in another way, and
the one for concrete trees reports one construct. -/
def Host.unrefusing : Host where
  abstractTree _ := .error (.foreign "" [])
  concreteTree _ := lineTree
  grammar := .working
  start _ := .failed "" ""

/-- A host that has no programs, and that knows this of one program only. -/
def Host.knowing (settings : Settings) : Host where
  abstractTree _ := .error (.unreadable [])
  concreteTree _ := default
  grammar := .absent ""
  start launch :=
    if launch.program = settings.program ∧ launch.timeout = settings.timeout then .notFound
    else .failed "" ""

/-- A search for a line of its own in an empty text. -/
def lineQuery : Query :=
  { source := "", first := 1, last := 1, mode := some .largest, kinds := some ["line"] }

theorem search_refusing (settings : Settings) (kind : BackendKind) (mode : Mode) (kinds : Kinds) :
    (Session.search { settings := settings, slot := .planned kind, mode := mode, kinds := kinds }
      .refusing lineQuery).value.1 = .ok none := by
  rw [Session.search, Session.value_find]
  cases kind <;> rfl

theorem search_knowing (settings settings' : Settings) {s : Session}
    (hback : s.backendIn (.knowing settings) =
      (Host.knowing settings).build settings' .interpreter) :
    (s.search (.knowing settings) lineQuery).value.1 = .ok none ↔
      settings'.program = settings.program ∧ settings'.timeout = settings.timeout := by
  have hrange : LineRange.ofLines? lineQuery.first lineQuery.last =
      some ⟨1, 1, by decide, by decide⟩ := rfl
  have hanswer (n : Nat) (source : Codes) :
      ((Backend.interpreter (Host.knowing settings).start settings'.program
        settings'.timeout (Host.knowing settings).nesting).answer n source).value =
        Report.ofEnding (launchFor settings'.program settings'.timeout source)
          (if settings'.program = settings.program ∧ settings'.timeout = settings.timeout
            then .notFound else .failed "" "") := rfl
  have hfull : LineRange.isEmpty ⟨1, 1, by decide, by decide⟩ = false := by decide
  rw [Session.search, Session.value_find, hrange, hback]
  simp only [Host.build, Backend.value_find, hfull, Bool.false_eq_true, if_false, hanswer]
  by_cases h : settings'.program = settings.program ∧ settings'.timeout = settings.timeout
  · rw [if_pos h]
    exact iff_of_true rfl h
  · rw [if_neg h]
    exact iff_of_false (fun hok => by cases hok) h

theorem nodesOf_lineTree (bytes : Bytes) :
    Concrete.nodesOf lineTree bytes = .ok [{ kind := "module" }, ⟨"line", some 1, some 1, none⟩] := by
  have hlegacy : lineTree.firstLegacy? = none := by
    simp only [lineTree, Concrete.Tree.firstLegacy?, Tree.visit, List.append_nil]
    rfl
  have hvisit : (Tree.visit lineTree.children).filter (·.named) =
      [{ kind := "line", span := ⟨⟨0, 0⟩, ⟨1, 0⟩, 0, 0⟩ }] := by
    simp only [lineTree, Tree.children, Tree.visit, List.append_nil]
    rfl
  have herror : lineTree.label.hasError = false := rfl
  rw [Concrete.nodesOf, herror, hlegacy]
  simp only [Bool.false_eq_true, if_false, Concrete.Tree.outline, hvisit]
  rfl

theorem search_unrefusing (settings : Settings) (kind : BackendKind) (mode : Mode) :
    (Session.search
      { settings := settings, slot := .planned kind, mode := mode, kinds := some ["line"] }
      .unrefusing lineQuery).value.1 ≠ .ok none := by
  rw [Session.search, Session.value_find]
  cases kind with
  | abstract => nofun
  | interpreter => nofun
  | concrete =>
    have hanswer : ((Backend.concrete fun _ => lineTree).answer 0 (Codes.ofString "")).value =
        .ok [{ kind := "module" }, ⟨"line", some 1, some 1, none⟩] :=
      nodesOf_lineTree []
    have hfind : ((Backend.concrete fun _ => lineTree).find 0 (Codes.ofString "")
        ⟨1, 1, by decide, by decide⟩ mode (some ["line"])).value =
        .ok (some ⟨"line", 1, 1, none⟩) := by
      rw [Backend.value_find, hanswer]
      cases mode <;> rfl
    intro h
    exact absurd (hfind.symm.trans h) (by simp)

/-! ## Calls that are answered as they should be -/

namespace Toolbox

variable {t : Toolbox} {host : Host} {e : Environment} {q : Query}

/-- The call is answered as the session of the server itself would answer it with the mode and the
kinds of the call. -/
def Agrees (t : Toolbox) (host : Host) (e : Environment) (q : Query) : Prop :=
  t.answer host e q = ((t.session.overridden q).search host q).value.1

theorem agrees_of_isBare (hbare : q.IsBare) (hbackend : q.backend = none) :
    t.Agrees host e q := by
  rw [Agrees, answer_own hbare hbackend, Session.overridden_of_isBare _ hbare]

/-- The kind of back end that a new session for a call is made for. -/
def kindFor (t : Toolbox) (settings : Settings) (backend : Option String) :
    Except ConfigFault BackendKind :=
  BackendKind.ofName (Host.nameOr (some (t.nameFor backend)) settings)

/-- The new session that a call is answered in. -/
def freshFor (t : Toolbox) (settings : Settings) (kind : BackendKind) (q : Query) : Session where
  settings := settings
  slot := .planned kind
  mode := q.mode.getD t.session.mode
  kinds := q.kinds.orElse t.session.kinds

theorem answer_of_created {settings : Settings} {kind : BackendKind}
    (he : Settings.ofEnvironment e = .ok settings) (hkind : t.kindFor settings q.backend = .ok kind)
    (h : ¬(q.IsBare ∧ q.backend = none)) :
    t.answer host e q = ((t.freshFor settings kind q).search host q).value.1 := by
  rw [kindFor] at hkind
  rw [answer_fresh h, Session.create_named, he]
  simp only [hkind]
  rfl

theorem answer_of_misconfigured (h : ¬(q.IsBare ∧ q.backend = none))
    (hfault : ∀ settings kind, Settings.ofEnvironment e = .ok settings →
      t.kindFor settings q.backend ≠ .ok kind) :
    ∃ fault, t.answer host e q = .error (Host.misconfigured fault) := by
  rw [answer_fresh h, Session.create_named]
  cases he : Settings.ofEnvironment e with
  | error fault => exact ⟨fault, rfl⟩
  | ok settings =>
    simp only
    cases hkind : BackendKind.ofName (Host.nameOr (some (t.nameFor q.backend)) settings) with
    | error fault => exact ⟨fault, rfl⟩
    | ok kind => exact absurd hkind (hfault settings kind he)

/-- A new session whose back end answers like that of the server gives the same answer. -/
theorem agrees_of_same {settings : Settings} {kind : BackendKind}
    (he : Settings.ofEnvironment e = .ok settings) (hkind : t.kindFor settings q.backend = .ok kind)
    (hsame : Backend.SameAnswers (host.build settings kind) (t.session.backendIn host)) :
    t.Agrees host e q := by
  by_cases h : q.IsBare ∧ q.backend = none
  · exact agrees_of_isBare h.1 h.2
  · rw [Agrees, answer_of_created he hkind h]
    have hback : Backend.SameAnswers ((t.freshFor settings kind q).backendIn host)
        ((t.session.overridden q).backendIn host) := hsame
    exact Session.value_find_eq_of_same hback rfl rfl _ _ _

/-- Whichever of its names a call uses, a new session is made for the back end of that name. -/
theorem kindFor_eq_of_isCalled {name : String} (hname : t.session.IsCalled name)
    (settings : Settings) : t.kindFor settings (some name) = t.kindFor settings none := by
  obtain rfl | ⟨kind, hkind, htext⟩ := hname
  · simp only [kindFor, nameFor, ite_self]
  · have hne : name ≠ "" := by
      rintro rfl
      exact absurd (BackendKind.ofName_empty.symm.trans hkind) (by simp)
    simp only [kindFor, nameFor, if_neg hne, Host.nameOr, ← htext, if_neg kind.text_ne_empty,
      hkind, kind.ofName_text]

/-- **Sessions that survive**: every call is answered as it should be, also one that uses a name of
the back end of the server. -/
theorem agrees_of_survivesRebuilding (h : t.session.SurvivesRebuilding e)
    (hbackend : ∀ name, q.backend = some name → t.session.IsCalled name) :
    t.Agrees host e q := by
  obtain ⟨kind, settings, hslot, he, hsettings⟩ := h
  have hname : t.session.backendName = kind.text := by rw [Session.backendName, hslot, Slot.name]
  have hnone : t.kindFor settings none = .ok kind := by
    simp only [kindFor, nameFor, hname, Host.nameOr, if_neg kind.text_ne_empty, kind.ofName_text]
  have hkind : t.kindFor settings q.backend = .ok kind := by
    cases hq : q.backend with
    | none => exact hnone
    | some name => rw [kindFor_eq_of_isCalled (hbackend name hq), hnone]
  have hback : t.session.backendIn host = host.build settings kind := by
    rw [host.build_congr hsettings, Session.backendIn, hslot]
  refine agrees_of_same he hkind ?_
  rw [hback]
  exact host.sameAnswers_build settings kind

/-! ## Calls that are not -/

/-- If calls are answered as they should be, a new session can be made at all. -/
theorem exists_kind_of_agrees (h : ∀ q, q.backend = none → t.Agrees host e q) :
    ∃ settings kind, Settings.ofEnvironment e = .ok settings ∧
      t.kindFor settings none = .ok kind := by
  -- lines that do not exist are never found, but a new session has to be made before that is seen
  have hq := h { source := "", first := 0, last := 0, mode := some .largest } rfl
  by_contra hnone
  obtain ⟨fault, hfault⟩ : ∃ fault, t.answer host e
      { source := "", first := 0, last := 0, mode := some .largest } =
        .error (Host.misconfigured fault) :=
    answer_of_misconfigured (by simp [Query.IsBare]) fun settings kind he hkind =>
      hnone ⟨settings, kind, he, hkind⟩
  rw [Agrees, hfault, Session.search, Session.value_find] at hq
  exact absurd hq (by simp [LineRange.ofLines?])

/-- If calls are answered as they should be on every host, the session is one that survives. -/
theorem survivesRebuilding_of_agrees
    (h : ∀ (host : Host) (q : Query), q.backend = none → t.Agrees host e q) :
    t.session.SurvivesRebuilding e := by
  obtain ⟨settings, kind, he, hkind⟩ := exists_kind_of_agrees (h .refusing)
  have hanswer (host : Host) : t.answer host e lineQuery =
      ((t.freshFor settings kind lineQuery).search host lineQuery).value.1 :=
    answer_of_created he hkind (by simp [Query.IsBare, lineQuery])
  cases hslot : t.session.slot with
  | held b =>
    -- what the server was handed answers the same on every host, and nothing that is built does
    have hback (host : Host) : (t.session.overridden lineQuery).backendIn host = .ok b := by
      rw [Session.backendIn_overridden, Session.backendIn, hslot]
    have hsame : t.answer .unrefusing e lineQuery = t.answer .refusing e lineQuery := by
      rw [h .unrefusing lineQuery rfl, h .refusing lineQuery rfl, Session.search, Session.search,
        Session.value_find, Session.value_find, hback, hback]
    rw [hanswer, hanswer, freshFor, search_refusing] at hsame
    exact absurd hsame (search_unrefusing settings kind _)
  | planned own =>
    have hown : kind = own := by
      have hname : t.session.backendName = own.text := by
        rw [Session.backendName, hslot, Slot.name]
      simp only [kindFor, nameFor, hname, Host.nameOr, if_neg own.text_ne_empty, own.ofName_text,
        Except.ok.injEq] at hkind
      exact hkind.symm
    subst hown
    refine ⟨kind, settings, hslot, he, ?_⟩
    rintro rfl
    have hback : (t.session.overridden lineQuery).backendIn (.knowing t.session.settings) =
        (Host.knowing t.session.settings).build t.session.settings .interpreter := by
      rw [Session.backendIn_overridden, Session.backendIn, hslot]
    rw [← search_knowing t.session.settings settings
      (s := t.freshFor settings .interpreter lineQuery) rfl, ← hanswer, h _ lineQuery rfl,
      search_knowing t.session.settings t.session.settings hback]
    exact ⟨rfl, rfl⟩

/-! ## All calls -/

/-- A call that overrides something anyway may also use a name of the back end of the server. -/
theorem answer_called (hbackend : q.backend = none) (hbare : ¬q.IsBare) {name : String}
    (hname : t.session.IsCalled name) :
    t.answer host e { q with backend := some name } = t.answer host e q := by
  have hkind (settings : Settings) :
      BackendKind.ofName (Host.nameOr (some (t.nameFor (some name))) settings) =
        BackendKind.ofName (Host.nameOr (some (t.nameFor q.backend)) settings) := by
    rw [hbackend]
    exact kindFor_eq_of_isCalled hname settings
  have hwith : t.answer host e { q with backend := some name } = _ :=
    answer_fresh fun h => hbare h.1
  have hwithout : t.answer host e q = _ := answer_fresh fun h => hbare h.1
  rw [hwith, hwithout, Session.create_named, Session.create_named]
  simp only [hkind]
  cases Settings.ofEnvironment e with
  | error fault => rfl
  | ok settings =>
    simp only
    cases BackendKind.ofName (Host.nameOr (some (t.nameFor q.backend)) settings) <;> rfl

/-- **A call changes only what it overrides** if it overrides nothing, and otherwise, whatever the
readers and the programs do, exactly if the session of the server goes by the name of its back end,
the environment is one that settings can be made of, and, for the back end for another interpreter,
still names the program and the time limit of the session.  Then naming the mode or the back end of
the session makes no difference either; naming the back end never does beside another override.  On
a given host a back end that was handed to the server is no loss if the one that is built by its
name answers alike. -/
theorem overriding_calls_exact (t : Toolbox) (e : Environment) :
    (∀ host q, q.backend = none → q.IsBare → t.Agrees host e q) ∧
    ((∀ host q, q.backend = none → t.Agrees host e q) ↔ t.session.SurvivesRebuilding e) ∧
    (t.session.SurvivesRebuilding e → ∀ host q, q.backend = none →
      (q.mode = none →
        t.answer host e { q with mode := some t.session.mode } = t.answer host e q) ∧
      ∀ name, t.session.IsCalled name →
        t.answer host e { q with backend := some name } = t.answer host e q) ∧
    (∀ host q name, q.backend = none → ¬q.IsBare → t.session.IsCalled name →
      t.answer host e { q with backend := some name } = t.answer host e q) ∧
    (∀ host b settings kind b', t.session.slot = .held b →
      Settings.ofEnvironment e = .ok settings → t.kindFor settings none = .ok kind →
      host.build settings kind = .ok b' → b'.AnswersAlike b →
      ∀ q, q.backend = none → t.Agrees host e q) := by
  have hnone {q : Query} (hbackend : q.backend = none) (name : String)
      (hname : q.backend = some name) : t.session.IsCalled name := by
    rw [hbackend] at hname
    cases hname
  refine ⟨fun host q hbackend hbare => agrees_of_isBare hbare hbackend,
    ⟨survivesRebuilding_of_agrees, fun h host q hbackend =>
      agrees_of_survivesRebuilding h (hnone hbackend)⟩,
    fun h host q hbackend => ⟨fun hmode => ?_, fun name hname => ?_⟩,
    fun host q name hbackend hbare hname => answer_called hbackend hbare hname,
    fun host b settings kind b' hslot he hkind hbuild halike q hbackend => ?_⟩
  · have hwith : t.Agrees host e { q with mode := some t.session.mode } :=
      agrees_of_survivesRebuilding h (hnone hbackend)
    have hwithout : t.Agrees host e q := agrees_of_survivesRebuilding h (hnone hbackend)
    rw [hwith, hwithout, Session.overridden, Session.overridden, hmode]
    rfl
  · have hwith : t.Agrees host e { q with backend := some name } :=
      agrees_of_survivesRebuilding h fun name' hname' => Option.some_inj.mp hname' ▸ hname
    have hwithout : t.Agrees host e q := agrees_of_survivesRebuilding h (hnone hbackend)
    rw [hwith, hwithout]
    rfl
  · refine agrees_of_same he (hbackend ▸ hkind) ?_
    rw [hbuild, Session.backendIn, hslot]
    exact .built b' b halike

end Toolbox
end Enclosure
