import Enclosure.Proofs.Histories
import Enclosure.Proofs.Overrides

/-!
# A server over many calls

A call builds the back end of a server at most, and leaves nothing else behind that shows.  So it does
not matter what a server has been called for before: if it was made for the environment as it is, each
call is answered as by a session that is made for this call alone.

What is here:

* `Session.Resembles`: what questions keep of a session.
* `Toolbox.after`: what some calls make of a server, with `Toolbox.resembles_after`.
* `Session.Matches`: sessions that answer the same.
* `Toolbox.exists_choice`: the session that a call is answered in.
* `Toolbox.value_search` and `Toolbox.value_check`: the answers to calls.
-/

set_option autoImplicit false

namespace Enclosure

namespace Session

/-! ## What questions keep -/

/-- A session that cannot be told from another one on a host. -/
structure Resembles (host : Host) (s s' : Session) : Prop where
  /-- Both ask the same back end, or fail alike. -/
  backendIn_eq : s'.backendIn host = s.backendIn host
  /-- They have one name for it. -/
  backendName_eq : s'.backendName = s.backendName
  mode_eq : s'.mode = s.mode
  kinds_eq : s'.kinds = s.kinds

namespace Resembles

variable {host : Host} {s s' s'' : Session}

theorem refl (host : Host) (s : Session) : Resembles host s s := ⟨rfl, rfl, rfl, rfl⟩

theorem trans (h : Resembles host s s') (h' : Resembles host s' s'') : Resembles host s s'' where
  backendIn_eq := h'.backendIn_eq.trans h.backendIn_eq
  backendName_eq := h'.backendName_eq.trans h.backendName_eq
  mode_eq := h'.mode_eq.trans h.mode_eq
  kinds_eq := h'.kinds_eq.trans h.kinds_eq

end Resembles

variable {s : Session} {host : Host}

/-- Once a session holds the back end that it asks, it does not matter that it has asked it. -/
theorem resembles_counting {α : Type} {b : Backend} (hb : s.backendIn host = .ok b)
    (t : Traced α) : Resembles host s ((s.holding b).counting t).value.2 where
  backendIn_eq := hb.symm
  backendName_eq := name_of_backendIn hb
  mode_eq := rfl
  kinds_eq := rfl

theorem resembles_find (s : Session) (host : Host) (source : Codes) (start stop : Int) :
    Resembles host s (s.find host source start stop).value.2 := by
  rw [find_eq]
  cases LineRange.ofLines? start stop with
  | none => exact .refl host s
  | some range =>
    cases hb : s.backendIn host with
    | ok b => exact resembles_counting hb _
    | error failure => cases h : failure.isForeign <;> simpa [h] using .refl host s

theorem resembles_check (s : Session) (host : Host) (source : Codes) :
    Resembles host s (s.check host source).value.2 := by
  rw [check_eq]
  cases hb : s.backendIn host with
  | ok b => exact resembles_counting hb _
  | error failure => cases h : failure.isForeign <;> simpa [h] using .refl host s

end Session

namespace Toolbox

/-- A call, and the environment at its time. -/
structure Call where
  environment : Environment
  tool : String
  arguments : Json

/-- What a call makes of a server. -/
def next (host : Host) (t : Toolbox) (c : Call) : Toolbox :=
  (t.call host c.environment c.tool c.arguments).value.2

/-- What some calls make of a server, one after the other. -/
def after (host : Host) (t : Toolbox) (calls : List Call) : Toolbox := calls.foldl (next host) t

/-- Whatever is asked in whichever session, the server keeps its own if the question does. -/
theorem resembles_within {α : Type} (t : Toolbox) (host : Host)
    (choice : Except ConfigFault Choice)
    {ask : Session → Traced (Except Failure α × Session)}
    (h : Session.Resembles host t.session (ask t.session).value.2) :
    Session.Resembles host t.session (t.within choice ask).value.2.session := by
  match choice with
  | .error fault => exact .refl host t.session
  | .ok .own => exact h
  | .ok (.fresh s) => exact .refl host t.session

/-- **One call.** -/
theorem resembles_next (host : Host) (t : Toolbox) (c : Call) :
    Session.Resembles host t.session (t.next host c).session := by
  rw [next, call]
  split
  · exact .refl host t.session
  · split
    · exact .refl host t.session
    · exact t.resembles_within host _ (t.session.resembles_find host _ _ _)
  · split
    · exact .refl host t.session
    · exact t.resembles_within host _ (t.session.resembles_check host _)

/-- **Any number of calls.** -/
theorem resembles_after (host : Host) (t : Toolbox) (calls : List Call) :
    Session.Resembles host t.session (t.after host calls).session := by
  induction calls generalizing t with
  | nil => exact .refl host t.session
  | cons c calls ih => exact (t.resembles_next host c).trans (ih (t.next host c))

end Toolbox

/-! ## The answers to calls -/

/-- Sessions that answer the same on a host. -/
structure Session.Matches (host : Host) (s s' : Session) : Prop where
  back : Backend.SameAnswers (s.backendIn host) (s'.backendIn host)
  mode_eq : s.mode = s'.mode
  kinds_eq : s.kinds = s'.kinds

namespace Session.Matches

variable {host : Host} {s s' : Session}

theorem value_search (h : Matches host s s') (q : Query) :
    (s.search host q).value.1 = (s'.search host q).value.1 :=
  value_find_eq_of_same h.back h.mode_eq h.kinds_eq _ _ _

theorem value_probe (h : Matches host s s') (p : Probe) :
    (s.probe host p).value.1 = (s'.probe host p).value.1 :=
  value_check_eq_of_same h.back _

theorem of_made (host : Host) (settings : Settings) (kind : BackendKind) (mode : Mode)
    (kinds : Kinds) :
    Matches host (made settings kind mode kinds) (made settings kind mode kinds) :=
  ⟨host.sameAnswers_build settings kind, rfl, rfl⟩

end Session.Matches

namespace Toolbox

/-- The session that a choice stands for. -/
def Choice.session (own : Session) : Choice → Session
  | .own => own
  | .fresh s => s

theorem value_within {α : Type} (t : Toolbox) (choice : Choice)
    (ask : Session → Traced (Except Failure α × Session)) :
    (t.within (.ok choice) ask).value.1 = (ask (choice.session t.session)).value.1 := by
  cases choice <;> rfl

variable {t : Toolbox} {host : Host} {e : Environment} {settings : Settings}
  {own kind : BackendKind} {backend : Option String}

/-- A call names the back end that is meant, also if it leaves the name open. -/
theorem ofName_nameFor (hname : t.session.backendName = own.text)
    (hown : BackendKind.ofName settings.backend = .ok own)
    (hkind : BackendKind.ofName (Host.nameOr backend settings) = .ok kind) :
    BackendKind.ofName (Host.nameOr (some (t.nameFor backend)) settings) = .ok kind := by
  have hopen : BackendKind.ofName (Host.nameOr (some own.text) settings) = .ok own := by
    rw [Host.nameOr]
    simp only [if_neg own.text_ne_empty, own.ofName_text]
  cases backend with
  | none => rw [nameFor, hname, hopen, ← hown, ← hkind, Host.nameOr]
  | some name =>
    simp only [nameFor]
    split
    · next hempty =>
      rw [hname, hopen, ← hown, ← hkind, hempty]
      rfl
    · exact hkind

/-- **The session that a call is answered in**, if the server was made for the environment: it answers
as the one that is made for the call alone. -/
theorem exists_choice (he : Settings.ofEnvironment e = .ok settings)
    (hown : BackendKind.ofName settings.backend = .ok own)
    (hkind : BackendKind.ofName (Host.nameOr backend settings) = .ok kind)
    (h : Session.Resembles host (.made settings own settings.mode none) t.session)
    (mode : Option Mode) (kinds : Kinds) :
    ∃ choice, t.choose e mode kinds backend = .ok choice ∧
      Session.Matches host (choice.session t.session)
        (.made settings kind (mode.getD settings.mode) kinds.orAny) := by
  by_cases hbare : mode = none ∧ kinds.orAny = none ∧ backend = none
  · refine ⟨.own, t.choose_own e hbare, ?_⟩
    obtain ⟨rfl, hkinds, rfl⟩ := hbare
    obtain rfl : own = kind := Except.ok.inj (hown.symm.trans hkind)
    -- the session of the server may hold its back end by now, and that answers like a new one
    refine ⟨?_, h.mode_eq, h.kinds_eq.trans hkinds.symm⟩
    have hback : t.session.backendIn host = host.build settings own := h.backendIn_eq
    rw [Choice.session, hback]
    exact host.sameAnswers_build settings own
  · have hfilter : kinds.orElse t.session.kinds = kinds.orAny := by
      rw [h.kinds_eq, Session.made, Kinds.orElse]
      cases kinds.orAny <;> rfl
    have hcreate : Session.create e (.named (t.nameFor backend)) (some (mode.getD t.session.mode))
        (kinds.orElse t.session.kinds) none =
          .ok (.made settings kind (mode.getD settings.mode) kinds.orAny) := by
      rw [hfilter, h.mode_eq]
      exact Session.create_eq_ok_iff.mpr
        ⟨settings, kind, he, ofName_nameFor h.backendName_eq hown hkind, rfl⟩
    refine ⟨.fresh _, ?_, .of_made host settings kind _ _⟩
    rw [t.choose_fresh e hbare, hcreate]
    rfl

section

variable (he : Settings.ofEnvironment e = .ok settings)
  (hown : BackendKind.ofName settings.backend = .ok own)
  (h : Session.Resembles host (.made settings own settings.mode none) t.session)

include he hown h

/-- **The answer to a search** is that of a session for this search alone. -/
theorem value_search {q : Query}
    (hkind : BackendKind.ofName (Host.nameOr q.backend settings) = .ok kind) :
    (t.search host e q).value.1 = ((Session.made settings kind (q.mode.getD settings.mode)
      q.kinds.orAny).search host q).value.1 := by
  obtain ⟨choice, hchoice, hmatch⟩ := exists_choice he hown hkind h q.mode q.kinds
  rw [search, hchoice, value_within, hmatch.value_search]

/-- **The answer to a check** is that of a session for this check alone. -/
theorem value_check {p : Probe}
    (hkind : BackendKind.ofName (Host.nameOr p.backend settings) = .ok kind) :
    (t.check host e p).value.1 =
      ((Session.made settings kind settings.mode none).probe host p).value.1 := by
  obtain ⟨choice, hchoice, hmatch⟩ := exists_choice he hown hkind h none none
  rw [check, hchoice, value_within, hmatch.value_probe]
  rfl

end

end Toolbox
end Enclosure
