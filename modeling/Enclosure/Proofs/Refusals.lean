import Enclosure.Proofs.Configuration
import Enclosure.Proofs.Overrides
import Enclosure.Proofs.Questions

/-!
# What is refused

Two things can be wrong with a question that is well formed otherwise: a line below the first one, and
the name of a back end that is not known.  Each surface has a rule of its own against either, in a
place of its own: the fields of a request, the options of a command, or the making of a session.  An
unknown name is refused by all of them.  A line below the first one is refused by the requests and the
commands, before anything else is looked at; but a call of a tool takes any integers as lines, and is
told that nothing was found.

What is here:

* `Form.loose`: a form that takes any integers as lines.
* `Query.ofJson_of_loose`: reading a search whose lines do not exist.
* `Command.Reading.integer?` and `Command.ofFind_refused`: options that are no lines.
* `Session.create_unknown`: there is no session for an unknown name.
* `NamesRefused`, `LinesRefused` and `LinesTaken`: what the surfaces do.
* `refusals_exact`: which of the two is refused where.
-/

set_option autoImplicit false

namespace Enclosure

/-! ## Lines that do not exist -/

/-- Some line does not exist. -/
def Query.IsOutside (q : Query) : Prop := q.first < 1 ∨ q.last < 1

/-- A form that takes any integers as lines. -/
def Form.loose (form : Form) : Form := { form with line := Field.integer }

/-- A form that takes only lines that exist. -/
def Form.strict (form : Form) : Form := { form with line := Field.line }

/-- A line does not exist. -/
def Field.outside (n : Int) (name : String) (v : Json) : List Fault :=
  if n < 1 then [⟨[.field name], .belowOne, v⟩] else []

/-- What is wrong with the lines of a search, which were read from two values. -/
def Query.lineFaults (q : Query) (first last : Json) : List Fault :=
  Field.outside q.first "line_start" first ++ Field.outside q.last "line_end" last

namespace Checked

variable {α β : Type}

/-- All that is wrong is wrong with the first of two values. -/
theorem both_of_error {a : Checked α} {b : Checked β} {faults : List Fault} {y : β}
    (ha : a = .error faults) (hb : b = .ok y) : a.both b = .error faults := by
  rw [ha, hb]
  rfl

end Checked

namespace Field

theorem line_of_integer {v : Json} {n : Int} (h : integer v = .ok n) :
    line v = if 1 ≤ n then .ok n else flawed .belowOne v := by
  rw [line, h]

/-- A member that is an integer is a line, or it is said not to be one. -/
theorem required_line {record : Json} {name : String} {absent : Flaw} {n : Int}
    (h : required record name integer absent = .ok n) :
    ∃ v, required record name line absent =
      if n < 1 then .error (outside n name v) else .ok n := by
  rw [required] at h
  cases hget : record.get? name with
  | none =>
    rw [hget] at h
    cases h
  | some v =>
    refine ⟨v, ?_⟩
    rw [hget] at h
    simp only at h
    have hinteger : integer v = .ok n := by
      cases hv : integer v with
      | ok m => rw [hv] at h; exact h
      | error faults => rw [hv] at h; cases h
    rw [required, hget]
    simp only [line_of_integer hinteger, outside]
    by_cases hn : n < 1
    · rw [if_neg (by omega), if_pos hn, if_pos hn]
      rfl
    · rw [if_pos (by omega), if_neg hn]
      rfl

end Field

/-- **Reading a search whose lines do not exist**: exactly the lines are found wrong. -/
theorem Query.ofJson_of_loose {form : Form} {v : Json} {q : Query}
    (h : ofJson form.loose v = .ok q) (hq : q.IsOutside) :
    ∃ first last, ofJson form.strict v = .error (q.lineFaults first last) := by
  rw [ofJson, Checked.map_eq_ok_iff] at h
  obtain ⟨⟨⟨source, first, last⟩, mode, kinds, backend⟩, hparts, rfl⟩ := h
  obtain ⟨hplace, hrest⟩ := Checked.both_eq_ok_iff.mp hparts
  obtain ⟨hsource, hlines⟩ := Checked.both_eq_ok_iff.mp hplace
  obtain ⟨hfirst, hlast⟩ := Checked.both_eq_ok_iff.mp hlines
  obtain ⟨v₁, hfirst'⟩ := Field.required_line hfirst
  obtain ⟨v₂, hlast'⟩ := Field.required_line hlast
  have hfaults : (Field.required v "line_start" Field.line form.loose.absent).both
      (Field.required v "line_end" Field.line form.loose.absent) =
        .error (Field.outside first "line_start" v₁ ++ Field.outside last "line_end" v₂) := by
    rw [hfirst', hlast']
    have hor : first < 1 ∨ last < 1 := hq
    by_cases hn : first < 1 <;> by_cases hm : last < 1
    · simp [hn, hm, Checked.both]
    · simp [hn, hm, Checked.both, Field.outside]
    · simp [hn, hm, Checked.both, Field.outside]
    · exact absurd hor (not_or_intro hn hm)
  refine ⟨v₁, v₂, ?_⟩
  -- apart from the lines, both forms read the same
  have hplace' : (Field.required v "source" Field.text form.loose.absent).both
      ((Field.required v "line_start" Field.line form.loose.absent).both
        (Field.required v "line_end" Field.line form.loose.absent)) =
          .error (Field.outside first "line_start" v₁ ++ Field.outside last "line_end" v₂) := by
    rw [hsource, hfaults]
    rfl
  exact congrArg (Except.map _) (Checked.both_of_error hplace' hrest)

/-! ## Options that are no lines -/

namespace Command

/-- The integer that an option is given, if it is given any text. -/
def Reading.integer? (r : Reading) (s : Switch) : Option (Checked Int) :=
  (r.value? s.name).map fun v => Field.integer (Json.ofString v)

/-- Some words ask for a search, and this is how the words behind its name are read. -/
structure AsksToFind (words : List String) (r : Reading) : Prop where
  named : ∃ front rest,
    enter rootSwitches ["find", "validate", "serve"] words = .ok (.named front "find" rest) ∧
      readWords findSwitches true rest = .ok r
  noHelp : r.has helpSwitch.name = false

/-- Apart from its lines, which are any integers, a search is well formed. -/
structure Reading.IsSearch (r : Reading) (first : Int) (last : Option Int) : Prop where
  path_eq : ∃ p, path r = .ok p
  noSurplus_eq : noSurplus r 1 = .ok ()
  mode_eq : ∃ m, mode r = .ok m
  first_eq : r.integer? startSwitch = some (.ok first)
  last_eq : r.integer? endSwitch = last.map .ok

/-- The word for a search, and words behind it that do not ask for help. -/
theorem asksToFind_of_readWords {words : List String} {r : Reading}
    (hread : readWords findSwitches true words = .ok r) (hhelp : r.has helpSwitch.name = false) :
    AsksToFind ("find" :: words) r :=
  ⟨⟨_, words, enter_named (by decide) words, hread⟩, hhelp⟩

theorem command_of_asksToFind {words : List String} {r : Reading} (h : AsksToFind words r) :
    (Plan.ofWords words).command = ofFind r := by
  obtain ⟨front, rest, hfront, hrest⟩ := h.named
  rw [Plan.ofWords, hfront]
  simp only [ofName, if_true, ofWordsWith, hrest, orHelp, h.noHelp, Bool.false_eq_true, if_false]

/-- What is said of an option that is no line. -/
def notLine (s : Switch) : UsageFault := .badValue (some s.shown) Flaw.belowOne.message

theorem number_of_integer {s : Switch} {v : String} {n : Int}
    (h : Field.integer (Json.ofString v) = .ok n) :
    number s none v = if n < 1 then .error (notLine s) else .ok n := by
  rw [number, Field.line_of_integer h]
  by_cases hn : n < 1
  · rw [if_neg (by omega), if_pos hn]
    rfl
  · rw [if_pos (by omega), if_neg hn]

theorem firstLine_of_integer {r : Reading} {n : Int} (h : r.integer? startSwitch = some (.ok n)) :
    firstLine r = if n < 1 then .error (notLine startSwitch) else .ok n := by
  obtain ⟨v, hv, hn⟩ := Option.map_eq_some_iff.mp h
  rw [firstLine, hv]
  exact number_of_integer hn

theorem lastLine_of_integer {r : Reading} {n : Int} (h : r.integer? endSwitch = some (.ok n)) :
    lastLine r = if n < 1 then .error (notLine endSwitch) else .ok (some n) := by
  obtain ⟨v, hv, hn⟩ := Option.map_eq_some_iff.mp h
  rw [lastLine, ofOption, hv]
  simp only [number_of_integer hn]
  split <;> rfl

theorem bind_eq_error_iff {α β : Type} {a : Asked α} {f : α → Asked β} {fault : UsageFault} :
    (a >>= f) = .error fault ↔ a = .error fault ∨ ∃ x, a = .ok x ∧ f x = .error fault := by
  cases a <;> simp [bind, Except.bind]

theorem bind_eq_ok_iff {α β : Type} {a : Asked α} {f : α → Asked β} {y : β} :
    (a >>= f) = .ok y ↔ ∃ x, a = .ok x ∧ f x = .ok y := by
  cases a <;> simp [bind, Except.bind]

theorem tried_eq_error_iff {α : Type} {a : Asked α} {fault : UsageFault} :
    tried a = .error fault ↔ a = .error fault := by
  cases a <;> simp [tried, Except.map]

/-- Values are read until one of them cannot be used. -/
theorem exists_of_tryAll_eq_error {names : List String} {read : String → Asked Unit}
    {fault : UsageFault} (h : tryAll names read = .error fault) :
    ∃ name ∈ names, read name = .error fault := by
  induction names with
  | nil => cases h
  | cons name names ih =>
    rw [tryAll] at h
    cases hname : read name with
    | error fault' =>
      rw [hname] at h
      exact ⟨name, List.mem_cons_self, hname.trans h⟩
    | ok u =>
      rw [hname] at h
      obtain ⟨m, hm, hfault⟩ := ih h
      exact ⟨m, List.mem_cons_of_mem name hm, hfault⟩

/-- What is wrong with a search is wrong with one of its values, or there are too many words. -/
theorem of_ofFind_eq_error {r : Reading} {fault : UsageFault} (h : ofFind r = .error fault) :
    path r = .error fault ∨ noSurplus r 1 = .error fault ∨ firstLine r = .error fault ∨
      lastLine r = .error fault ∨ mode r = .error fault := by
  simp only [ofFind, bind_eq_error_iff] at h
  -- all values are tried, in the order of the words, before they are read in an order of their own
  rcases h with h | ⟨-, -, h | ⟨-, -, h | ⟨first, -, h | ⟨last, -, h | ⟨p, -, h | ⟨m, -, h⟩⟩⟩⟩⟩⟩
  · obtain ⟨name, -, hname⟩ := exists_of_tryAll_eq_error h
    split_ifs at hname
    · exact .inl (tried_eq_error_iff.mp hname)
    · exact .inr (.inr (.inl (tried_eq_error_iff.mp hname)))
    · exact .inr (.inr (.inr (.inl (tried_eq_error_iff.mp hname))))
    · exact .inr (.inr (.inr (.inr (tried_eq_error_iff.mp hname))))
  · exact .inr (.inl h)
  · exact .inr (.inr (.inl h))
  · exact .inr (.inr (.inr (.inl h)))
  · exact .inl h
  · exact .inr (.inr (.inr (.inr h)))
  · cases h

/-- The lines of a search can be used. -/
theorem of_ofFind_eq_ok {r : Reading} {c : Command} (h : ofFind r = .ok c) :
    ∃ first last, firstLine r = .ok first ∧ lastLine r = .ok last := by
  simp only [ofFind, bind_eq_ok_iff] at h
  obtain ⟨-, -, -, -, first, hfirst, last, hlast, -⟩ := h
  exact ⟨first, last, hfirst, hlast⟩

/-- **A search is refused** if one of its lines does not exist, whatever else is wrong with it. -/
theorem ofFind_refused {r : Reading} {n : Int} (hn : n < 1)
    (h : r.integer? startSwitch = some (.ok n) ∨ r.integer? endSwitch = some (.ok n)) :
    ∃ fault, ofFind r = .error fault := by
  cases hfind : ofFind r with
  | error fault => exact ⟨fault, rfl⟩
  | ok c =>
    obtain ⟨first, last, hfirst, hlast⟩ := of_ofFind_eq_ok hfind
    rcases h with h | h
    · rw [firstLine_of_integer h, if_pos hn] at hfirst
      cases hfirst
    · rw [lastLine_of_integer h, if_pos hn] at hlast
      cases hlast

/-- **The line that does not exist is named** if nothing else is wrong with a search. -/
theorem ofFind_of_isSearch {r : Reading} {first : Int} {last : Option Int}
    (h : r.IsSearch first last) (hout : first < 1 ∨ ∃ n ∈ last, n < 1) :
    first < 1 ∧ ofFind r = .error (notLine startSwitch) ∨
      (∃ n ∈ last, n < 1) ∧ ofFind r = .error (notLine endSwitch) := by
  have hlast (n : Int) (hn : n ∈ last) : r.integer? endSwitch = some (.ok n) := by
    rw [h.last_eq, Option.mem_def.mp hn]
    rfl
  obtain ⟨fault, hfault⟩ : ∃ fault, ofFind r = .error fault := by
    rcases hout with hn | ⟨n, hmem, hn⟩
    · exact ofFind_refused hn (.inl h.first_eq)
    · exact ofFind_refused hn (.inr (hlast n hmem))
  rw [hfault]
  rcases of_ofFind_eq_error hfault with hpath | hsurplus | hfirst | hlast' | hmode
  · obtain ⟨p, hp⟩ := h.path_eq
    cases hpath.symm.trans hp
  · cases hsurplus.symm.trans h.noSurplus_eq
  · rw [firstLine_of_integer h.first_eq] at hfirst
    split at hfirst
    · next hn => exact .inl ⟨hn, congrArg _ (Except.error.inj hfirst).symm⟩
    · cases hfirst
  · cases last with
    | none =>
      rw [lastLine, ofOption, Option.map_eq_none_iff.mp h.last_eq] at hlast'
      cases hlast'
    | some n =>
      rw [lastLine_of_integer (hlast n rfl)] at hlast'
      split at hlast'
      · next hn => exact .inr ⟨⟨n, rfl, hn⟩, congrArg _ (Except.error.inj hlast').symm⟩
      · cases hlast'
  · obtain ⟨m, hm⟩ := h.mode_eq
    cases hmode.symm.trans hm

end Command

/-! ## Names that are not known -/

/-- **There is no session for an unknown name**, if only the environment can be read. -/
theorem Session.create_unknown {e : Environment} {settings : Settings}
    (he : Settings.ofEnvironment e = .ok settings) {name : String} (hne : name ≠ "")
    (hname : BackendKind.ofName? name = none) (mode : Option Mode) (kinds : Kinds) :
    create e (.named (some name)) mode kinds none = .error (.unknownBackend name) := by
  rw [create, Host.settingsOr, he]
  simp only [Host.nameOr, if_neg hne, BackendKind.ofName, hname]

section

variable {host : Host} {e : Environment} {files : Path → FileState} {name : String}

namespace Command

variable {words : List String} {path : Path} {language : Option String} {asJson : Bool}
  {source : Codes}

theorem prepare_unknown (hsource : readSource files path language = .ok source)
    (hname : BackendKind.ofName? name = none) (mode : Option Mode) (kinds : Kinds) :
    prepare e files path language (some name) mode kinds =
      .error (.usage (.badValue (some "--backend") (ConfigFault.unknownBackend name).message)) := by
  simp only [prepare, hsource, backendName, BackendKind.ofName, hname]

theorem endOf_find_unknown {first last : Int} {mode : Option Mode} {kinds : List String}
    (hcommand : (Plan.ofWords words).command =
      .ok (.find path first last mode (some name) kinds language asJson))
    (hsource : readSource files path language = .ok source)
    (hname : BackendKind.ofName? name = none) :
    endOf host e files words =
      .error (.usage (.badValue (some "--backend") (ConfigFault.unknownBackend name).message)) := by
  have hprepare := prepare_unknown (e := e) hsource hname mode (Kinds.orAny (some kinds))
  rw [endOf, hcommand]
  unfold run
  simp only [hprepare, Traced.value_pure]

theorem endOf_validate_unknown
    (hcommand : (Plan.ofWords words).command = .ok (.check path (some name) language asJson))
    (hsource : readSource files path language = .ok source)
    (hname : BackendKind.ofName? name = none) :
    endOf host e files words =
      .error (.usage (.badValue (some "--backend") (ConfigFault.unknownBackend name).message)) := by
  have hprepare := prepare_unknown (e := e) hsource hname none none
  rw [endOf, hcommand]
  unfold run
  simp only [hprepare, Traced.value_pure]

end Command

theorem Tool.ofName?_name (tool : Tool) : ofName? tool.name = some tool := by
  cases tool <;> rfl

namespace Toolbox

variable {t : Toolbox}

theorem choose_unknown {settings : Settings} (he : Settings.ofEnvironment e = .ok settings)
    (hne : name ≠ "") (hname : BackendKind.ofName? name = none) (mode : Option Mode)
    (kinds : Kinds) : t.choose e mode kinds (some name) = .error (.unknownBackend name) := by
  have hnamed : t.nameFor (some name) = name := if_neg hne
  rw [t.choose_fresh e (by simp), hnamed, Session.create_unknown he hne hname]
  rfl

/-- **A line that does not exist** is no reason to refuse a call: nothing is found. -/
theorem search_outside {q : Query} (hq : q.IsOutside) :
    t.search host e q =
      pure (((t.choose e q.mode q.kinds q.backend).mapError Host.misconfigured).map fun _ => none,
        t) := by
  have hnone := (LineRange.ofLines?_eq_none_iff q.first q.last).mpr hq
  have hsearch (s : Session) : s.search host q = pure (.ok none, s) := by
    rw [Session.search, Session.find, hnone]
  rw [search]
  cases t.choose e q.mode q.kinds q.backend with
  | error fault => rfl
  | ok choice =>
    cases choice with
    | own => simp only [within, hsearch]; rfl
    | fresh s => simp only [within, hsearch]; rfl

/-- The answer to a call whose lines do not exist. -/
theorem call_outside {arguments : Json} {q : Query}
    (hquestion : question .search (Query.ofJson form) arguments = .ok q) (hq : q.IsOutside) :
    t.call host e Tool.search.name arguments =
      pure (((t.choose e q.mode q.kinds q.backend).mapError Host.misconfigured).map fun _ =>
        .record [("result", .null)], t) := by
  simp only [call, Tool.ofName?_name, hquestion, t.search_outside hq]
  cases t.choose e q.mode q.kinds q.backend <;> rfl

theorem call_search_unknown {settings : Settings} (he : Settings.ofEnvironment e = .ok settings)
    (hne : name ≠ "") (hname : BackendKind.ofName? name = none) {arguments : Json} {q : Query}
    (hquestion : question .search (Query.ofJson form) arguments = .ok q)
    (hbackend : q.backend = some name) :
    t.call host e Tool.search.name arguments =
      pure (.error (Host.misconfigured (.unknownBackend name)), t) := by
  have hchoose := t.choose_unknown he hne hname q.mode q.kinds
  simp only [call, Tool.ofName?_name, hquestion, search, hbackend, hchoose]
  rfl

theorem call_check_unknown {settings : Settings} (he : Settings.ofEnvironment e = .ok settings)
    (hne : name ≠ "") (hname : BackendKind.ofName? name = none) {arguments : Json} {p : Probe}
    (hquestion : question .check (Probe.ofJson form) arguments = .ok p)
    (hbackend : p.backend = some name) :
    t.call host e Tool.check.name arguments =
      pure (.error (Host.misconfigured (.unknownBackend name)), t) := by
  have hchoose := t.choose_unknown he hne hname none none
  simp only [call, Tool.ofName?_name, hquestion, check, hbackend, hchoose]
  rfl

end Toolbox

namespace Http

/-- The lines of a request are looked at before anything else is done. -/
theorem answer_outside {r : Request} {q : Query} (hasks : r.Asks .search (Query.ofJson form.loose) q)
    (hq : q.IsOutside) :
    ∃ first last, answer host e r =
      pure (.ok (complaint 422 (.array ((q.lineFaults first last).map ofFault)))) := by
  have hquestion : ∃ first last, r.question (Query.ofJson form) =
      .error (.faulty (q.lineFaults first last)) := by
    have hloose := hasks.question_eq
    rw [Request.question] at hloose ⊢
    split at hloose
    · cases hloose
    · next ms hdocument =>
      have hread : Query.ofJson form.loose (.object ms) = .ok q := by
        cases hv : Query.ofJson form.loose (.object ms) with
        | ok q' =>
          rw [hv] at hloose
          exact congrArg _ (Except.ok.inj hloose)
        | error faults =>
          rw [hv] at hloose
          cases hloose
      obtain ⟨first, last, hfaults⟩ := Query.ofJson_of_loose hread hq
      have hstrict : form.strict = form := rfl
      rw [hstrict] at hfaults
      exact ⟨first, last, by rw [hfaults]; rfl⟩
    · cases hloose
  obtain ⟨first, last, hquestion⟩ := hquestion
  refine ⟨first, last, ?_⟩
  simp only [answer, hasks.route_eq, hasks.method_eq, ne_eq, not_true_eq_false, if_false, hquestion]
  rfl

end Http
end

/-! ## What is refused where -/

/-- All surfaces refuse a question that names a back end which is not known. -/
structure NamesRefused (host : Host) (e : Environment) (files : Path → FileState) (t : Toolbox)
    (name : String) : Prop where
  requestSearch : ∀ {r : Http.Request} {q : Query}, r.Asks .search (Query.ofJson Http.form) q →
    q.backend = some name →
    Http.answer host e r = pure (.ok (Http.refusal 400 (ConfigFault.unknownBackend name).message))
  requestCheck : ∀ {r : Http.Request} {p : Probe}, r.Asks .check (Probe.ofJson Http.form) p →
    p.backend = some name →
    Http.answer host e r = pure (.ok (Http.refusal 400 (ConfigFault.unknownBackend name).message))
  find : ∀ {words path first last mode kinds language asJson source},
    (Plan.ofWords words).command =
      .ok (.find path first last mode (some name) kinds language asJson) →
    Command.readSource files path language = .ok source →
    Command.endOf host e files words =
      .error (.usage (.badValue (some "--backend") (ConfigFault.unknownBackend name).message))
  validate : ∀ {words path language asJson source},
    (Plan.ofWords words).command = .ok (.check path (some name) language asJson) →
    Command.readSource files path language = .ok source →
    Command.endOf host e files words =
      .error (.usage (.badValue (some "--backend") (ConfigFault.unknownBackend name).message))
  callSearch : ∀ {arguments : Json} {q : Query},
    Toolbox.question .search (Query.ofJson Toolbox.form) arguments = .ok q →
    q.backend = some name →
    t.call host e Tool.search.name arguments =
      pure (.error (Host.misconfigured (.unknownBackend name)), t)
  callCheck : ∀ {arguments : Json} {p : Probe},
    Toolbox.question .check (Probe.ofJson Toolbox.form) arguments = .ok p →
    p.backend = some name →
    t.call host e Tool.check.name arguments =
      pure (.error (Host.misconfigured (.unknownBackend name)), t)

/-- Requests and commands refuse a search whose lines do not exist. -/
structure LinesRefused (host : Host) (e : Environment) (files : Path → FileState) : Prop where
  request : ∀ {r : Http.Request} {q : Query}, r.Asks .search (Query.ofJson Http.form.loose) q →
    q.IsOutside →
    ∃ first last, Http.answer host e r =
      pure (.ok (Http.complaint 422 (.array ((q.lineFaults first last).map Http.ofFault))))
  command : ∀ {words : List String} {r : Command.Reading} {n : Int},
    Command.AsksToFind words r → n < 1 →
    r.integer? Command.startSwitch = some (.ok n) ∨ r.integer? Command.endSwitch = some (.ok n) →
    ∃ fault, Command.endOf host e files words = .error (.usage fault)
  commandNamed : ∀ {words : List String} {r : Command.Reading} {first : Int} {last : Option Int},
    Command.AsksToFind words r → r.IsSearch first last → first < 1 ∨ (∃ n ∈ last, n < 1) →
    first < 1 ∧ Command.endOf host e files words =
      .error (.usage (Command.notLine Command.startSwitch)) ∨
    (∃ n ∈ last, n < 1) ∧ Command.endOf host e files words =
      .error (.usage (Command.notLine Command.endSwitch))

/-- A call is answered whatever its lines are; if they do not exist nothing is found. -/
structure LinesTaken (host : Host) (e : Environment) (t : Toolbox) : Prop where
  call : ∀ {arguments : Json} {q : Query},
    Toolbox.question .search (Query.ofJson Toolbox.form) arguments = .ok q → q.IsOutside →
    t.call host e Tool.search.name arguments =
      pure (((t.choose e q.mode q.kinds q.backend).mapError Host.misconfigured).map fun _ =>
        .record [("result", .null)], t)
  callOwn : ∀ {arguments : Json} {q : Query},
    Toolbox.question .search (Query.ofJson Toolbox.form) arguments = .ok q → q.IsOutside →
    q.IsBare → q.backend = none →
    t.call host e Tool.search.name arguments = pure (.ok (.record [("result", .null)]), t)

theorem namesRefused (host : Host) {e : Environment} (files : Path → FileState) (t : Toolbox)
    {settings : Settings} (he : Settings.ofEnvironment e = .ok settings) {name : String}
    (hne : name ≠ "") (hname : BackendKind.ofName? name = none) :
    NamesRefused host e files t name where
  requestSearch hasks hbackend := by
    rw [Http.answer_of_asks_search hasks, Http.answerSearch, Query.session?, hbackend,
      Session.create_unknown he hne hname]
  requestCheck hasks hbackend := by
    rw [Http.answer_of_asks_check hasks, Http.answerCheck, Probe.session?, hbackend,
      Session.create_unknown he hne hname]
  find hcommand hsource := Command.endOf_find_unknown hcommand hsource hname
  validate hcommand hsource := Command.endOf_validate_unknown hcommand hsource hname
  callSearch hquestion hbackend := Toolbox.call_search_unknown he hne hname hquestion hbackend
  callCheck hquestion hbackend := Toolbox.call_check_unknown he hne hname hquestion hbackend

theorem linesRefused (host : Host) (e : Environment) (files : Path → FileState) :
    LinesRefused host e files where
  request hasks hq := Http.answer_outside hasks hq
  command hasks hn h := by
    obtain ⟨fault, hfault⟩ := Command.ofFind_refused hn h
    exact ⟨fault, by rw [Command.endOf, Command.command_of_asksToFind hasks, hfault]⟩
  commandNamed hasks h hout := by
    rw [Command.endOf, Command.command_of_asksToFind hasks]
    rcases Command.ofFind_of_isSearch h hout with ⟨hn, hfind⟩ | ⟨hn, hfind⟩
    · exact .inl ⟨hn, by rw [hfind]⟩
    · exact .inr ⟨hn, by rw [hfind]⟩

theorem linesTaken (host : Host) (e : Environment) (t : Toolbox) : LinesTaken host e t where
  call hquestion hq := Toolbox.call_outside hquestion hq
  callOwn hquestion hq hbare hbackend := by
    rw [Toolbox.call_outside hquestion hq, t.choose_own e ⟨hbare.1, hbare.2, hbackend⟩]
    rfl

/-- **Which questions are refused where**.  If the environment can be read, the name of a back end that
is not known is refused on every surface: as a bad request, as wrong use of the command line, and as a
failed call.  A line below the first one is refused as a request that cannot be processed and as wrong
use of the command line, at the place where it stands.  But a call with such a line is answered like
any other one that finds nothing. -/
theorem refusals_exact (host : Host) (e : Environment) (files : Path → FileState) (t : Toolbox) :
    (∀ settings name, Settings.ofEnvironment e = .ok settings → name ≠ "" →
      BackendKind.ofName? name = none → NamesRefused host e files t name) ∧
    LinesRefused host e files ∧ LinesTaken host e t := by
  refine ⟨fun settings name he hne hname => ?_, ?_, ?_⟩
  · exact namesRefused host files t he hne hname
  · exact linesRefused host e files
  · exact linesTaken host e t

/-- A search from before the first line on. -/
def zeroQuery : Query := { source := "x = 1\n", first := 0, last := 1 }

/-- A server for tools that nothing special is asked of. -/
def plainServer : Toolbox := ⟨.made {} .abstract .largest none⟩

/-- A request and a command are refused for this line, a call is not. -/
theorem zeroQuery_answered :
    (∃ first last, Http.answer .standard {} (.post .search zeroQuery.toJson) =
      pure (.ok (Http.complaint 422 (.array ((zeroQuery.lineFaults first last).map Http.ofFault))))) ∧
    Command.endOf .standard {} plainFiles ["find", "a.py", "--start", "0"] =
      .error (.usage (Command.notLine Command.startSwitch)) ∧
    plainServer.call .standard {} "find_enclosing_context" zeroQuery.toJson =
      pure (.ok (.record [("result", .null)]), plainServer) := by
  obtain ⟨-, hrefused, htaken⟩ := refusals_exact .standard {} plainFiles plainServer
  have hout : zeroQuery.IsOutside := .inl (by decide)
  have hasks : (Http.Request.post .search zeroQuery.toJson).Asks .search
      (Query.ofJson Http.form.loose) zeroQuery := by
    have hsurvives := zeroQuery.survives_toJson (by decide) (by decide) (Json.maxNesting - 2)
    exact ⟨by decide, rfl, Http.question_post .search hsurvives (zeroQuery.ofJson_toJson _ rfl rfl)⟩
  have hread : Command.readWords Command.findSwitches true ["a.py", "--start", "0"] =
      .ok ⟨[("--start", "0")], ["a.py"]⟩ := by decide +kernel
  have hwords : Command.AsksToFind ["find", "a.py", "--start", "0"]
      ⟨[("--start", "0")], ["a.py"]⟩ := Command.asksToFind_of_readWords hread (by decide)
  have hsearch : Command.Reading.IsSearch ⟨[("--start", "0")], ["a.py"]⟩ 0 none :=
    ⟨⟨_, rfl⟩, rfl, ⟨none, rfl⟩, rfl, rfl⟩
  have hquestion : Toolbox.question .search (Query.ofJson Toolbox.form) zeroQuery.toJson =
      .ok zeroQuery :=
    Toolbox.question_record zeroQuery.keys_members.subset (zeroQuery.ofJson_toJson _ rfl rfl)
  refine ⟨hrefused.request hasks hout, ?_, htaken.callOwn hquestion hout ⟨rfl, rfl⟩ rfl⟩
  rcases hrefused.commandNamed hwords hsearch (.inl (by decide)) with ⟨-, hend⟩ | ⟨⟨n, hn, -⟩, -⟩
  · exact hend
  · cases hn

end Enclosure
