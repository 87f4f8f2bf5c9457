import Enclosure.Proofs.Runs
import Enclosure.Proofs.Sessions
import Enclosure.Service.Http

/-!
# The configuration

The environment is read anew by every command and for every request, and each of them has its own way
to say that it cannot be used.  What they look at is the same: the variables have to be readable, and
the back end that they name has to be one that is known.  If the configuration is broken, no question
is answered and no server is started.  The servers and the requests report it as wrong use; a search
or a check on the command line has no handler for it and lets the failure through.  If it is not
broken, it is nowhere in the way: questions are answered by a session that is made from it, and whether
a server starts depends on its address alone.

What is here:

* `Environment.configured`: the configuration, or what is wrong with it.
* `Session.create_open`: a session for a question that names no back end.
* `Command.server?`, `Server.greeting` and `Server.announcement`: the server of a command, and what is
  said about it.
* `Command.starts_iff`: which servers start.
* `Http.Request.Asks`: a request with a question.
* `ConfigurationRefused` and `ConfigurationUsed`: what becomes of a configuration.
* `configuration_decides`: every configuration is refused or used.
-/

set_option autoImplicit false

namespace Enclosure

open Console

/-! ## Names without brackets -/

namespace Text

/-- An ASCII character without a lower case of its own stays in a text that is lowered. -/
theorem mem_lowerFrom {c : Char} (hascii : c.toNat < 128) (hlower : c.toLower = c)
    {before cs : List Char} (h : c ∈ cs) : c ∈ lowerFrom before cs := by
  induction cs generalizing before with
  | nil => cases h
  | cons d cs ih =>
    rw [lowerFrom, List.mem_append]
    rcases List.mem_cons.mp h with rfl | h
    · have hsigma : c ≠ 'Σ' := by
        rintro rfl
        exact absurd hascii (by decide)
      simp [hsigma, hascii, hlower]
    · exact .inr (ih h)

theorem mem_dropWhile {c : Char} {cs : List Char} {p : Char → Bool} (hc : p c = false) (h : c ∈ cs) :
    c ∈ cs.dropWhile p := by
  rw [← List.takeWhile_append_dropWhile (p := p) (l := cs), List.mem_append] at h
  refine h.resolve_left fun hfront => ?_
  rw [List.mem_takeWhile_imp hfront] at hc
  cases hc

/-- Only blanks are cut off. -/
theorem mem_trimChars {c : Char} (hblank : isBlank c = false) {cs : List Char} (h : c ∈ cs) :
    c ∈ trimChars cs := by
  rw [trimChars, trimEnd, List.mem_reverse]
  exact mem_dropWhile hblank (List.mem_reverse.mpr (mem_dropWhile hblank h))

end Text

/-- A name that is known is one of a few, up to case and white space. -/
theorem BackendKind.mem_aliases {name : String} {kind : BackendKind} (h : ofName? name = some kind) :
    Text.lower (Text.trim name) ∈ aliases.map Prod.fst := by
  rw [ofName?, List.lookup_eq_some_iff] at h
  obtain ⟨front, back, haliases, -⟩ := h
  rw [haliases, List.map_append]
  exact List.mem_append_right _ List.mem_cons_self

/-- The name of a back end holds no bracket that could close a tag. -/
theorem BackendKind.close_not_mem {name : String} {kind : BackendKind} (h : ofName? name = some kind) :
    ']' ∉ name.toList := by
  intro hmem
  have hlower : ']' ∈ (Text.lower (Text.trim name)).toList := by
    rw [Text.lower, String.toList_ofList]
    refine Text.mem_lowerFrom (by decide) (by decide) ?_
    rw [Text.trim, String.toList_ofList]
    exact Text.mem_trimChars (by decide) hmem
  have hbare : ∀ word ∈ aliases.map Prod.fst, ']' ∉ word.toList := by decide
  exact hbare _ (mem_aliases h) hlower

/-! ## Configurations -/

/-- The settings with the back end that they name, or what is wrong with them. -/
def Environment.configured (e : Environment) : Except ConfigFault (Settings × BackendKind) :=
  match Settings.ofEnvironment e with
  | .error fault => .error fault
  | .ok settings => (BackendKind.ofName settings.backend).map fun kind => (settings, kind)

namespace Environment

variable {e : Environment}

theorem configured_eq_ok_iff {settings : Settings} {kind : BackendKind} :
    e.configured = .ok (settings, kind) ↔
      Settings.ofEnvironment e = .ok settings ∧ BackendKind.ofName? settings.backend = some kind := by
  rw [configured]
  cases Settings.ofEnvironment e with
  | error fault => simp
  | ok settings' =>
    simp only [BackendKind.ofName, Except.ok.injEq]
    cases hkind : BackendKind.ofName? settings'.backend with
    | none =>
      refine iff_of_false (fun h => by cases h) ?_
      rintro ⟨rfl, hsome⟩
      cases hkind.symm.trans hsome
    | some kind' =>
      simp only [Except.map, Except.ok.injEq, Prod.mk.injEq]
      refine and_congr_right ?_
      rintro rfl
      rw [hkind, Option.some_inj]

/-- **A configuration is broken** if a variable cannot be read, or if it names a back end that is not
known. -/
theorem configured_eq_error_iff {fault : ConfigFault} :
    e.configured = .error fault ↔ Settings.ofEnvironment e = .error fault ∨
      ∃ settings, Settings.ofEnvironment e = .ok settings ∧
        BackendKind.ofName? settings.backend = none ∧
        fault = .unknownBackend settings.backend := by
  rw [configured]
  cases Settings.ofEnvironment e with
  | error fault' => simp
  | ok settings =>
    simp only [BackendKind.ofName, Except.ok.injEq, reduceCtorEq, false_or, exists_eq_left']
    cases BackendKind.ofName? settings.backend with
    | none => simp [Except.map, eq_comm]
    | some kind => simp [Except.map]

/-- White space and case do not matter, but the word has to be one of two. -/
example : configured { mode := some " HUGE " } = .error (.unknownMode "huge") := by decide

end Environment

/-- **A session for a question that names no back end** is made from the configuration. -/
theorem Session.create_open (e : Environment) {name : Option String} (hname : name.getD "" = "")
    (mode : Option Mode) (kinds : Kinds) :
    create e (.named name) mode kinds none =
      e.configured.map fun c => made c.1 c.2 (mode.getD c.1.mode) kinds := by
  have hor (settings : Settings) : Host.nameOr name settings = settings.backend := by
    cases name with
    | none => rfl
    | some n => exact if_pos hname
  rw [create, Host.settingsOr, Environment.configured]
  cases Settings.ofEnvironment e with
  | error fault => rfl
  | ok settings =>
    simp only [hor]
    cases BackendKind.ofName settings.backend <;> rfl

/-! ## Commands on files -/

namespace Command

section

variable {host : Host} {e : Environment} {files : Path → FileState} {words : List String}
  {path : Path} {language : Option String} {asJson : Bool} {source : Codes}

/-- What a question about a file needs, if no back end is named. -/
theorem prepare_open (hsource : readSource files path language = .ok source) (mode : Option Mode)
    (kinds : Kinds) :
    prepare e files path language none mode kinds =
      match e.configured with
      | .error fault => .error (.failed (Host.misconfigured fault))
      | .ok (settings, kind) => .ok (source, .made settings kind (mode.getD settings.mode) kinds) := by
  have hsession := @Session.create_open e none rfl mode kinds
  simp only [prepare, hsource, backendName, sessionFor, hsession]
  cases e.configured <;> rfl

/-- A search in a file ends as the configuration decides. -/
theorem endOf_find {first last : Int} {mode : Option Mode} {kinds : List String}
    (hcommand : (Plan.ofWords words).command =
      .ok (.find path first last mode none kinds language asJson))
    (hsource : readSource files path language = .ok source) :
    endOf host e files words =
      match e.configured with
      | .error fault => .error (.failed (Host.misconfigured fault))
      | .ok (settings, kind) =>
        (answered ((Session.made settings kind (mode.getD settings.mode)
          (Kinds.orAny (some kinds))).find host source first last) (findOutcome host asJson)).value := by
  have hprepare := prepare_open (e := e) hsource mode (Kinds.orAny (some kinds))
  rw [endOf, hcommand]
  unfold run
  simp only [hprepare]
  cases e.configured <;> rfl

/-- A check of a file ends as the configuration decides. -/
theorem endOf_validate
    (hcommand : (Plan.ofWords words).command = .ok (.check path none language asJson))
    (hsource : readSource files path language = .ok source) :
    endOf host e files words =
      match e.configured with
      | .error fault => .error (.failed (Host.misconfigured fault))
      | .ok (settings, kind) =>
        (answered ((Session.made settings kind settings.mode none).check host source)
          (checkOutcome host path asJson)).value := by
  have hprepare := prepare_open (e := e) hsource none none
  rw [endOf, hcommand]
  unfold run
  simp only [hprepare]
  cases e.configured <;> rfl

end

end Command

/-! ## Servers -/

/-- The server that a command is to start. -/
def Command.server? : Command → Option Server
  | serveRequests address port logLevel => some (.requests address port logLevel)
  | serveTools transport address port =>
    some (if transport = .stdio then .toolsOnStandardIO else .tools transport address port)
  | _ => none

namespace Server

/-- The address that a server is reached at, if it has one. -/
def address : Server → String
  | requests address _ _ => address
  | toolsOnStandardIO => ""
  | tools _ address _ => address

/-- What is said about a server before it starts, with tags, up to the names of what is configured. -/
def greeting : Server → String
  | requests address port _ =>
    s!"[green]Enclosing-context API on http://{address}:{port}[/green]"
  | toolsOnStandardIO => ""
  | tools transport address port =>
    s!"[green]Enclosing-context MCP ({transport.text}) on {address}:{port}[/green]"

/-- What is said about a server before it starts, with the name of the back end where that is said. -/
def announcement (backend : String) : Server → String
  | requests address port logLevel =>
    (requests address port logLevel).greeting ++ s!" (backend: {backend})"
  | server => server.greeting

theorem greeting_requests (address : String) (port : Int) (logLevel : LogLevel) :
    (requests address port logLevel).greeting =
      s!"[green]Enclosing-context API on http://{address}:{port}[/green]" := rfl

theorem greeting_tools (transport : Transport) (address : String) (port : Int) :
    (tools transport address port).greeting =
      s!"[green]Enclosing-context MCP ({transport.text}) on {address}:{port}[/green]" := rfl

theorem of_mem_toString {n : Int} {c : Char} (h : c ∈ (toString n).toList) :
    c = '-' ∨ c.isDigit = true := by
  rw [Int.toString_eq_repr, Int.repr_eq_if] at h
  split at h
  · rw [Nat.toList_repr] at h
    exact .inr (Nat.isDigit_of_mem_toDigits (by decide) (by decide) h)
  · rw [String.toList_append, Nat.toList_repr, List.mem_append] at h
    rcases h with h | h
    · exact .inl (by simpa using h)
    · exact .inr (Nat.isDigit_of_mem_toDigits (by decide) (by decide) h)

/-- A character that is neither a sign nor a digit is in no number. -/
theorem not_mem_toString {c : Char} (hsign : c ≠ '-') (hdigit : c.isDigit = false) (n : Int) :
    c ∉ (toString n).toList := by
  intro h
  rcases of_mem_toString h with rfl | hc
  · exact hsign rfl
  · rw [hdigit] at hc
    cases hc

/-- A text with a number behind a colon does not end in a backslash. -/
theorem getLast?_ne_backslash (s : String) (n : Int) :
    (s ++ ":" ++ toString n).toList.getLast? ≠ some '\\' := by
  intro h
  rw [String.toList_append, List.getLast?_append] at h
  cases hlast : (toString n).toList.getLast? with
  | some c =>
    rw [hlast, Option.some_or, Option.some_inj] at h
    exact not_mem_toString (by decide) (by decide) n (h ▸ List.mem_of_getLast? hlast)
  | none =>
    rw [hlast, Option.none_or, String.toList_append, List.getLast?_append] at h
    simp at h

/-- What can be shown in styles that can be read. -/
def IsClean (values : Markup.Values) (markup : String) : Prop :=
  ∃ seen, Markup.show values markup.toList = .ok seen ∧ seen.IsReadable

/-- What is the same but for places is as clean. -/
theorem IsClean.of_map_unplaced {values : Markup.Values} {markup markup' : String}
    (h : IsClean values markup)
    (heq : (Markup.show values markup'.toList).map Markup.Seen.unplaced =
      (Markup.show values markup.toList).map Markup.Seen.unplaced) : IsClean values markup' := by
  obtain ⟨seen, hshow, hreadable⟩ := h
  rw [hshow] at heq
  obtain ⟨seen', hshow', hseen⟩ := Markup.exists_of_map_eq_ok heq
  rw [← Markup.Seen.isReadable_unplaced] at hreadable
  exact ⟨seen', hshow', (Markup.Seen.isReadable_unplaced seen').mp (hseen ▸ hreadable)⟩

/-- Some words about an address and a port, in green. -/
theorem isClean_green (values : Markup.Values) (front : String) {address : String}
    (hfront : '[' ∉ front.toList) (haddress : '[' ∉ address.toList) (port : Int) :
    IsClean values ("[green]" ++ front ++ address ++ ":" ++ toString port ++ "[/green]") := by
  have hword : '[' ∉ (front ++ address ++ ":" ++ toString port).toList := by
    simp only [String.toList_append, List.mem_append, not_or]
    exact ⟨⟨⟨hfront, haddress⟩, by decide⟩, not_mem_toString (by decide) (by decide) port⟩
  have hshow := Markup.map_unplaced_show_word values Markup.isStyle_green hword
    (getLast?_ne_backslash (front ++ address) port)
  obtain ⟨seen, hseen, hunplaced⟩ := Markup.exists_of_map_eq_ok hshow
  refine ⟨seen, by simpa using hseen, (Markup.Seen.isReadable_unplaced seen).mp ?_⟩
  rw [hunplaced, Markup.Seen.IsReadable, List.forall_mem_singleton]
  exact Markup.isStyle_green.readable 0 0

/-- **What is said about a server** can be shown if there is no opening bracket in its address. -/
theorem isClean_greeting (values : Markup.Values) {server : Server}
    (h : '[' ∉ server.address.toList) : IsClean values server.greeting := by
  cases server with
  | requests address port logLevel =>
    exact isClean_green values "Enclosing-context API on http://" (by decide +kernel) h port
  | toolsOnStandardIO =>
    obtain ⟨out, hshow⟩ := (Markup.isPlain_of_not_mem h).exists_show values
    exact ⟨_, hshow, fun x hx => nomatch hx⟩
  | tools transport address port =>
    have hfront : '[' ∉ ("Enclosing-context MCP (" ++ transport.text ++ ") on ").toList := by
      cases transport <;> decide +kernel
    have haddress : '[' ∉ address.toList := h
    have hwords : "[green]Enclosing-context MCP (" = "[green]" ++ "Enclosing-context MCP (" := by
      decide +kernel
    have hclean := isClean_green values _ hfront haddress port
    rw [greeting_tools, hwords]
    simpa only [String.append_assoc, toString] using hclean

/-- **The name of the back end** that is configured does not matter for the tags. -/
theorem map_unplaced_show_announcement (values : Markup.Values) {backend : String}
    {kind : BackendKind} (hkind : BackendKind.ofName? backend = some kind) (server : Server) :
    (Markup.show values (server.announcement backend).toList).map Markup.Seen.unplaced =
      (Markup.show values server.greeting.toList).map Markup.Seen.unplaced := by
  cases server with
  | requests address port logLevel =>
    -- no tag ends in what follows the address
    have hsuffix : ']' ∉ (" (backend: " ++ backend ++ ")").toList := by
      simp only [String.toList_append, List.mem_append, not_or]
      exact ⟨⟨by decide +kernel, BackendKind.close_not_mem hkind⟩, by decide +kernel⟩
    have happend := Markup.map_unplaced_show_append values hsuffix
      (Server.requests address port logLevel).greeting.toList
    rw [← String.toList_append] at happend
    exact happend
  | toolsOnStandardIO => rfl
  | tools transport address port => rfl

end Server

namespace Command

variable {host : Host} {e : Environment} {files : Path → FileState} {words : List String}
  {command : Command} {server : Server}

/-- The words of a command start a server. -/
def Starts (host : Host) (e : Environment) (files : Path → FileState) (words : List String)
    (server : Server) : Prop :=
  ∃ outcome, endOf host e files words = .ok outcome ∧ outcome.served = [server]

/-- What is announced can be printed, or else nothing happens. -/
theorem announce_eq (host : Host) (markup : String) (server : Server) :
    announce host markup server =
      match print host.values (some terminalWidth) markup.toList with
      | .ok out => .ok { diagnostics := out, served := [server] }
      | .error refusal => .error (.ofRefusal refusal) := by
  rw [announce, printed]
  cases print host.values (some terminalWidth) markup.toList <;> rfl

theorem serverSettings_eq (e : Environment) :
    serverSettings e =
      match e.configured with
      | .error fault => .error (.usage (.badValue none fault.message))
      | .ok (settings, _) => .ok settings := by
  rw [serverSettings, Environment.configured]
  cases Settings.ofEnvironment e with
  | error fault => rfl
  | ok settings =>
    simp only
    cases BackendKind.ofName settings.backend <;> rfl

/-- **A server is not started** if the configuration is broken; it is reported as wrong use. -/
theorem endOf_server_of_error {fault : ConfigFault} (hfault : e.configured = .error fault)
    (hcommand : (Plan.ofWords words).command = .ok command)
    (hserver : command.server? = some server) :
    endOf host e files words = .error (.usage (.badValue none fault.message)) := by
  have hsettings := serverSettings_eq e
  rw [hfault] at hsettings
  rw [endOf, hcommand]
  unfold run
  cases command with
  | serveRequests address port logLevel => simp only [hsettings, Traced.value_pure]
  | serveTools transport address port => simp only [hsettings, Traced.value_pure]
  | help topic => cases hserver
  | find path first last mode backend kinds language asJson => cases hserver
  | check path backend language asJson => cases hserver

/-- How the words of a command end that is to start a server: it starts if what is announced can be
printed. -/
structure StartsIf (host : Host) (e : Environment) (files : Path → FileState) (words : List String)
    (server : Server) (announcement : String) : Prop where
  starts_iff : Starts host e files words server ↔
    ∃ out, print host.values (some terminalWidth) announcement.toList = .ok out
  refused : ∀ refusal,
    print host.values (some terminalWidth) announcement.toList = .error refusal →
    endOf host e files words = .error (.ofRefusal refusal)

theorem startsIf_of_announce {markup : String}
    (hend : endOf host e files words = announce host markup server) :
    StartsIf host e files words server markup := by
  rw [announce_eq] at hend
  refine ⟨?_, fun refusal hrefusal => by rw [hend, hrefusal]⟩
  rw [Starts, hend]
  cases print host.values (some terminalWidth) markup.toList with
  | ok out => exact iff_of_true ⟨_, rfl, rfl⟩ ⟨out, rfl⟩
  | error refusal => simp

/-- **Which servers start**: with a configuration that is not broken, all those whose announcement can
be printed. -/
theorem startsIf_announcement {settings : Settings} {kind : BackendKind}
    (hconfigured : e.configured = .ok (settings, kind))
    (hcommand : (Plan.ofWords words).command = .ok command)
    (hserver : command.server? = some server) :
    StartsIf host e files words server (server.announcement settings.backend) := by
  have hsettings := serverSettings_eq e
  rw [hconfigured] at hsettings
  cases command with
  | serveRequests address port logLevel =>
    obtain rfl := Option.some.inj hserver
    have hwords : "[/green] (backend: " = "[/green]" ++ " (backend: " := by decide +kernel
    refine startsIf_of_announce ?_
    rw [endOf, hcommand]
    unfold run
    simp only [hsettings, Traced.value_bind, Traced.value_pure, Server.announcement,
      Server.greeting_requests, hwords, String.append_assoc, toString]
  | serveTools transport address port =>
    obtain rfl := Option.some.inj hserver
    by_cases hstdio : transport = .stdio
    · have hend : endOf host e files words = .ok { served := [.toolsOnStandardIO] } := by
        rw [endOf, hcommand]
        unfold run
        simp only [hsettings, if_pos hstdio, Traced.value_bind, Traced.value_pure]
      have hprint := (Markup.isPlain_of_not_mem (List.not_mem_nil (a := '['))).exists_print
        host.values (some terminalWidth)
      rw [if_pos hstdio]
      refine ⟨iff_of_true ⟨_, hend, rfl⟩ hprint, fun refusal hrefusal => ?_⟩
      obtain ⟨out, hout⟩ := hprint
      cases hrefusal.symm.trans hout
    · rw [if_neg hstdio]
      refine startsIf_of_announce ?_
      rw [endOf, hcommand]
      unfold run
      simp only [hsettings, if_neg hstdio, Traced.value_bind, Traced.value_pure,
        Server.announcement, Server.greeting_tools]
  | help topic => cases hserver
  | find path first last mode backend kinds language asJson => cases hserver
  | check path backend language asJson => cases hserver

/-- A server starts if its greeting can be shown in styles that can be read. -/
theorem starts_of_isClean {settings : Settings} {kind : BackendKind}
    (hconfigured : e.configured = .ok (settings, kind))
    (hcommand : (Plan.ofWords words).command = .ok command)
    (hserver : command.server? = some server)
    (hclean : Server.IsClean host.values server.greeting) : Starts host e files words server := by
  have hkind := (Environment.configured_eq_ok_iff.mp hconfigured).2
  obtain ⟨seen, hshow, hreadable⟩ :=
    hclean.of_map_unplaced (Server.map_unplaced_show_announcement host.values hkind server)
  exact (startsIf_announcement hconfigured hcommand hserver).starts_iff.mpr
    (exists_print_of_isReadable hshow hreadable _)

/-- No server starts whose greeting has faulty tags. -/
theorem endOf_of_faulty {settings : Settings} {kind : BackendKind}
    (hconfigured : e.configured = .ok (settings, kind))
    (hcommand : (Plan.ofWords words).command = .ok command)
    (hserver : command.server? = some server) {refusal : Markup.Refusal}
    (hshow : Markup.show host.values server.greeting.toList = .error refusal) :
    endOf host e files words = .error (.ofRefusal refusal) := by
  have hkind := (Environment.configured_eq_ok_iff.mp hconfigured).2
  have heq := Server.map_unplaced_show_announcement host.values hkind server
  rw [hshow] at heq
  exact (startsIf_announcement hconfigured hcommand hserver).refused refusal
    (print_of_error (Markup.eq_error_of_map heq))

end Command

/-! ## Requests -/

namespace Http

/-- A request with a question for a route. -/
structure Request.Asks {α : Type} (r : Request) (route : Route) (read : Json → Checked α) (x : α) :
    Prop where
  route_eq : Route.ofPath? r.path = some route
  method_eq : r.method = route.method
  question_eq : r.question read = .ok x

variable {host : Host} {e : Environment} {r : Request}

theorem answer_of_asks_search {q : Query} (h : r.Asks .search (Query.ofJson form) q) :
    answer host e r = answerSearch host e q := by
  simp only [answer, h.route_eq, h.method_eq, ne_eq, not_true_eq_false, if_false, h.question_eq]

theorem answer_of_asks_check {p : Probe} (h : r.Asks .check (Probe.ofJson form) p) :
    answer host e r = answerCheck host e p := by
  simp only [answer, h.route_eq, h.method_eq, ne_eq, not_true_eq_false, if_false, h.question_eq]

end Http

/-! ## What becomes of a configuration -/

/-- A configuration with a fault is refused: the servers and the requests report wrong use, and a
search or a check on the command line fails as if nothing had been foreseen. -/
structure ConfigurationRefused (host : Host) (e : Environment) (files : Path → FileState)
    (fault : ConfigFault) : Prop where
  serve : ∀ {words command server}, (Plan.ofWords words).command = .ok command →
    command.server? = some server →
    Command.endOf host e files words = .error (.usage (.badValue none fault.message))
  requestSearch : ∀ {r : Http.Request} {q : Query}, r.Asks .search (Query.ofJson Http.form) q →
    q.backend.getD "" = "" → Http.answer host e r = pure (.ok (Http.refusal 400 fault.message))
  requestCheck : ∀ {r : Http.Request} {p : Probe}, r.Asks .check (Probe.ofJson Http.form) p →
    p.backend.getD "" = "" → Http.answer host e r = pure (.ok (Http.refusal 400 fault.message))
  find : ∀ {words path first last mode kinds language asJson source},
    (Plan.ofWords words).command = .ok (.find path first last mode none kinds language asJson) →
    Command.readSource files path language = .ok source →
    Command.endOf host e files words = .error (.failed (Host.misconfigured fault))
  validate : ∀ {words path language asJson source},
    (Plan.ofWords words).command = .ok (.check path none language asJson) →
    Command.readSource files path language = .ok source →
    Command.endOf host e files words = .error (.failed (Host.misconfigured fault))

/-- A configuration is used: every question is answered by a session that is made from it, and a
server starts if it can be announced. -/
structure ConfigurationUsed (host : Host) (e : Environment) (files : Path → FileState)
    (settings : Settings) (kind : BackendKind) : Prop where
  serve : ∀ {words command server}, (Plan.ofWords words).command = .ok command →
    command.server? = some server →
    Command.StartsIf host e files words server (server.announcement settings.backend)
  serveClean : ∀ {words command server}, (Plan.ofWords words).command = .ok command →
    command.server? = some server → Server.IsClean host.values server.greeting →
    Command.Starts host e files words server
  serveFaulty : ∀ {words command server refusal}, (Plan.ofWords words).command = .ok command →
    command.server? = some server →
    Markup.show host.values server.greeting.toList = .error refusal →
    Command.endOf host e files words = .error (.ofRefusal refusal)
  serveBare : ∀ {words command server}, (Plan.ofWords words).command = .ok command →
    command.server? = some server → '[' ∉ server.address.toList →
    Command.Starts host e files words server
  requestSearch : ∀ {r : Http.Request} {q : Query}, r.Asks .search (Query.ofJson Http.form) q →
    q.backend.getD "" = "" →
    Http.answer host e r =
      ((Session.made settings kind (q.mode.getD settings.mode) q.kinds.orAny).search host q).onValue
        fun p => p.1.map fun c => ⟨200, .record [("enclosing_context", .ofContext c)]⟩
  requestCheck : ∀ {r : Http.Request} {p : Probe}, r.Asks .check (Probe.ofJson Http.form) p →
    p.backend.getD "" = "" →
    Http.answer host e r =
      ((Session.made settings kind settings.mode none).probe host p).onValue
        fun p => p.1.map fun v => ⟨200, v.toJson⟩
  find : ∀ {words path first last mode kinds language asJson source},
    (Plan.ofWords words).command = .ok (.find path first last mode none kinds language asJson) →
    Command.readSource files path language = .ok source →
    Command.endOf host e files words =
      (Command.answered ((Session.made settings kind (mode.getD settings.mode)
        (Kinds.orAny (some kinds))).find host source first last) (Command.findOutcome host asJson)).value
  validate : ∀ {words path language asJson source},
    (Plan.ofWords words).command = .ok (.check path none language asJson) →
    Command.readSource files path language = .ok source →
    Command.endOf host e files words =
      (Command.answered ((Session.made settings kind settings.mode none).check host source)
        (Command.checkOutcome host path asJson)).value

theorem configurationRefused (host : Host) {e : Environment} (files : Path → FileState)
    {fault : ConfigFault} (h : e.configured = .error fault) :
    ConfigurationRefused host e files fault where
  serve hcommand hserver := Command.endOf_server_of_error h hcommand hserver
  requestSearch hasks hname := by
    rw [Http.answer_of_asks_search hasks, Http.answerSearch, Query.session?,
      Session.create_open e hname, h]
    rfl
  requestCheck hasks hname := by
    rw [Http.answer_of_asks_check hasks, Http.answerCheck, Probe.session?,
      Session.create_open e hname, h]
    rfl
  find hcommand hsource := by rw [Command.endOf_find hcommand hsource, h]
  validate hcommand hsource := by rw [Command.endOf_validate hcommand hsource, h]

theorem configurationUsed (host : Host) {e : Environment} (files : Path → FileState)
    {settings : Settings} {kind : BackendKind} (h : e.configured = .ok (settings, kind)) :
    ConfigurationUsed host e files settings kind where
  serve hcommand hserver := Command.startsIf_announcement h hcommand hserver
  serveClean := Command.starts_of_isClean h
  serveFaulty hcommand hserver hshow := Command.endOf_of_faulty h hcommand hserver hshow
  serveBare hcommand hserver hbare :=
    Command.starts_of_isClean h hcommand hserver (Server.isClean_greeting host.values hbare)
  requestSearch hasks hname := by
    rw [Http.answer_of_asks_search hasks, Http.answerSearch, Query.session?,
      Session.create_open e hname, h]
    rfl
  requestCheck hasks hname := by
    rw [Http.answer_of_asks_check hasks, Http.answerCheck, Probe.session?,
      Session.create_open e hname, h]
    rfl
  find hcommand hsource := by rw [Command.endOf_find hcommand hsource, h]
  validate hcommand hsource := by rw [Command.endOf_validate hcommand hsource, h]

/-- **Every configuration is refused or used**, and the same ones by all commands and for all requests.
It is refused if and only if a variable of the environment cannot be read or the back end that is named
there is not known. -/
theorem configuration_decides (host : Host) (e : Environment) (files : Path → FileState) :
    ((∃ fault, e.configured = .error fault) ↔
      (∃ fault, Settings.ofEnvironment e = .error fault) ∨
        ∃ settings, Settings.ofEnvironment e = .ok settings ∧
          BackendKind.ofName? settings.backend = none) ∧
    (∀ fault, e.configured = .error fault → ConfigurationRefused host e files fault) ∧
    ∀ settings kind, e.configured = .ok (settings, kind) →
      ConfigurationUsed host e files settings kind := by
  refine ⟨?_, fun fault h => configurationRefused host files h,
    fun settings kind h => configurationUsed host files h⟩
  simp only [Environment.configured_eq_error_iff, exists_or]
  refine or_congr_right ⟨?_, ?_⟩
  · rintro ⟨fault, settings, hsettings, hname, -⟩
    exact ⟨settings, hsettings, hname⟩
  · rintro ⟨settings, hsettings, hname⟩
    exact ⟨_, settings, hsettings, hname, rfl⟩

/-- Under every path there is this text. -/
def plainFiles : Path → FileState := fun _ => .bytes (Utf8.encode (Codes.ofString "x = 1\n"))

/-- If a mode is asked for that there is not, a server is refused and a search fails; if nothing is
asked for, the server starts. -/
theorem unknownMode_refused :
    Command.endOf .standard { mode := some "huge" } plainFiles ["serve", "api"] =
      .error (.usage (.badValue none (ConfigFault.unknownMode "huge").message)) ∧
    Command.endOf .standard { mode := some "huge" } plainFiles ["find", "a.py", "--start", "1"] =
      .error (.failed (Host.misconfigured (.unknownMode "huge"))) ∧
    Command.Starts .standard {} plainFiles ["serve", "api"] (.requests "127.0.0.1" 8000 .info) := by
  have hserve : (Plan.ofWords ["serve", "api"]).command =
      .ok (.serveRequests "127.0.0.1" 8000 .info) := by decide +kernel
  have hfind : (Plan.ofWords ["find", "a.py", "--start", "1"]).command =
      .ok (.find (Path.ofText "a.py") 1 1 none none [] none false) := by decide +kernel
  have hfile : Command.HoldsText plainFiles "a.py" "x = 1\n" := ⟨rfl, rfl, by decide⟩
  have hrefused := (configuration_decides .standard { mode := some "huge" } plainFiles).2.1
    (.unknownMode "huge") (by decide)
  have hused := (configuration_decides .standard {} plainFiles).2.2 {} .abstract (by decide)
  exact ⟨hrefused.serve hserve rfl, hrefused.find hfind hfile.readSource_eq,
    hused.serveBare hserve rfl (by decide)⟩

end Enclosure
