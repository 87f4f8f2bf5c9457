import Enclosure.Proofs.Calls
import Enclosure.Proofs.Questions
import Enclosure.Proofs.Runs
import Enclosure.Proofs.Verdicts

/-!
# The three surfaces

A question can be asked over HTTP, as a call of a tool, and on the command line, and each surface
makes its session in a way of its own.  All of them report what a session finds that is made for the
question, if the text of the file means the same with other line ends.  A check ends with the status
that belongs to its verdict; but a command that prints a good verdict with tags puts the path of the
file among them as it is, and comes to no end if the path closes a style that is not open, or asks for
one that cannot be read.

What is here:

* `Backend.Reads`: what is relied on of a back end.
* `Session.exists_found_oneNewline` and `Session.exists_verdict_oneNewline`: line ends do not matter.
* `Http.answer_search` and `Http.answer_check`: the two questions as requests.
* `Toolbox.call_search` and `Toolbox.call_check`: the two questions as calls.
* `Context.reported` and `Verdict.reported`: contexts and verdicts, member by member.
* `SearchReported` and `CheckReported`: what the surfaces report.
* `surfaces_agree`: they agree.
-/

set_option autoImplicit false

namespace Enclosure

/-! ## Back ends that read a text -/

/-- What is relied on of a back end that reads a text: its answer is one that is expected, in words
that can be repeated, and does not depend on how the lines of the text end. -/
structure Backend.Reads (b : Backend) (source : Codes) : Prop where
  keeps : KeepsContract (b.answer 0 source).value
  spoken : Spoken (b.answer 0 source).value
  newline : (b.answer 0 (Text.oneNewline source)).value = (b.answer 0 source).value

namespace Session

variable {host : Host} {settings : Settings} {kind : BackendKind} {source : Codes}
  (hreads : ∀ b, host.build settings kind = .ok b → b.Reads source)

include hreads

/-- **A search comes to an end**, and to the same one if the lines of the text end otherwise. -/
theorem exists_found_oneNewline (mode : Mode) (kinds : Kinds) (start stop : Int) :
    ∃ c, ((made settings kind mode kinds).find host source start stop).value.1 = .ok c ∧
      ((made settings kind mode kinds).find host (Text.oneNewline source) start stop).value.1 =
        .ok c := by
  cases hb : (made settings kind mode kinds).backendIn host with
  | error failure => exact ⟨none, value_find_of_error hb _ _ _, value_find_of_error hb _ _ _⟩
  | ok b =>
    simp only [value_find, hb]
    cases LineRange.ofLines? start stop with
    | none => exact ⟨none, rfl, rfl⟩
    | some range =>
      obtain ⟨c, hc, -⟩ := Backend.exists_found (hreads b hb).keeps range mode kinds
      exact ⟨c, hc, (Backend.value_find_congr (hreads b hb).newline range mode kinds).trans hc⟩

/-- **A check comes to an end**, and to the same one if the lines of the text end otherwise. -/
theorem exists_verdict_oneNewline (mode : Mode) (kinds : Kinds) :
    ∃ v, ((made settings kind mode kinds).check host source).value.1 = .ok v ∧
      ((made settings kind mode kinds).check host (Text.oneNewline source)).value.1 = .ok v := by
  cases hb : (made settings kind mode kinds).backendIn host with
  | error failure =>
    obtain ⟨error, -, hcheck⟩ := value_check_of_error hb
    exact ⟨_, hcheck _, hcheck _⟩
  | ok b =>
    simp only [value_check, hb]
    obtain ⟨v, hv, -⟩ := Backend.exists_verdict (hreads b hb).keeps (hreads b hb).spoken
    exact ⟨v, hv, (Backend.value_check_congr (hreads b hb).newline).trans hv⟩

end Session

/-! ## Lines -/

/-- A line beyond those of any text. -/
def Query.maxLine : Int := 10 ^ 18

/-- The lines of a search exist, and no surface finds their numbers too long. -/
structure Query.HasLines (q : Query) : Prop where
  one_le_first : 1 ≤ q.first
  first_le : q.first ≤ maxLine
  one_le_last : 1 ≤ q.last
  last_le : q.last ≤ maxLine

theorem length_digitCodes_le {n : Int} (hpos : 1 ≤ n) (hle : n ≤ Query.maxLine) :
    (Json.digitCodes n.natAbs).length ≤ 19 := by
  rw [Json.digitCodes, Codes.ofChars, List.length_map,
    Nat.length_toDigits_le_iff (by decide) (by decide)]
  simp only [Query.maxLine] at hle
  omega

/-! ## Requests -/

namespace Http

variable {host : Host} {e : Environment} {s : Session}

theorem Route.ofPath?_path (route : Route) : ofPath? route.path = some route := by
  cases route <;> decide

/-- **A search over HTTP** is answered with what the session finds. -/
theorem answer_search {q : Query} (hq : q.HasLines) (hs : q.session? e = .ok s)
    {c : Option Context} (hc : (s.search host q).value.1 = .ok c) :
    (answer host e (.post .search q.toJson)).value =
      .ok ⟨200, .record [("enclosing_context", .ofContext c)]⟩ := by
  have hline {n : Int} (hpos : 1 ≤ n) : form.line (.int n) = .ok n := if_pos hpos
  have hsurvives := q.survives_toJson
    ((length_digitCodes_le hq.one_le_first hq.first_le).trans (by decide))
    ((length_digitCodes_le hq.one_le_last hq.last_le).trans (by decide)) (Json.maxNesting - 2)
  have hquestion : (Request.post .search q.toJson).question (Query.ofJson form) = .ok q :=
    question_post .search hsurvives
      (q.ofJson_toJson form (hline hq.one_le_first) (hline hq.one_le_last))
  have hroute : Route.ofPath? (Request.post .search q.toJson).path = some .search :=
    Route.ofPath?_path .search
  have hmethod : (Request.post .search q.toJson).method = Route.search.method := rfl
  simp only [answer, hroute, hmethod, ne_eq, not_true_eq_false, if_false, hquestion, answerSearch, hs,
    Traced.onValue, hc]
  rfl

/-- **A check over HTTP** is answered with the verdict of the session. -/
theorem answer_check {p : Probe} (hs : p.session? e = .ok s) {v : Verdict}
    (hv : (s.probe host p).value.1 = .ok v) :
    (answer host e (.post .check p.toJson)).value = .ok ⟨200, v.toJson⟩ := by
  have hquestion : (Request.post .check p.toJson).question (Probe.ofJson form) = .ok p :=
    question_post .check (p.survives_toJson (Json.maxNesting - 1)) (p.ofJson_toJson form)
  have hroute : Route.ofPath? (Request.post .check p.toJson).path = some .check :=
    Route.ofPath?_path .check
  have hmethod : (Request.post .check p.toJson).method = Route.check.method := rfl
  simp only [answer, hroute, hmethod, ne_eq, not_true_eq_false, if_false, hquestion, answerCheck, hs,
    Traced.onValue, hv]
  rfl

end Http

/-! ## Calls -/

namespace Toolbox

variable {t : Toolbox} {host : Host} {e : Environment}

/-- **A search as a call** is answered with what the server finds. -/
theorem call_search {q : Query} {c : Option Context} (hc : (t.search host e q).value.1 = .ok c) :
    (t.call host e "find_enclosing_context" q.toJson).value.1 =
      .ok (.record [("result", .ofContext c)]) := by
  have htool : Tool.ofName? "find_enclosing_context" = some .search := rfl
  have hquestion : question .search (Query.ofJson form) q.toJson = .ok q :=
    question_record q.keys_members.subset (q.ofJson_toJson form rfl rfl)
  simp only [call, htool, hquestion, Traced.onValue, hc]
  rfl

/-- **A check as a call** is answered with the verdict of the server. -/
theorem call_check {p : Probe} {v : Verdict} (hv : (t.check host e p).value.1 = .ok v) :
    (t.call host e "validate_syntax" p.toJson).value.1 = .ok v.toJson := by
  have htool : Tool.ofName? "validate_syntax" = some .check := rfl
  have hquestion : question .check (Probe.ofJson form) p.toJson = .ok p :=
    question_record p.keys_members.subset (p.ofJson_toJson form)
  simp only [call, htool, hquestion, Traced.onValue, hv]
  rfl

end Toolbox

/-! ## Agreement -/

/-- The status that a check ends with. -/
def Verdict.status (v : Verdict) : Nat := if v.valid then 0 else 1

/-- A context as it is reported: its kind, its first and its last line, and its name if it has one. -/
def Context.reported : Option Context → Json
  | none => .null
  | some c =>
    .record [("kind", .ofString c.kind), ("start_line", .int c.firstLine),
      ("end_line", .int c.lastLine), ("name", (c.name.map Json.ofString).getD .null)]

theorem Context.ofContext_eq_reported (c : Option Context) : Json.ofContext c = reported c := by
  cases c with
  | none => rfl
  | some c =>
    obtain ⟨kind, first, last, name⟩ := c
    cases name <;> rfl

/-- A verdict as it is reported: whether the text is well formed, and what is wrong with it. -/
def Verdict.reported (v : Verdict) : Json :=
  .record [("valid", .bool v.valid), ("error", .ofString v.error)]

theorem Verdict.toJson_eq_reported (v : Verdict) : v.toJson = v.reported := rfl

/-- What the three surfaces report of a search: a request, a call of a server, and a command on a
file. -/
structure SearchReported (host : Host) (e : Environment) (server : Toolbox)
    (files : Path → FileState) (file : String) (q : Query) (c : Option Context) : Prop where
  request : (Http.answer host e (.post .search q.toJson)).value =
    .ok ⟨200, .record [("enclosing_context", Context.reported c)]⟩
  call : (server.call host e "find_enclosing_context" q.toJson).value.1 =
    .ok (.record [("result", Context.reported c)])
  command : Command.endOf host e files
    (Command.searchWords q.first q.last q.mode (q.kinds.getD []) q.backend true file) =
      .ok { output := (Context.reported c).write ++ "\n" }

/-- What the three surfaces report of a check.  A command that prints the verdict with tags ends with
the same status if that can be printed: for a valid file if its path can be printed as a text with
tags, and for any file if there is no bracket in its name. -/
structure CheckReported (host : Host) (e : Environment) (server : Toolbox)
    (files : Path → FileState) (file : String) (p : Probe) (v : Verdict) : Prop where
  request : (Http.answer host e (.post .check p.toJson)).value = .ok ⟨200, v.reported⟩
  call : (server.call host e "validate_syntax" p.toJson).value.1 = .ok v.reported
  command : Command.endOf host e files (Command.checkWords p.backend true file) =
    .ok { status := v.status, output := v.reported.write ++ "\n" }
  text : Command.endOf host e files (Command.checkWords p.backend false file) =
    (Command.printed host none (Command.verdictMarkup (Path.ofText file) v)).map fun out =>
      { status := v.status, output := out }
  printed_iff : v.valid = true →
    ((∃ out, Command.printed host none (Command.verdictMarkup (Path.ofText file) v) = .ok out) ↔
      ∃ out, Console.print host.values none (Path.ofText file).text.toList = .ok out)
  printed : '[' ∉ file.toList →
    ∃ out, Command.printed host none (Command.verdictMarkup (Path.ofText file) v) = .ok out

section

variable {host : Host} {e : Environment} {settings : Settings} {own kind : BackendKind}
  {server : Toolbox} {backend : Option String} {files : Path → FileState} {file source : String}
  (he : Settings.ofEnvironment e = .ok settings)
  (hown : BackendKind.ofName settings.backend = .ok own)
  (hserver : Session.Resembles host (.made settings own settings.mode none) server.session)
  (hbackend : ∀ b ∈ backend, ∃ kind, BackendKind.ofName b = .ok kind)
  (hkind : BackendKind.ofName (Host.nameOr backend settings) = .ok kind)
  (hreads : ∀ b, host.build settings kind = .ok b → b.Reads (Codes.ofString source))
  (hfile : Command.HoldsText files file source)

include he hown hserver hbackend hkind hreads hfile

/-- A search, in a session for the question. -/
theorem exists_searchReported {q : Query} (hsource : q.source = source)
    (hname : q.backend = backend) (hq : q.HasLines) :
    ∃ s c, Session.create e (.named backend) q.mode q.kinds.orAny none = .ok s ∧
      (s.find host (Codes.ofString source) q.first q.last).value.1 = .ok c ∧
      SearchReported host e server files file q c := by
  subst hsource hname
  obtain ⟨c, hc, hlines⟩ := Session.exists_found_oneNewline hreads (q.mode.getD settings.mode)
    q.kinds.orAny q.first q.last
  have hs : q.session? e = .ok (.made settings kind (q.mode.getD settings.mode) q.kinds.orAny) :=
    Session.create_eq_ok_iff.mpr ⟨settings, kind, he, hkind, rfl⟩
  have hcall : (server.search host e q).value.1 = .ok c := by
    rw [Toolbox.value_search he hown hserver hkind]
    exact hc
  have hcommand := Command.endOf_search hfile hbackend hs hq.one_le_first hq.one_le_last
    ((length_digitCodes_le hq.one_le_first hq.first_le).trans (by decide))
    ((length_digitCodes_le hq.one_le_last hq.last_le).trans (by decide)) hlines true
  have hreported : SearchReported host e server files file q c := by
    refine ⟨?_, ?_, ?_⟩
    · rw [← Context.ofContext_eq_reported]
      exact Http.answer_search hq hs hc
    · rw [← Context.ofContext_eq_reported]
      exact Toolbox.call_search hcall
    · rw [← Context.ofContext_eq_reported]
      exact hcommand
  exact ⟨_, c, hs, hc, hreported⟩

/-- A check, in a session for the question. -/
theorem exists_checkReported :
    ∃ s v, Session.create e (.named backend) none none none = .ok s ∧
      (s.check host (Codes.ofString source)).value.1 = .ok v ∧
      CheckReported host e server files file ⟨source, backend⟩ v := by
  obtain ⟨v, hv, hlines⟩ := Session.exists_verdict_oneNewline hreads settings.mode none
  have hs : Probe.session? ⟨source, backend⟩ e = .ok (.made settings kind settings.mode none) :=
    Session.create_eq_ok_iff.mpr ⟨settings, kind, he, hkind, rfl⟩
  have hcall : (server.check host e ⟨source, backend⟩).value.1 = .ok v := by
    rw [Toolbox.value_check (p := ⟨source, backend⟩) he hown hserver hkind]
    exact hv
  have hcommand := Command.endOf_check hfile hbackend hs hlines
  have hreported : CheckReported host e server files file ⟨source, backend⟩ v := by
    refine ⟨?_, ?_, ?_, hcommand false, Command.exists_printed_iff_of_valid host _,
      fun hbare => Command.exists_printed host (fun hmem => ?_) v⟩
    · rw [← v.toJson_eq_reported]
      exact Http.answer_check hs hv
    · rw [← v.toJson_eq_reported]
      exact Toolbox.call_check hcall
    · rw [← v.toJson_eq_reported]
      exact hcommand true
    · rcases Path.mem_toList_text_ofText hmem with hbracket | hslash | hdot
      · exact hbare hbracket
      · cases hslash
      · cases hdot
  exact ⟨_, v, hs, hv, hreported⟩

end

/-- **The three surfaces agree.**  The configuration is valid, so that a server for tools can be made
with it; the server may have answered any calls since.  The back end that is asked for, by any of its
names or by none, reads the text, and a file of the language holds it.  Then a search around any lines
that exist and a check come to an end in a session that is made for the question, and the surfaces
report what that session answers. -/
theorem surfaces_agree {host : Host} {e : Environment} {own : Session}
    (hown : Session.create e (.named none) none none none = .ok own) (calls : List Toolbox.Call)
    {backend : Option String} (hbackend : ∀ b ∈ backend, ∃ kind, BackendKind.ofName b = .ok kind)
    {source : String}
    (hreads : ∀ b, host.backend e backend none = .ok b → b.Reads (Codes.ofString source))
    {files : Path → FileState} {file : String} (hfile : Command.HoldsText files file source) :
    (∀ q : Query, q.source = source → q.backend = backend → q.HasLines →
      ∃ s c, Session.create e (.named backend) q.mode q.kinds.orAny none = .ok s ∧
        (s.find host (Codes.ofString source) q.first q.last).value.1 = .ok c ∧
        SearchReported host e (Toolbox.after host ⟨own⟩ calls) files file q c) ∧
    ∃ s v, Session.create e (.named backend) none none none = .ok s ∧
      (s.check host (Codes.ofString source)).value.1 = .ok v ∧
      CheckReported host e (Toolbox.after host ⟨own⟩ calls) files file ⟨source, backend⟩ v := by
  obtain ⟨settings, ownKind, he, hownKind, rfl⟩ := Session.create_eq_ok_iff.mp hown
  simp only [Host.settingsOr, Host.nameOr] at he hownKind
  obtain ⟨kind, hkind⟩ : ∃ kind, BackendKind.ofName (Host.nameOr backend settings) = .ok kind := by
    cases backend with
    | none => exact ⟨ownKind, hownKind⟩
    | some b =>
      rw [Host.nameOr]
      split
      · exact ⟨ownKind, hownKind⟩
      · exact hbackend b rfl
  have hbuild : ∀ b, host.build settings kind = .ok b → b.Reads (Codes.ofString source) := by
    intro b hb
    refine hreads b ?_
    simp only [Host.backend, Host.settingsOr, he, hkind, hb]
  have hserver := Toolbox.resembles_after host
    ⟨Session.made settings ownKind settings.mode none⟩ calls
  exact ⟨fun q hsource hname hq =>
      exists_searchReported he hownKind hserver hbackend hkind hbuild hfile hsource hname hq,
    exists_checkReported he hownKind hserver hbackend hkind hbuild hfile⟩

/-- A file whose name holds a tag that closes a style. -/
def tagFile : String := "a[/].py"

/-- A search, in a text whose lines do not end with plain line feeds. -/
def returnQuery : Query :=
  { source := "a\r\nb\r", first := 1, last := 1, kinds := some ["line"], backend := some "TS" }

/-- Under every path there is this text. -/
def returnFiles : Path → FileState :=
  fun _ => .bytes (Utf8.encode (Codes.ofString returnQuery.source))

/-- A call of a tool that there is not, and a check at a time when nothing is configured. -/
def earlierCalls : List Toolbox.Call :=
  [⟨{}, "none", .null⟩, ⟨{}, "validate_syntax", Probe.toJson ⟨"", none⟩⟩]

/-- The tag in the name of the file has nothing to close. -/
theorem printed_tagFile : Command.printed .unrefusing none
    (Command.verdictMarkup (Path.ofText tagFile) ⟨true, ""⟩) =
      .error (.badMarkup (.nothingOpen 22)) := by
  have hpieces : Console.Markup.pieces (Command.verdictMarkup (Path.ofText tagFile) ⟨true, ""⟩) =
      [.tag "green".toList 0, .text "Valid".toList, .tag "/green".toList 12, .text " a".toList,
        .tag "/".toList 22, .text ".py".toList] := by decide +kernel
  have hshow : Console.Markup.show Host.unrefusing.values
      (Command.verdictMarkup (Path.ofText tagFile) ⟨true, ""⟩) =
        .error (.tags (.nothingOpen 22)) := by
    rw [Console.Markup.show_eq, hpieces]
    rfl
  rw [Command.printed, Console.print_of_error hshow]
  rfl

/-- The surfaces agree on a file with such a name, but a command that is to show the verdict with tags
comes to no end. -/
theorem tagFile_valid_unshown :
    ∃ own, Session.create { mode := some "smallest" } (.named none) none none none = .ok own ∧
      SearchReported .unrefusing { mode := some "smallest" }
        (Toolbox.after .unrefusing ⟨own⟩ earlierCalls) returnFiles tagFile returnQuery
        (some ⟨"line", 1, 1, none⟩) ∧
      CheckReported .unrefusing { mode := some "smallest" }
        (Toolbox.after .unrefusing ⟨own⟩ earlierCalls) returnFiles tagFile
        ⟨returnQuery.source, returnQuery.backend⟩ ⟨true, ""⟩ ∧
      Command.endOf .unrefusing { mode := some "smallest" } returnFiles
        (Command.checkWords returnQuery.backend false tagFile) =
          .error (.badMarkup (.nothingOpen 22)) := by
  have hanswer : ((Backend.concrete fun _ => lineTree).answer 0
      (Codes.ofString returnQuery.source)).value =
        .ok [{ kind := "module" }, ⟨"line", some 1, some 1, none⟩] := nodesOf_lineTree _
  have hreads : ∀ b, Host.backend .unrefusing { mode := some "smallest" } returnQuery.backend none =
      .ok b → b.Reads (Codes.ofString returnQuery.source) := by
    intro b hb
    obtain rfl : (Backend.concrete fun _ => lineTree) = b := Except.ok.inj hb
    refine ⟨?_, ?_, (nodesOf_lineTree _).trans hanswer.symm⟩
    · rw [hanswer]
      exact .nodes _
    · rw [hanswer]
      nofun
  have hfile : Command.HoldsText returnFiles tagFile returnQuery.source := ⟨rfl, rfl, by decide⟩
  have hbackend : ∀ b ∈ returnQuery.backend, ∃ kind, BackendKind.ofName b = .ok kind := by
    intro b hb
    obtain rfl := Option.some.inj hb
    exact ⟨.concrete, rfl⟩
  obtain ⟨hsearch, s', v, hs', hv, hcheck⟩ :=
    surfaces_agree (e := { mode := some "smallest" }) rfl earlierCalls hbackend hreads hfile
  obtain ⟨s, c, hs, hc, hfound⟩ :=
    hsearch returnQuery rfl rfl ⟨by decide, by decide, by decide, by decide⟩
  obtain rfl : some ⟨"line", 1, 1, none⟩ = c := by
    obtain rfl := Except.ok.inj hs
    have hfind : ((Backend.concrete fun _ => lineTree).find 0 (Codes.ofString returnQuery.source)
        ⟨1, 1, by decide, by decide⟩ .smallest (some ["line"])).value =
          .ok (some ⟨"line", 1, 1, none⟩) := by
      rw [Backend.value_find, hanswer]
      rfl
    rw [Session.value_find] at hc
    exact Except.ok.inj (hfind.symm.trans hc)
  obtain rfl : ⟨true, ""⟩ = v := by
    obtain rfl := Except.ok.inj hs'
    have hcheck : ((Backend.concrete fun _ => lineTree).check 0
        (Codes.ofString returnQuery.source)).value = .ok ⟨true, ""⟩ := by
      rw [Backend.value_check, hanswer]
    rw [Session.value_check] at hv
    exact Except.ok.inj (hcheck.symm.trans hv)
  have htext := hcheck.text
  rw [printed_tagFile] at htext
  exact ⟨_, rfl, hfound, hcheck, htext⟩

end Enclosure
