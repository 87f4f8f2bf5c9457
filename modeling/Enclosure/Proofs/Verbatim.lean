import Enclosure.Proofs.Escaped
import Enclosure.Proofs.Surfaces

/-!
# Verdicts in words

A check that is to show its verdict in words writes one line: whether the text is well formed, the path
of its file, and what is wrong with it.  The line goes through markup on its way.  A good verdict puts
the path there as it is, so that the line is right exactly if there is nothing in the path that markup
gives a meaning to.  A bad verdict escapes the path and the reason, each by itself, and the line is
right exactly if that is enough.

What is here:

* `written_rows_none`: a line without control characters is written as it is.
* `Command.SaysIff` and `Command.saysIff_heading`: lines that are right exactly under a condition.
* `Verdict.line`: what a check is to say.
* `Command.check_says_iff`: when it says this.
-/

set_option autoImplicit false

namespace Enclosure

open Console Console.Markup

/-! ## Lines -/

/-- A control character. -/
def IsControl (c : Char) : Prop := c.toNat < 0x20 ∨ 0x7f ≤ c.toNat ∧ c.toNat < 0xa0

instance : DecidablePred IsControl := fun c =>
  inferInstanceAs (Decidable (c.toNat < 0x20 ∨ 0x7f ≤ c.toNat ∧ c.toNat < 0xa0))

theorem le_toNat_of_not_isControl {c : Char} (h : ¬IsControl c) : 0x20 ≤ c.toNat :=
  Nat.le_of_not_lt fun hlt => h (.inl hlt)

namespace Console

/-- **A line without control characters** is written as it is. -/
theorem written_rows_none {cs : List Char} (h : ∀ c ∈ cs, 0x20 ≤ c.toNat) :
    written ((rows none cs).map charsOf) = String.ofList cs ++ "\n" := by
  have hfeed : '\n' ∉ cs := fun hmem => absurd (h _ hmem) (by decide)
  have htab : '\t' ∉ cs := fun hmem => absurd (h _ hmem) (by decide)
  rw [rows_none_of_not_mem hfeed, expandTabs_cellsOf htab, List.map_singleton, charsOf_cellsOf,
    written, List.map_singleton]
  simp [String.join]

end Console

namespace Command

variable {host : Host}

/-- What a line leaves behind that is printed on the terminal. -/
def lineOutcome (host : Host) (status : Nat) (markup : List Char) : Except Fault Outcome :=
  (printed host none markup).map fun out => { status := status, output := out }

theorem lineOutcome_of_error (status : Nat) {markup : List Char} {refusal : Markup.Refusal}
    (h : print host.values none markup = .error refusal) :
    lineOutcome host status markup = .error (.ofRefusal refusal) := by
  rw [lineOutcome, printed, h]
  rfl

/-- A line without control characters is written as it is seen, if its styles can be read. -/
theorem lineOutcome_of_readable (status : Nat) {markup : List Char} {seen : Seen}
    (hshow : Markup.show host.values markup = .ok seen)
    (hfault : seen.fault? (rows none seen.chars) = none)
    (hprinted : ∀ c ∈ seen.chars, 0x20 ≤ c.toNat) :
    lineOutcome host status markup =
      .ok { status := status, output := String.ofList seen.chars ++ "\n" } := by
  rw [lineOutcome, printed, print, hshow]
  simp only [hfault, written_rows_none hprinted]
  rfl

/-- How a line ends that may be shown otherwise than it is meant: there is one line, whatever it says,
or a tag of it is faulty, or a number in a style; and it says what it is meant to say exactly if a
condition holds. -/
structure SaysIff (status : Nat) (line : String) (condition : Prop)
    (ends : Except Fault Outcome) : Prop where
  one_line : ∀ o, ends = .ok o → ∃ shown : String, '\n' ∉ shown.toList ∧
    o = { status := status, output := shown ++ "\n" }
  fault : ∀ fault, ends = .error fault → (∃ f, fault = .badMarkup f) ∨
    ∃ n : NumberFault, fault = .failed (.foreign "ValueError" (Codes.ofString n.message))
  says_iff : ends = .ok { status := status, output := line ++ "\n" } ↔ condition

/-- A line that is not written says nothing. -/
theorem saysIff_of_refusal (status : Nat) (line : String) {condition : Prop}
    (hcondition : ¬condition) (refusal : Markup.Refusal) :
    SaysIff status line condition (.error (.ofRefusal refusal)) := by
  refine ⟨fun o ho => (nomatch ho), fun fault h => ?_, iff_of_false (fun h => (nomatch h)) hcondition⟩
  obtain rfl := Except.error.inj h
  cases refusal with
  | tags f => exact .inl ⟨f, rfl⟩
  | number n => exact .inr ⟨n, rfl⟩

/-- The word has a style that can be read, and nothing else has one. -/
theorem Heading.isReadable_behind {style word : List Char} (h : Heading style word) {rest : Seen}
    (hspans : rest.spans = []) : (rest.behind word [⟨0, word.length, style⟩]).IsReadable := by
  simp only [Seen.IsReadable, Seen.behind, hspans, List.append_nil, List.forall_mem_singleton]
  exact h.isStyle.readable 0 word.length

/-- **A line that begins with a word in a style** says what it is meant to say exactly if what follows
the word is seen so; with all its brackets, so that there are no other styles. -/
theorem saysIff_heading {style word : List Char} (h : Heading style word) {cs ds : List Char}
    (hprinted : ∀ c ∈ cs, 0x20 ≤ c.toNat) (hcount : ds.count '[' = cs.count '[')
    {condition : Prop}
    (hseen : ∀ length place,
      (showPieces host.values length [] (piecesFrom place [' '] cs)).map Seen.chars = .ok ds ↔
        condition) (status : Nat) :
    SaysIff status (String.ofList (word ++ ds)) condition
      (lineOutcome host status (styled style word cs)) := by
  obtain ⟨place, hshow⟩ := exists_show_styled h.isStyle h.no_bracket h.last cs
  specialize hshow host.values
  rw [h.seenText_eq] at hshow
  specialize hseen word.length place
  cases hpieces : showPieces host.values word.length [] (piecesFrom place [' '] cs) with
  | error refusal =>
    rw [hpieces] at hshow hseen
    rw [lineOutcome_of_error status (print_of_error hshow)]
    refine saysIff_of_refusal status _ (fun hcondition => ?_) refusal
    cases hseen.mpr hcondition
  | ok rest =>
    rw [hpieces] at hshow hseen
    have hchars : rest.chars = ds ↔ condition := by simpa [Except.map] using hseen
    have hline : ∀ c ∈ word ++ rest.chars, 0x20 ≤ c.toNat :=
      List.forall_mem_append.mpr ⟨h.printed, printed_of_showPieces hprinted hpieces⟩
    cases hfault : (rest.behind word [⟨0, word.length, style⟩]).fault?
        (rows none (word ++ rest.chars)) with
    | some fault =>
      rw [lineOutcome_of_error status (print_of_fault hshow hfault)]
      refine saysIff_of_refusal status _ (fun hcondition => ?_) (.number fault)
      have hspans : rest.spans = [] := by
        refine spans_eq_nil_of_count_eq hpieces ?_
        rw [hchars.mpr hcondition, hcount, brackets_piecesFrom]
        simp
      cases hfault.symm.trans ((h.isReadable_behind hspans).fault?_eq_none _)
    | none =>
      rw [lineOutcome_of_readable status hshow hfault hline]
      refine ⟨fun o ho => ⟨String.ofList (word ++ rest.chars), ?_, (Except.ok.inj ho).symm⟩,
        fun _ h => (by cases h), ?_⟩
      · rw [String.toList_ofList]
        exact fun hmem => absurd (hline _ hmem) (by decide)
      · rw [← hchars]
        simp [String.ofList_inj, Seen.behind]

end Command

/-! ## Verdicts -/

/-- What a check is to say. -/
def Verdict.line (v : Verdict) (path : Path) : String :=
  if v.valid then "Valid " ++ path.text else "Invalid " ++ path.text ++ ": " ++ v.error

/-- A verdict that is seen as it is: there is nothing in the path that markup gives a meaning to, or,
where path and reason are escaped, nothing that escaping does not reach. -/
def Verdict.IsLegible (v : Verdict) (path : Path) : Prop :=
  if v.valid then IsInert path.text.toList else Survives path.text.toList v.error.toList

/-- A session whose back end answers as expected comes to a verdict. -/
theorem Session.exists_verdict {s : Session} {host : Host} {source : Codes}
    (h : ∀ b, s.backendIn host = .ok b → Backend.KeepsContract (b.answer s.asked source).value ∧
      Backend.Spoken (b.answer s.asked source).value) :
    ∃ v, (s.check host source).value.1 = .ok v := by
  cases hb : s.backendIn host with
  | error failure =>
    obtain ⟨error, -, hcheck⟩ := value_check_of_error hb
    exact ⟨_, hcheck source⟩
  | ok b =>
    obtain ⟨v, hv, -⟩ := Backend.exists_verdict (h b hb).1 (h b hb).2
    exact ⟨v, by rw [value_check, hb]; exact hv⟩

namespace Command

/-- **A verdict in words** is shown as it is exactly if it is legible. -/
theorem saysIff_verdict {host : Host} {v : Verdict} {path : Path}
    (h : ∀ c ∈ (v.line path).toList, ¬IsControl c) :
    SaysIff v.status (v.line path) (v.IsLegible path)
      (lineOutcome host v.status (verdictMarkup path v)) := by
  have hprinted : ∀ c ∈ (v.line path).toList, 0x20 ≤ c.toNat :=
    fun c hc => le_toNat_of_not_isControl (h c hc)
  cases hv : v.valid with
  | true =>
    have hline : v.line path = String.ofList ("Valid".toList ++ ' ' :: path.text.toList) := by
      rw [Verdict.line, if_pos hv, ← String.toList_inj]
      simp
    have hlegible : v.IsLegible path ↔ IsInert path.text.toList := by
      rw [Verdict.IsLegible, if_pos hv]
    rw [hline, String.toList_ofList] at hprinted
    rw [hline, hlegible, verdictMarkup_of_valid path hv]
    have hpath : ∀ c ∈ path.text.toList, 0x20 ≤ c.toNat := fun c hc =>
      hprinted c (List.mem_append_right _ (List.mem_cons_of_mem _ hc))
    exact saysIff_heading heading_valid hpath (by simp)
      (fun length place => showPieces_eq_iff hpath length [] place) v.status
  | false =>
    have hline : v.line path = String.ofList ("Invalid".toList ++
        ' ' :: (path.text.toList ++ between ++ v.error.toList)) := by
      rw [Verdict.line, hv, if_neg Bool.false_ne_true, ← String.toList_inj]
      simp [between]
    have hlegible : v.IsLegible path ↔ Survives path.text.toList v.error.toList := by
      rw [Verdict.IsLegible, hv]
      rfl
    rw [hline, String.toList_ofList] at hprinted
    rw [hline, hlegible, verdictMarkup_of_not_valid path hv]
    have hrest : ∀ c ∈ path.text.toList ++ between ++ v.error.toList, 0x20 ≤ c.toNat := fun c hc =>
      hprinted c (List.mem_append_right _ (List.mem_cons_of_mem _ hc))
    exact saysIff_heading heading_invalid (printed_escaped hrest)
      (by rw [count_escaped, List.count_cons_of_ne (by decide)])
      (fun length place => showPieces_escape_eq_iff hrest length [] place) v.status

section

variable {host : Host} {e : Environment} {files : Path → FileState} {words : List String}
  {path : Path} {backend language : Option String} {source : Codes} {s : Session}
  (hwords : (Plan.ofWords words).command = .ok (.check path backend language false))
  (hprepare : prepare e files path language backend none none = .ok (source, s))

include hwords hprepare

theorem endOf_check_in_words {v : Verdict} (hv : (s.check host source).value.1 = .ok v) :
    endOf host e files words = lineOutcome host v.status (verdictMarkup path v) := by
  rw [endOf, hwords]
  simp only [run_check hprepare]
  rw [answered, Traced.onValue, hv]
  rfl

/-- **A check in words** comes to a verdict and says so in one line, with the status that belongs to
the verdict, unless a tag or a style of it is faulty; and the line is the verdict with the path of the
file and the reason, as they are, exactly if the verdict is legible.  The back end answers as expected,
in words that can be repeated, and there are no control characters in path and reason. -/
theorem check_says_iff (hanswers : ∀ b, s.backendIn host = .ok b →
      Backend.KeepsContract (b.answer s.asked source).value ∧
        Backend.Spoken (b.answer s.asked source).value) :
    ∃ v, (s.check host source).value.1 = .ok v ∧
      ((∀ c ∈ (v.line path).toList, ¬IsControl c) →
        SaysIff v.status (v.line path) (v.IsLegible path) (endOf host e files words)) := by
  obtain ⟨v, hv⟩ := Session.exists_verdict hanswers
  refine ⟨v, hv, fun hcontrol => ?_⟩
  rw [endOf_check_in_words hwords hprepare hv]
  exact saysIff_verdict hcontrol

end

/-- A file whose name holds a tag. -/
def bracketFile : String := "a[b].py"

/-- A session for a check. -/
def lineSession : Session := .made {} .concrete .largest none

/-- The text that it is asked about, which is well formed. -/
def lineSource : Codes := Text.oneNewline (Codes.ofString returnQuery.source)

theorem answer_lineSource :
    ((Backend.concrete fun _ => lineTree).answer lineSession.asked lineSource).value =
      .ok [{ kind := "module" }, ⟨"line", some 1, some 1, none⟩] := nodesOf_lineTree _

theorem check_lineSource :
    (lineSession.check .unrefusing lineSource).value.1 = .ok ⟨true, ""⟩ := by
  have hbuilt : lineSession.backendIn .unrefusing = .ok (.concrete fun _ => lineTree) := rfl
  rw [Session.value_check, hbuilt]
  exact (Backend.value_check _ _ _).trans (by rw [answer_lineSource])

theorem prepare_lineSource {file : String} (hfile : HoldsText returnFiles file returnQuery.source) :
    prepare {} returnFiles (Path.ofText file) none (some "TS") none none =
      .ok (lineSource, lineSession) := by
  refine prepare_eq_ok hfile (fun b hb => ?_) rfl
  obtain rfl := Option.some.inj hb
  exact ⟨.concrete, rfl⟩

theorem answers_lineSource : ∀ b, lineSession.backendIn .unrefusing = .ok b →
    Backend.KeepsContract (b.answer lineSession.asked lineSource).value ∧
      Backend.Spoken (b.answer lineSession.asked lineSource).value := by
  intro b hb
  obtain rfl : (Backend.concrete fun _ => lineTree) = b := Except.ok.inj hb
  rw [answer_lineSource]
  exact ⟨.nodes _, fun failure h => by cases h⟩

/-- The tag in the name of the file is not seen. -/
theorem show_bracketFile (values : Values) :
    Markup.show values (verdictMarkup (Path.ofText bracketFile) ⟨true, ""⟩) =
      .ok ⟨"Valid a.py".toList, [⟨0, 5, "green".toList⟩, ⟨7, 10, "bold".toList⟩]⟩ := by
  have hseen (cs : List Char) (h : '\\' ∉ cs ∧ ':' ∉ cs ∧ ∀ c ∈ cs, 0x20 ≤ c.toNat) :
      seen (unescapeBrackets cs) = cs := (isLiteral_of_not_mem h.1 h.2.1).seenText_eq h.2.2
  have hpieces : pieces (verdictMarkup (Path.ofText bracketFile) ⟨true, ""⟩) =
      [.tag "green".toList 0, .text "Valid".toList, .tag ('/' :: "green".toList) 12,
        .text " a".toList, .tag "b".toList 22, .text ".py".toList] := by decide +kernel
  have htag (length : Nat) : follow values length [] "b".toList 22 =
      .ok ([⟨length, "bold", none⟩], []) := rfl
  rw [show_eq, hpieces]
  simp only [showPieces, isStyle_green.follow_open, isStyle_green.follow_close, htag,
    hseen "Valid".toList (by simp), hseen " a".toList (by simp), hseen ".py".toList (by simp)]
  rfl

/-- A file whose name holds a tag is reported under another name, the one that is left without the
tag; a file that has this name is reported under the same one. -/
theorem bracketFile_misreported :
    endOf .unrefusing {} returnFiles (checkWords (some "TS") false "a.py") =
      .ok { output := "Valid a.py\n" } ∧
    endOf .unrefusing {} returnFiles (checkWords (some "TS") false bracketFile) ≠
      .ok { output := "Valid a[b].py\n" } ∧
    endOf .unrefusing {} returnFiles (checkWords (some "TS") false bracketFile) =
      .ok { output := "Valid a.py\n" } := by
  have hwords (file : String) : (Plan.ofWords (checkWords (some "TS") false file)).command =
      .ok (.check (Path.ofText file) (some "TS") none false) := by rw [Plan.ofWords_check]
  have hsays (file : String) (hfile : HoldsText returnFiles file returnQuery.source)
      (hprinted : ∀ c ∈ (Verdict.line ⟨true, ""⟩ (Path.ofText file)).toList, ¬IsControl c) :
      SaysIff 0 (Verdict.line ⟨true, ""⟩ (Path.ofText file)) (IsInert (Path.ofText file).text.toList)
        (endOf .unrefusing {} returnFiles (checkWords (some "TS") false file)) := by
    obtain ⟨v, hv, h⟩ :=
      check_says_iff (hwords file) (prepare_lineSource hfile) answers_lineSource
    obtain rfl : ⟨true, ""⟩ = v := Except.ok.inj (check_lineSource.symm.trans hv)
    exact h hprinted
  have hline : Verdict.line ⟨true, ""⟩ (Path.ofText "a.py") = "Valid a.py" := by decide +kernel
  have hline' : Verdict.line ⟨true, ""⟩ (Path.ofText bracketFile) = "Valid a[b].py" := by
    decide +kernel
  have hplain := hsays "a.py" ⟨rfl, rfl, by decide⟩ (by rw [hline]; simp [IsControl])
  have hbracket := hsays bracketFile ⟨rfl, rfl, by decide⟩ (by rw [hline']; simp [IsControl])
  have hpath : (Path.ofText "a.py").text.toList = ['a', '.', 'p', 'y'] := by decide +kernel
  have hpath' : (Path.ofText bracketFile).text.toList = ['a', '[', 'b', ']', '.', 'p', 'y'] := by
    decide +kernel
  rw [hline, hpath] at hplain
  rw [hline', hpath'] at hbracket
  refine ⟨hplain.says_iff.mpr ⟨fun ds hds => ?_, isLiteral_of_not_mem (by decide) (by decide)⟩,
    fun h => ?_, ?_⟩
  · exact tagAt?_of_not_mem fun hmem => absurd (hds.subset hmem) (by decide)
  · have hnone := (hbracket.says_iff.mp h).no_tag ['[', 'b', ']', '.', 'p', 'y'] ⟨['a'], rfl⟩
    exact absurd hnone (by decide)
  · have hreadable : Seen.IsReadable
        ⟨"Valid a.py".toList, [⟨0, 5, "green".toList⟩, ⟨7, 10, "bold".toList⟩]⟩ := by
      simp only [Seen.IsReadable, List.forall_mem_cons, List.not_mem_nil, false_implies, implies_true,
        and_true]
      exact ⟨rfl, rfl⟩
    rw [endOf_check_in_words (hwords bracketFile) (prepare_lineSource ⟨rfl, rfl, by decide⟩)
      check_lineSource, lineOutcome_of_readable _ (show_bracketFile _)
      (hreadable.fault?_eq_none _) (by simp), String.ofList_toList]
    rfl

end Command
end Enclosure
