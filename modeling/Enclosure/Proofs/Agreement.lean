import Enclosure.Proofs.Contract
import Enclosure.Proofs.Json.Record
import Enclosure.Proofs.Labels
import Enclosure.Proofs.Transport

/-!
# Two back ends for abstract trees agree

A tree that is read in the same process, and one that another program has read and reported on, give
the same nodes.  The report is a document of three levels, whatever the depth of the tree; it is
written in ASCII, so its encoding is told apart and nothing in it is lost but pairs of surrogates.

What is here:

* `Label.IsCarried` and `Abstract.IsCarried`: labels and outcomes that a document carries.
* `Report.ofOutput_written`: the report on a document that was written.
* `Backend.value_answer_interpreter`: what the back end for another interpreter answers.
* `Backend.abstract_agrees_with_interpreter`: both back ends give the same answers.
-/

set_option autoImplicit false

namespace Enclosure

/-- A line that a document carries: it is absent, or a whole number that is not too long. -/
inductive Json.IsShortLine : Json → Prop
  | absent : IsShortLine .null
  | whole (n : Int) (h : (Nat.toDigits 10 n.natAbs).length ≤ maxDigits) : IsShortLine (.int n)

namespace Json

theorem IsShortLine.isLine {v : Json} (h : v.IsShortLine) : v.IsLine := by
  cases h with
  | absent => exact .absent
  | whole n => exact .whole n

theorem IsShortLine.fits {v : Json} (h : v.IsShortLine) (levels : Nat) : Fits levels v := by
  cases h with
  | absent => exact .null levels
  | whole n hn => exact .int levels n (by rwa [digitCodes, Codes.ofChars, List.length_map])

theorem IsShortLine.joined_eq {v : Json} (h : v.IsShortLine) : v.joined = v := by
  cases h <;> simp only [joined]

end Json

namespace Abstract

/-! ## What a document carries -/

/-- A label of the usual form, with lines that are not too long. -/
structure Label.IsCarried (l : Label) : Prop where
  /-- The first line. -/
  first : l.first.IsShortLine
  /-- The last line. -/
  last : l.last.IsShortLine
  /-- The name. -/
  name : l.name.HasNoSurrogates

theorem Label.IsCarried.isProper {l : Label} (h : l.IsCarried) : l.IsProper :=
  ⟨h.first.isLine, h.last.isLine, h.name⟩

/-- What a reader says that a document carries: a tree of such labels, or one of the faults that are
reported.  In the message of a fault no two surrogates may stand side by side that would be taken
for a pair; there is no such condition where the two sides do not give the same message anyway. -/
inductive IsCarried : Except Fault Tree → Prop
  | tree (t : Tree) (h : ∀ l ∈ t.preorder, l.IsCarried) : IsCarried (.ok t)
  | malformed (message : Codes) (line : Json) (hmessage : message.PairFree)
    (hline : line.IsShortLine) : IsCarried (.error (.malformed message line))
  | unreadable (message : Codes) (hmessage : message.PairFree) :
    IsCarried (.error (.unreadable message))
  | tooDeep (kind : String) (message : Codes) : IsCarried (.error (.tooDeep kind message))

/-! ## Documents -/

theorem Label.nameText_cases (l : Label) :
    l.nameText = .null ∨ ∃ s, l.name = .text s ∧ l.nameText = .text s := by
  rw [nameText]
  cases l.name with
  | text s => exact .inr ⟨s, rfl, rfl⟩
  | _ => exact .inl rfl

theorem Label.fits_row {l : Label} (h : l.IsCarried) (levels : Nat) :
    Json.Fits (levels + 1) l.row := by
  refine .array levels _ fun v hv => ?_
  simp only [List.mem_cons, List.not_mem_nil, or_false] at hv
  rcases hv with rfl | rfl | rfl | rfl
  · exact .text levels _
  · exact h.first.fits levels
  · exact h.last.fits levels
  · rcases l.nameText_cases with hname | ⟨s, -, hname⟩
    · exact hname ▸ .null levels
    · exact hname ▸ .text levels s

theorem Label.joined_row {l : Label} (h : l.IsCarried) : l.row.joined = l.row := by
  have hname : l.nameText.joined = l.nameText := by
    rcases l.nameText_cases with hname | ⟨s, hs, hname⟩
    · rw [hname, Json.joined]
      all_goals simp
    · have hclean : s.NoSurrogates := by
        have hname := h.name
        rwa [hs] at hname
      rw [hname, Json.joined, Codes.pairFree_of_noSurrogates hclean]
  simp only [row, Json.joined, Json.joinedItems, Json.joined_ofString, h.first.joined_eq,
    h.last.joined_eq, hname]

/-- The document on a tree. -/
def nodesDocument (ls : List Label) : Json := .record [("nodes", .array (ls.map Label.row))]

theorem fits_nodesDocument {ls : List Label} (h : ∀ l ∈ ls, l.IsCarried) (levels : Nat) :
    Json.Fits (levels + 3) (nodesDocument ls) := by
  refine Json.fits_record (by simp) fun m hm => ?_
  rw [List.mem_singleton] at hm
  rw [hm]
  refine .array (levels + 1) _ fun v hv => ?_
  obtain ⟨l, hl, rfl⟩ := List.mem_map.mp hv
  exact Label.fits_row (h l hl) levels

theorem joined_nodesDocument {ls : List Label} (h : ∀ l ∈ ls, l.IsCarried) :
    (nodesDocument ls).joined = nodesDocument ls := by
  have hrows : (ls.map Label.row).map Json.joined = ls.map Label.row := by
    rw [List.map_map]
    exact List.map_congr_left fun l hl => Label.joined_row (h l hl)
  simp only [nodesDocument, Json.joined_record, List.map_cons, List.map_nil, Json.joined,
    Json.joinedItems_eq_map, hrows]

theorem fits_reportFault (message : Codes) {line : Json} (h : line.IsShortLine) (levels : Nat) :
    Json.Fits (levels + 1) (reportFault message line) := by
  refine Json.fits_record (by simp) fun m hm => ?_
  simp only [List.mem_cons, List.not_mem_nil, or_false] at hm
  rcases hm with rfl | rfl
  · exact .text levels message
  · exact h.fits levels

theorem joined_reportFault (message : Codes) {line : Json} (h : line.IsShortLine) :
    (reportFault message line).joined = reportFault (Utf16.joinPairs message) line := by
  simp only [reportFault, Json.joined_record, List.map_cons, List.map_nil, Json.joined,
    h.joined_eq]

end Abstract

/-! ## Reading a report -/

namespace Report

open Abstract

/-- **What a written document reports.** -/
theorem ofOutput_written {m : String × Json} {ms : List (String × Json)}
    {levels : Nat} (h : Json.Fits levels (.record (m :: ms))) (program : String) :
    ofOutput program (Utf8.encode (Codes.ofString (Json.record (m :: ms)).writeAscii)) levels =
      ofDocument program (Json.record (m :: ms)).joined := by
  simp only [ofOutput, Json.decodeAny_record, Json.readWithin_written h]

theorem rowOf_row (l : Label) : rowOf l.row = l.node.mapError faultsMessage := rfl

theorem rowsOf_rows (ls : List Label) :
    rowsOf (ls.map Label.row) = (Abstract.nodesOf ls).mapError faultsMessage := by
  induction ls with
  | nil => rfl
  | cons l ls ih =>
    rw [List.map_cons, rowsOf, rowOf_row, Abstract.nodesOf]
    cases l.node with
    | error fs => rfl
    | ok n =>
      rw [ih]
      cases Abstract.nodesOf ls <;> rfl

theorem ofDocument_nodesDocument (program : String) {ls : List Label} {ns : List Node}
    (h : Abstract.nodesOf ls = .ok ns) : ofDocument program (nodesDocument ls) = .ok ns := by
  have herror : (nodesDocument ls).get? "error" = none := by
    rw [nodesDocument, Json.get?_record_cons, if_neg (by decide)]
    rfl
  have hnodes : (nodesDocument ls).get? "nodes" = some (.array (ls.map Label.row)) := by
    rw [nodesDocument, Json.get?_record_cons, if_pos rfl]
  have hrows : nodesOf (nodesDocument ls) = .ok ns := by
    simp only [nodesOf, hnodes, partsOf?, rowsOf_rows, h, Except.mapError]
  rw [nodesDocument, Json.record] at herror hrows ⊢
  simp only [ofDocument, herror, hrows, Except.mapError]

theorem ofDocument_reportFault (program : String) (message : Codes) (line : Json) :
    ofDocument program (reportFault message line) = .error (.unparsable message line) := by
  have herror : (reportFault message line).get? "error" = some (.text message) := by
    rw [reportFault, Json.get?_record_cons, if_pos rfl]
  have hline : (reportFault message line).get? "line" = some line := by
    rw [reportFault, Json.get?_record_cons, if_neg (by decide), Json.get?_record_cons, if_pos rfl]
  rw [reportFault, Json.record] at herror hline ⊢
  simp only [ofDocument, herror, hline, Json.display, Option.getD_some]

end Report

/-! ## Faults -/

namespace Abstract

/-- What a fault says. -/
def Fault.message : Fault → Codes
  | malformed message _ => message
  | unreadable message => message
  | tooDeep _ message => message
  | foreign _ message => message

/-- What the other program says about a fault: the name of its kind if it says nothing itself. -/
def Fault.said : Fault → Codes
  | malformed message _ => message
  | unreadable message => if message.isEmpty then Codes.ofString "ValueError" else message
  | tooDeep kind message => if message.isEmpty then Codes.ofString kind else message
  | foreign _ message => message

/-- The line of a fault, if it has one. -/
def Fault.line : Fault → Json
  | malformed _ line => line
  | _ => .null

theorem IsCarried.isShortLine_line {f : Fault} (h : IsCarried (.error f)) :
    f.line.IsShortLine := by
  cases h with
  | malformed message line hmessage hline => exact hline
  | unreadable => exact .absent
  | tooDeep => exact .absent

theorem IsCarried.report_eq {f : Fault} (h : IsCarried (.error f)) :
    report (.error f) = .ok (reportFault f.said f.line) := by
  cases h <;> rfl

theorem IsCarried.exists_failure_eq {f : Fault} (h : IsCarried (.error f)) :
    ∃ message, f.failure = .unparsable message f.line := by
  cases h <;> exact ⟨_, rfl⟩

theorem Fault.noSurrogates_said {f : Fault} (h : f.message.NoSurrogates) :
    f.said.NoSurrogates := by
  cases f with
  | malformed message line => exact h
  | unreadable message =>
    rw [said]
    split
    · exact Codes.noSurrogates_ofString _
    · exact h
  | tooDeep kind message =>
    rw [said]
    split
    · exact Codes.noSurrogates_ofString _
    · exact h
  | foreign kind message => exact h

theorem Fault.noSurrogates_failure {f : Fault} (h : f.message.NoSurrogates) :
    f.failure.message.NoSurrogates := by
  cases f with
  | tooDeep kind message => exact Codes.noSurrogates_ofString _
  | _ => exact h

/-- What the other program writes when it is given a text to read. -/
theorem reportEnding_launchFor {read : Codes → Except Fault Tree} {source : Codes}
    {document : Json} (h : report (read source) = .ok document) (program : String)
    (timeout : Option Seconds) :
    reportEnding read (launchFor program timeout source).input =
      .exited 0 (Utf8.encode (Codes.ofString document.writeAscii)) [] := by
  rw [launchFor, reportEnding_encode, h, endingOf]

end Abstract

/-! ## The answers -/

namespace Backend

open Abstract

/-- Two answers with the same nodes, or two that the text is not well formed. -/
inductive Alike : Except Failure (List Node) → Except Failure (List Node) → Prop
  | nodes (ns : List Node) : Alike (.ok ns) (.ok ns)
  | unparsable (message message' : Codes) (line : Json) :
    Alike (.error (.unparsable message line)) (.error (.unparsable message' line))

variable {a b : Backend} {m n : Nat} {source : Codes}

/-- What a search finds does not depend on why a text is not well formed. -/
theorem value_find_eq_of_alike (h : Alike (a.answer m source).value (b.answer n source).value)
    (range : LineRange) (mode : Mode) (kinds : Kinds) :
    (a.find m source range mode kinds).value = (b.find n source range mode kinds).value := by
  rw [value_find, value_find]
  revert h
  generalize (a.answer m source).value = x
  generalize (b.answer n source).value = y
  rintro (ns | ⟨message, message', line⟩)
  · rfl
  · rfl

/-- A failure with a message that has no surrogates. -/
def Spoken (x : Except Failure (List Node)) : Prop :=
  ∀ failure, x = .error failure → failure.message.NoSurrogates

theorem exists_verdicts_of_alike (h : Alike (a.answer m source).value (b.answer n source).value)
    (ha : Spoken (a.answer m source).value) (hb : Spoken (b.answer n source).value) :
    ∃ v w, (a.check m source).value = .ok v ∧ (b.check n source).value = .ok w ∧
      v.valid = w.valid := by
  rw [value_check, value_check]
  revert h ha hb
  generalize (a.answer m source).value = x
  generalize (b.answer n source).value = y
  rintro (ns | ⟨message, message', line⟩) ha hb
  · exact ⟨_, _, rfl, rfl, rfl⟩
  · obtain ⟨v, hv, hvalid⟩ := exists_verdict_of_noSurrogates (ha _ rfl)
    obtain ⟨w, hw, hwalid⟩ := exists_verdict_of_noSurrogates (hb _ rfl)
    exact ⟨v, w, hv, hw, hvalid.trans hwalid.symm⟩

variable {read : Codes → Except Abstract.Fault Abstract.Tree} {start : Launch → Ending} {program : String}
  {timeout : Option Seconds} {diagnostics : Bytes}

theorem value_answer_abstract_fault {fault : Abstract.Fault} (h : read source = .error fault)
    (m : Nat) : ((Backend.abstract read).answer m source).value = .error fault.failure := by
  simp only [Backend.abstract, h, Traced.value_pure]

/-- **The answer of another interpreter** that ran to its end. -/
theorem value_answer_interpreter {output : Bytes}
    (h : start (launchFor program timeout source) = .exited 0 output diagnostics) (levels n : Nat) :
    ((Backend.interpreter start program timeout levels).answer n source).value =
      Report.ofOutput program output levels := by
  rw [value_answer_interpreter_eq_ofEnding, h, Report.ofEnding, if_pos rfl]
  rfl

theorem value_answer_interpreter_tree {t : Abstract.Tree} (hread : read source = .ok t)
    (hcarried : ∀ l ∈ t.preorder, l.IsCarried) {document : Json}
    (hreport : Abstract.report (read source) = .ok document)
    (hstart : start (launchFor program timeout source) =
      .exited 0 (Utf8.encode (Codes.ofString document.writeAscii)) diagnostics) (n : Nat) :
    ∃ ns, t.nodes = .ok ns ∧
      ((Backend.interpreter start program timeout).answer n source).value = .ok ns := by
  have hns := nodesOf_eq_ok_of_isProper fun l hl => (hcarried l hl).isProper
  have hdocument : document = nodesDocument t.preorder := by
    rw [hread] at hreport
    rw [← Tree.visit_singleton]
    exact (Except.ok.inj hreport).symm
  have hfits : Json.Fits Json.maxNesting (nodesDocument t.preorder) :=
    fits_nodesDocument hcarried (Json.maxNesting - 3)
  refine ⟨_, Tree.nodes_eq_nodesOf_preorder t ▸ hns, ?_⟩
  rw [value_answer_interpreter hstart, hdocument, nodesDocument,
    Report.ofOutput_written hfits, ← nodesDocument,
    joined_nodesDocument hcarried, Report.ofDocument_nodesDocument program hns]

theorem value_answer_interpreter_fault {f : Abstract.Fault} (hread : read source = .error f)
    (hcarried : IsCarried (.error f)) {document : Json}
    (hreport : Abstract.report (read source) = .ok document)
    (hstart : start (launchFor program timeout source) =
      .exited 0 (Utf8.encode (Codes.ofString document.writeAscii)) diagnostics) (n : Nat) :
    ((Backend.interpreter start program timeout).answer n source).value =
      .error (.unparsable (Utf16.joinPairs f.said) f.line) := by
  have hline := hcarried.isShortLine_line
  have hdocument : document = reportFault f.said f.line := by
    rw [hread, hcarried.report_eq] at hreport
    exact (Except.ok.inj hreport).symm
  have hfits : Json.Fits Json.maxNesting (reportFault f.said f.line) :=
    fits_reportFault f.said hline (Json.maxNesting - 1)
  rw [value_answer_interpreter hstart, hdocument, reportFault,
    Report.ofOutput_written hfits, ← reportFault,
    joined_reportFault f.said hline, Report.ofDocument_reportFault]

section

variable {document : Json} (hcarried : IsCarried (read source))
  (hreport : Abstract.report (read source) = .ok document)
  (hstart : start (launchFor program timeout source) =
    .exited 0 (Utf8.encode (Codes.ofString document.writeAscii)) diagnostics)
include hcarried hreport hstart

/-- The answers to a tree. -/
theorem answers_of_tree {t : Abstract.Tree} (hread : read source = .ok t) (m n : Nat) :
    ∃ ns, ((Backend.abstract read).answer m source).value = .ok ns ∧
      ((Backend.interpreter start program timeout).answer n source).value = .ok ns := by
  rw [hread] at hcarried
  cases hcarried with
  | tree t hlabels =>
    obtain ⟨ns, hns, hthere⟩ := value_answer_interpreter_tree hread hlabels hreport hstart n
    refine ⟨ns, ?_, hthere⟩
    rw [value_answer_abstract hread, hns]
    rfl

/-- The answers to a fault. -/
theorem answers_of_fault {f : Abstract.Fault} (hread : read source = .error f) (m n : Nat) :
    ((Backend.abstract read).answer m source).value = .error f.failure ∧
      ((Backend.interpreter start program timeout).answer n source).value =
        .error (.unparsable (Utf16.joinPairs f.said) f.line) :=
  ⟨value_answer_abstract_fault hread m,
    value_answer_interpreter_fault hread (hread ▸ hcarried) hreport hstart n⟩

theorem answers_of_malformed {message : Codes} {line : Json}
    (hread : read source = .error (.malformed message line)) (m n : Nat) :
    ((Backend.abstract read).answer m source).value = .error (.unparsable message line) ∧
      ((Backend.interpreter start program timeout).answer n source).value =
        .error (.unparsable message line) := by
  obtain ⟨hhere, hthere⟩ := answers_of_fault hcarried hreport hstart hread m n
  rw [hread] at hcarried
  cases hcarried with
  | malformed message line hmessage hline =>
    have hsaid : Utf16.joinPairs message = message := hmessage
    refine ⟨hhere, ?_⟩
    simp only [hthere, Fault.said, Fault.line, hsaid]

theorem answers_of_unreadable {message : Codes} (hread : read source = .error (.unreadable message))
    (hne : message ≠ []) (m n : Nat) :
    ((Backend.abstract read).answer m source).value = .error (.unparsable message .null) ∧
      ((Backend.interpreter start program timeout).answer n source).value =
        .error (.unparsable message .null) := by
  obtain ⟨hhere, hthere⟩ := answers_of_fault hcarried hreport hstart hread m n
  rw [hread] at hcarried
  cases hcarried with
  | unreadable message hmessage =>
    have hsaid : Utf16.joinPairs message = message := hmessage
    have hfull : message.isEmpty = false := by simpa using hne
    refine ⟨hhere, ?_⟩
    simp only [hthere, Fault.said, Fault.line, hfull, Bool.false_eq_true, if_false, hsaid]

/-- The answers to a text that both sides have read, or failed to read, in the same way. -/
theorem alike_of_carried (m n : Nat) :
    Alike ((Backend.abstract read).answer m source).value
      ((Backend.interpreter start program timeout).answer n source).value := by
  cases hread : read source with
  | ok t =>
    obtain ⟨ns, hhere, hthere⟩ := answers_of_tree hcarried hreport hstart hread m n
    rw [hhere, hthere]
    exact .nodes ns
  | error f =>
    obtain ⟨hhere, hthere⟩ := answers_of_fault hcarried hreport hstart hread m n
    obtain ⟨message, hfailure⟩ := (hread ▸ hcarried).exists_failure_eq
    rw [hhere, hthere, hfailure]
    exact .unparsable message _ f.line

/-- Both answers are spoken if the fault is. -/
theorem spoken_of_carried (hclean : ∀ f, read source = .error f → f.message.NoSurrogates)
    (m n : Nat) :
    Spoken ((Backend.abstract read).answer m source).value ∧
      Spoken ((Backend.interpreter start program timeout).answer n source).value := by
  cases hread : read source with
  | ok t =>
    obtain ⟨ns, hhere, hthere⟩ := answers_of_tree hcarried hreport hstart hread m n
    rw [hhere, hthere]
    exact ⟨by rintro _ ⟨⟩, by rintro _ ⟨⟩⟩
  | error f =>
    obtain ⟨hhere, hthere⟩ := answers_of_fault hcarried hreport hstart hread m n
    have hmessage := hclean f hread
    have hsaid := Fault.noSurrogates_said hmessage
    rw [hhere, hthere, Codes.pairFree_of_noSurrogates hsaid]
    refine ⟨?_, ?_⟩
    · rintro _ ⟨⟩
      exact Fault.noSurrogates_failure hmessage
    · rintro _ ⟨⟩
      exact hsaid

/-- Both checks come to the same, also where a message with surrogates makes no verdict. -/
theorem valid_eq_of_carried (hdeep : ∀ kind message,
    read source = .error (.tooDeep kind message) → message.NoSurrogates) (m n : Nat) :
    ((Backend.abstract read).check m source).value.map Verdict.valid =
      ((Backend.interpreter start program timeout).check n source).value.map Verdict.valid := by
  -- where both messages have no surrogates there are verdicts; elsewhere the answers are equal
  have hspoken (hclean : ∀ f, read source = .error f → f.message.NoSurrogates) :
      ((Backend.abstract read).check m source).value.map Verdict.valid =
        ((Backend.interpreter start program timeout).check n source).value.map Verdict.valid := by
    obtain ⟨hhere, hthere⟩ := spoken_of_carried hcarried hreport hstart hclean m n
    obtain ⟨v, w, hv, hw, hvalid⟩ :=
      exists_verdicts_of_alike (alike_of_carried hcarried hreport hstart m n) hhere hthere
    simp only [hv, hw, Except.map, hvalid]
  cases hread : read source with
  | ok t => exact hspoken fun f hf => by simp [hread] at hf
  | error f =>
    have hown (hmessage : f.message.NoSurrogates) : ∀ g, read source = .error g →
        g.message.NoSurrogates := by
      intro g hg
      rw [hread, Except.error.injEq] at hg
      exact hg ▸ hmessage
    cases f with
    | malformed message line =>
      obtain ⟨hhere, hthere⟩ := answers_of_malformed hcarried hreport hstart hread m n
      rw [value_check, value_check, hhere, hthere]
    | unreadable message =>
      by_cases hne : message = []
      · subst hne
        exact hspoken (hown (Codes.noSurrogates_ofString ""))
      · obtain ⟨hhere, hthere⟩ := answers_of_unreadable hcarried hreport hstart hread hne m n
        rw [value_check, value_check, hhere, hthere]
    | tooDeep kind message => exact hspoken (hown (hdeep kind message hread))
    | foreign kind message =>
      rw [hread] at hcarried
      nomatch hcarried

end

/-- **Both back ends for abstract trees agree** on a text that they have read, or failed to read, in
the same way, if the other program ran to its end and has written its report.  They give the same
nodes for a tree, the same message and line for a text that is not well formed, and the same message
for one that cannot be read, if there is one; a text that nests too deep is refused by both.  So a
search finds the same with either of them, whatever the range, the mode and the kinds, and a check
comes to the same verdict. -/
theorem abstract_agrees_with_interpreter {document : Json} (hcarried : IsCarried (read source))
    (hreport : Abstract.report (read source) = .ok document)
    (hstart : start (launchFor program timeout source) =
      .exited 0 (Utf8.encode (Codes.ofString document.writeAscii)) diagnostics) (m n : Nat) :
    (∀ t, read source = .ok t → ∃ ns,
      ((Backend.abstract read).answer m source).value = .ok ns ∧
      ((Backend.interpreter start program timeout).answer n source).value = .ok ns) ∧
    (∀ message line, read source = .error (.malformed message line) →
      ((Backend.abstract read).answer m source).value = .error (.unparsable message line) ∧
      ((Backend.interpreter start program timeout).answer n source).value =
        .error (.unparsable message line)) ∧
    (∀ message, read source = .error (.unreadable message) → message ≠ [] →
      ((Backend.abstract read).answer m source).value = .error (.unparsable message .null) ∧
      ((Backend.interpreter start program timeout).answer n source).value =
        .error (.unparsable message .null)) ∧
    (∀ kind message, read source = .error (.tooDeep kind message) → ∃ here there,
      ((Backend.abstract read).answer m source).value = .error (.unparsable here .null) ∧
      ((Backend.interpreter start program timeout).answer n source).value =
        .error (.unparsable there .null)) ∧
    (∀ range mode kinds, ((Backend.abstract read).find m source range mode kinds).value =
      ((Backend.interpreter start program timeout).find n source range mode kinds).value) ∧
    ((∀ kind message, read source = .error (.tooDeep kind message) → message.NoSurrogates) →
      ((Backend.abstract read).check m source).value.map Verdict.valid =
        ((Backend.interpreter start program timeout).check n source).value.map Verdict.valid) ∧
    ((∀ f, read source = .error f → f.message.NoSurrogates) →
      ∃ v, ((Backend.abstract read).check m source).value = .ok v) := by
  have halike := alike_of_carried hcarried hreport hstart m n
  refine ⟨fun t hread => answers_of_tree hcarried hreport hstart hread m n,
    fun message line hread => answers_of_malformed hcarried hreport hstart hread m n,
    fun message hread hne => answers_of_unreadable hcarried hreport hstart hread hne m n,
    fun kind message hread => ?_, value_find_eq_of_alike halike,
    fun hdeep => valid_eq_of_carried hcarried hreport hstart hdeep m n, fun hclean => ?_⟩
  · obtain ⟨hhere, hthere⟩ := answers_of_fault hcarried hreport hstart hread m n
    exact ⟨_, _, hhere, hthere⟩
  · obtain ⟨hhere, hthere⟩ := spoken_of_carried hcarried hreport hstart hclean m n
    obtain ⟨v, -, hv, -⟩ := exists_verdicts_of_alike halike hhere hthere
    exact ⟨v, hv⟩

/-- A function whose name is not in ASCII. -/
def accentedTree : Abstract.Tree :=
  .node { kind := "Module" }
    [.node { kind := "FunctionDef", first := .int 1, last := .int 2, name := .ofString "é" }
      [.node { kind := "arguments" } [],
        .node { kind := "Pass", first := .int 2, last := .int 2 } []]]

/-- A reader that knows this tree alone. -/
def accentedReader (_ : Codes) : Except Abstract.Fault Abstract.Tree := .ok accentedTree

/-- Both back ends find the function, the other one by its report in ASCII. -/
theorem accentedTree_read_alike :
    IsCarried (accentedReader []) ∧
      ∃ ns, ((Backend.abstract accentedReader).answer 0 []).value = .ok ns ∧
        ((Backend.interpreter (fun launch => reportEnding accentedReader launch.input) "python3"
          none).answer 0 []).value = .ok ns := by
  have hcarried : IsCarried (accentedReader []) := by
    refine .tree accentedTree ?_
    simp only [accentedTree, Tree.preorder, Tree.preorderAll, List.cons_append, List.nil_append,
      List.append_nil, List.forall_mem_cons, List.not_mem_nil, false_imp_iff, implies_true]
    exact ⟨⟨.absent, .absent, trivial⟩,
      ⟨.whole 1 (by decide), .whole 2 (by decide), Codes.noSurrogates_ofString "é"⟩,
      ⟨.absent, .absent, trivial⟩, ⟨.whole 2 (by decide), .whole 2 (by decide), trivial⟩, trivial⟩
  have hreport : Abstract.report (accentedReader []) =
      .ok (nodesDocument (Tree.visit [accentedTree])) := rfl
  exact ⟨hcarried, (abstract_agrees_with_interpreter hcarried hreport
    (reportEnding_launchFor hreport "python3" none) 0 0).1 accentedTree rfl⟩

end Backend
end Enclosure
