import Enclosure.Proofs.Agreement
import Enclosure.Proofs.Integers
import Mathlib.Data.List.Forall2
import Mathlib.Data.Set.List

/-!
# The form of a report

A report of nodes is a list of rows, and a row is a list of a text, two lines and a name.  The
reader takes every report of this form as it stands.  It takes more than these, though: it asks of a
list and of a row only that they have parts, which texts and objects have as well, and of a line
only that it stands for an integer.  This file says which reports are taken, and with what result.

What is here:

* `Node.row`, `Json.IsRow` and `Json.IsNodeList`: the form that a report should have.
* `Json.HasParts` and `Report.RowMeans`: a value that is taken for the row of a node.
* `Report.ofDocument_eq_ok_iff`: the documents that report nodes.
* `Ending.Writes`: a program that has written a document.
* `Backend.reports_read_exactly`: which documents are taken, and which of them have the form.
-/

set_option autoImplicit false

namespace Enclosure

/-! ## The form of a report -/

/-- A node as a row. -/
def Node.row (n : Node) : Json :=
  .array [.ofString n.kind, .ofLine n.firstLine, .ofLine n.lastLine, .ofName n.name]

/-- A row: a text, two lines that may be absent, and a text that may be absent. -/
inductive Json.IsRow : Json → Prop
  | intro (kind : Codes) (first last name : Json) (hkind : kind.NoSurrogates)
    (hfirst : first.IsLine) (hlast : last.IsLine)
    (hname : name = .null ∨ ∃ s : Codes, name = .text s ∧ s.NoSurrogates) :
    IsRow (.array [.text kind, first, last, name])

/-- A document that reports a list of rows and no error. -/
structure Json.IsNodeList (document : Json) (rows : List Json) : Prop where
  /-- There is no error. -/
  error : document.get? "error" = none
  /-- The rows are a list. -/
  nodes : document.get? "nodes" = some (.array rows)
  /-- Each of them is a row. -/
  isRow : ∀ row ∈ rows, row.IsRow

theorem Json.IsLine.exists_ofLine_eq {v : Json} (h : v.IsLine) : ∃ line, v = .ofLine line := by
  cases h with
  | absent => exact ⟨none, rfl⟩
  | whole n => exact ⟨some n, rfl⟩

theorem Json.isLine_ofLine (line : Option Int) : (Json.ofLine line).IsLine := by
  cases line with
  | none => exact .absent
  | some n => exact .whole n

/-- The rows are those of nodes. -/
theorem Json.isRow_iff {row : Json} : row.IsRow ↔ ∃ n : Node, row = n.row := by
  constructor
  · rintro ⟨kind, first, last, name, hkind, hfirst, hlast, hname⟩
    obtain ⟨k, hk⟩ := Codes.toString?_eq_some_of_noSurrogates hkind
    obtain ⟨f, rfl⟩ := hfirst.exists_ofLine_eq
    obtain ⟨l, rfl⟩ := hlast.exists_ofLine_eq
    rw [Codes.toString?_eq_some_iff.mp hk]
    rcases hname with rfl | ⟨s, rfl, hs⟩
    · exact ⟨⟨k, f, l, none⟩, rfl⟩
    · obtain ⟨t, ht⟩ := Codes.toString?_eq_some_of_noSurrogates hs
      rw [Codes.toString?_eq_some_iff.mp ht]
      exact ⟨⟨k, f, l, some t⟩, rfl⟩
  · rintro ⟨⟨kind, first, last, name⟩, rfl⟩
    refine .intro _ _ _ _ (Codes.noSurrogates_ofString kind) (isLine_ofLine first)
      (isLine_ofLine last) ?_
    cases name with
    | none => exact .inl rfl
    | some s => exact .inr ⟨_, rfl, Codes.noSurrogates_ofString s⟩

theorem Json.IsNodeList.exists_map_row {document : Json} {rows : List Json}
    (h : document.IsNodeList rows) : ∃ ns : List Node, rows = ns.map Node.row := by
  have hrange : rows ∈ Set.range (List.map Node.row) := by
    rw [Set.range_list_map]
    intro row hrow
    obtain ⟨n, hn⟩ := isRow_iff.mp (h.isRow row hrow)
    exact ⟨n, hn.symm⟩
  obtain ⟨ns, hns⟩ := hrange
  exact ⟨ns, hns.symm⟩

/-! ## Rows that are taken -/

/-- A value has parts: a list its items, a text its characters, and an object its keys. -/
inductive Json.HasParts : Json → List Json → Prop
  | items (vs : List Json) : HasParts (.array vs) vs
  | characters (s : Codes) : HasParts (.text s) (s.map fun x => .text [x])
  | keys (ms : List (Codes × Json)) : HasParts (.object ms) (ms.map fun m => .text m.1)

/-- A value that is taken for a line, if there is one. -/
def Json.StandsForLine (v : Json) : Option Int → Prop
  | none => v = .null
  | some n => v.StandsFor n

theorem Json.standsForLine_ofLine (line : Option Int) : (Json.ofLine line).StandsForLine line := by
  cases line with
  | none => rfl
  | some n => exact .whole n

theorem Field.optional_integer_eq_ok_iff {v : Json} {line : Option Int} :
    Field.optional Field.integer v = .ok line ↔ v.StandsForLine line := by
  cases v with
  | null =>
    cases line with
    | none => exact ⟨fun _ => rfl, fun _ => rfl⟩
    | some n => constructor <;> intro h <;> cases h
  | _ =>
    rw [optional, Checked.map_eq_ok_iff]
    · cases line <;> simp [integer_eq_ok_iff, Json.StandsForLine]
    · exact Json.noConfusion

theorem Node.check_eq_ok_iff {kind first last name : Json} {n : Node} :
    Node.check kind first last name = .ok n ↔
      kind = .ofString n.kind ∧ first.StandsForLine n.firstLine ∧ last.StandsForLine n.lastLine ∧
        name = .ofName n.name := by
  simp only [check, Checked.map_eq_ok_iff, Prod.exists, Checked.both_eq_ok_iff,
    Checked.under_eq_ok_iff, Field.text_eq_ok_iff, Field.optional_integer_eq_ok_iff,
    Field.optional_text_eq_ok_iff]
  constructor
  · rintro ⟨k, f, l, m, ⟨hk, hf, hl, hm⟩, rfl⟩
    exact ⟨hk, hf, hl, hm⟩
  · rintro ⟨hk, hf, hl, hm⟩
    exact ⟨_, _, _, _, ⟨hk, hf, hl, hm⟩, rfl⟩

namespace Report

theorem partsOf?_eq_some_iff {v : Json} {parts : List Json} :
    partsOf? v = some parts ↔ v.HasParts parts := by
  constructor
  · intro h
    cases v with
    | array vs => exact Option.some_inj.mp h ▸ .items vs
    | text s => exact Option.some_inj.mp h ▸ .characters s
    | object ms => exact Option.some_inj.mp h ▸ .keys ms
    | _ => cases h
  · rintro (vs | s | ms) <;> rfl

/-- A value that is taken for the row of a node: it has four parts, the kind, two values that stand
for the lines, and the name. -/
def RowMeans (row : Json) (n : Node) : Prop :=
  ∃ first last, row.HasParts [.ofString n.kind, first, last, .ofName n.name] ∧
    first.StandsForLine n.firstLine ∧ last.StandsForLine n.lastLine

theorem rowMeans_row (n : Node) : RowMeans n.row n :=
  ⟨_, _, .items _, Json.standsForLine_ofLine n.firstLine, Json.standsForLine_ofLine n.lastLine⟩

theorem rowOf_eq_ok_iff {row : Json} {n : Node} : rowOf row = .ok n ↔ RowMeans row n := by
  constructor
  · intro h
    rw [rowOf] at h
    split at h
    · cases h
    · next kind first last name hparts =>
      cases hcheck : Node.check kind first last name with
      | error fs =>
        rw [hcheck] at h
        cases h
      | ok m =>
        rw [hcheck] at h
        obtain rfl := Except.ok.inj h
        obtain ⟨rfl, hfirst, hlast, rfl⟩ := Node.check_eq_ok_iff.mp hcheck
        exact ⟨first, last, partsOf?_eq_some_iff.mp hparts, hfirst, hlast⟩
    · split at h <;> cases h
  · rintro ⟨first, last, hparts, hfirst, hlast⟩
    have hcheck := Node.check_eq_ok_iff.mpr ⟨rfl, hfirst, hlast, rfl⟩
    simp only [rowOf, partsOf?_eq_some_iff.mpr hparts, hcheck, Except.mapError]

/-- Rows are taken one by one, in their order. -/
theorem rowsOf_eq_ok_iff {rows : List Json} {ns : List Node} :
    rowsOf rows = .ok ns ↔ List.Forall₂ RowMeans rows ns := by
  induction rows generalizing ns with
  | nil =>
    rw [rowsOf, List.forall₂_nil_left_iff]
    exact ⟨fun h => (Except.ok.inj h).symm, fun h => h ▸ rfl⟩
  | cons row rows ih =>
    rw [rowsOf, List.forall₂_cons_left_iff]
    constructor
    · intro h
      split at h
      · cases h
      · next n hn =>
        cases hrest : rowsOf rows with
        | error e =>
          rw [hrest] at h
          cases h
        | ok ms =>
          rw [hrest] at h
          exact ⟨n, ms, rowOf_eq_ok_iff.mp hn, ih.mp hrest, (Except.ok.inj h).symm⟩
    · rintro ⟨n, ms, hn, hms, rfl⟩
      simp only [rowOf_eq_ok_iff.mpr hn, ih.mpr hms, Except.map]

theorem exists_rowMeans_of_mem {rows : List Json} {ns : List Node}
    (h : List.Forall₂ RowMeans rows ns) {row : Json} (hrow : row ∈ rows) :
    ∃ n, RowMeans row n := by
  have hboth : List.Forall₂ (fun row n => (∃ n, RowMeans row n) ∧ RowMeans row n) rows ns :=
    h.imp fun row n hmeans => ⟨⟨n, hmeans⟩, hmeans⟩
  exact ((List.forall₂_and_left rows ns).mp hboth).1 row hrow

/-- A list with proper lines that is taken for a row is one: only lines could be anything else. -/
theorem RowMeans.isRow {kind first last name : Json} {n : Node}
    (h : RowMeans (.array [kind, first, last, name]) n) (hfirst : first.IsLine)
    (hlast : last.IsLine) : (Json.array [kind, first, last, name]).IsRow := by
  obtain ⟨first', last', hparts, -, -⟩ := h
  cases hparts
  refine .intro _ _ _ _ (Codes.noSurrogates_ofString n.kind) hfirst hlast ?_
  cases n.name with
  | none => exact .inl rfl
  | some s => exact .inr ⟨_, rfl, Codes.noSurrogates_ofString s⟩

theorem nodesOf_eq_ok_iff {document : Json} {ns : List Node} :
    nodesOf document = .ok ns ↔ ∃ v rows, document.get? "nodes" = some v ∧ v.HasParts rows ∧
      List.Forall₂ RowMeans rows ns := by
  rw [nodesOf]
  constructor
  · intro h
    split at h
    · cases h
    · next v hv =>
      split at h
      · cases h
      · next rows hrows =>
        exact ⟨v, rows, hv, partsOf?_eq_some_iff.mp hrows, rowsOf_eq_ok_iff.mp h⟩
  · rintro ⟨v, rows, hv, hrows, hns⟩
    simp only [hv, partsOf?_eq_some_iff.mpr hrows, rowsOf_eq_ok_iff.mpr hns]

/-- **The documents that report nodes.** -/
theorem ofDocument_eq_ok_iff {program : String} {document : Json} {ns : List Node} :
    ofDocument program document = .ok ns ↔
      document.get? "error" = none ∧ ∃ v rows, document.get? "nodes" = some v ∧
        v.HasParts rows ∧ List.Forall₂ RowMeans rows ns := by
  rw [← nodesOf_eq_ok_iff]
  cases document with
  | object ms =>
    rw [ofDocument]
    cases herror : (Json.object ms).get? "error" with
    | some e => simp
    | none => cases nodesOf (.object ms) <;> simp [Except.mapError]
  | _ => simp [ofDocument, nodesOf, Json.get?]

end Report

/-! ## Documents that are written -/

/-- The program has ended with status 0 and has written a document that a reader with so many levels
has room for. -/
def Ending.Writes (ending : Ending) (document : Json) (levels : Nat := Json.maxNesting) : Prop :=
  ∃ output diagnostics text, ending = .exited 0 output diagnostics ∧
    decodeAny output = .ok text ∧ Json.readWithin levels text = .ok document

theorem Ending.writes_record {levels : Nat} {m : String × Json} {ms : List (String × Json)}
    (h : Json.Survives levels (.record (m :: ms))) (diagnostics : Bytes) :
    (Ending.exited 0 (Utf8.encode (Codes.ofString (Json.record (m :: ms)).writeAscii))
      diagnostics).Writes (.record (m :: ms)) levels := by
  refine ⟨_, _, _, rfl, Json.decodeAny_record m ms, ?_⟩
  rw [Json.readWithin_written h.fits, h.joined_eq]

namespace Backend

open Report

variable {start : Launch → Ending} {program : String} {timeout : Option Seconds} {source : Codes}
  {document : Json} {levels : Nat}

theorem value_answer_interpreter_of_writes
    (h : (start (launchFor program timeout source)).Writes document levels) (earlier : Nat) :
    ((Backend.interpreter start program timeout levels).answer earlier source).value =
      ofDocument program document := by
  obtain ⟨output, diagnostics, text, hstart, hdecode, hread⟩ := h
  rw [value_answer_interpreter hstart]
  simp only [ofOutput, hdecode, hread]

/-- **Reports are read exactly.**  A report of the proper form is taken as it stands.  Any other one
is taken if and only if it has parts that have four parts each, a kind and a name which are texts,
and lines which stand for integers; the nodes are then those that the parts stand for.  Such a
report has the proper form if and only if it holds a list of lists, and lines that are lines
already. -/
theorem reports_read_exactly
    (h : (start (launchFor program timeout source)).Writes document levels) (earlier : Nat) :
    (∀ rows, document.IsNodeList rows → ∃ ns : List Node, rows = ns.map Node.row ∧
      ((Backend.interpreter start program timeout levels).answer earlier source).value = .ok ns) ∧
    (∀ ns,
      ((Backend.interpreter start program timeout levels).answer earlier source).value = .ok ns ↔
      document.get? "error" = none ∧ ∃ v rows, document.get? "nodes" = some v ∧
        v.HasParts rows ∧ List.Forall₂ RowMeans rows ns) ∧
    ∀ ns,
      ((Backend.interpreter start program timeout levels).answer earlier source).value = .ok ns →
      ∀ rows, document.IsNodeList rows ↔ document.get? "nodes" = some (.array rows) ∧
        ∀ row ∈ rows, ∃ kind first last name, row = .array [kind, first, last, name] ∧
          first.IsLine ∧ last.IsLine := by
  rw [value_answer_interpreter_of_writes h earlier]
  refine ⟨fun rows hform => ?_, fun ns => ofDocument_eq_ok_iff, fun ns hok rows => ?_⟩
  · obtain ⟨ns, rfl⟩ := hform.exists_map_row
    refine ⟨ns, rfl, ofDocument_eq_ok_iff.mpr ⟨hform.error, _, _, hform.nodes, .items _, ?_⟩⟩
    exact List.forall₂_map_left_iff.mpr (List.forall₂_same.mpr fun n _ => rowMeans_row n)
  · obtain ⟨herror, v, parts, hv, hparts, hns⟩ := ofDocument_eq_ok_iff.mp hok
    constructor
    · intro hform
      refine ⟨hform.nodes, fun row hrow => ?_⟩
      obtain ⟨kind, first, last, name, -, hfirst, hlast, -⟩ := hform.isRow row hrow
      exact ⟨_, first, last, name, rfl, hfirst, hlast⟩
    · rintro ⟨hnodes, hlists⟩
      obtain rfl := Option.some_inj.mp (hv.symm.trans hnodes)
      cases hparts
      refine ⟨herror, hnodes, fun row hrow => ?_⟩
      obtain ⟨n, hmeans⟩ := exists_rowMeans_of_mem hns hrow
      obtain ⟨kind, first, last, name, rfl, hfirst, hlast⟩ := hlists row hrow
      exact hmeans.isRow hfirst hlast

/-- A report that holds a text of four characters where there should be a row. -/
def mangledReport : Json := .record [("nodes", .array [.ofString "a12b"])]

/-- A program that writes this report, whatever it is given to read. -/
def mangling : Launch → Ending := fun _ =>
  .exited 0 (Utf8.encode (Codes.ofString mangledReport.writeAscii)) []

theorem writes_mangling (launch : Launch) : (mangling launch).Writes mangledReport := by
  refine Ending.writes_record (Json.survives_record (by decide) fun m hm => ?_) []
  obtain rfl := List.mem_singleton.mp hm
  refine Json.survives_array fun v hv => ?_
  obtain rfl := List.mem_singleton.mp hv
  exact Json.survives_ofString _ _

/-- The text is taken apart into a kind, two lines and a name. -/
theorem mangledReport_taken :
    (mangling (launchFor "python3" none (Codes.ofString "x = 1\n"))).Writes mangledReport ∧
      (¬∃ rows, mangledReport.IsNodeList rows) ∧
      ((Backend.interpreter mangling "python3" none).answer 0 (Codes.ofString "x = 1\n")).value =
        .ok [⟨"a", some 1, some 2, some "b"⟩] := by
  have hwrites := writes_mangling (launchFor "python3" none (Codes.ofString "x = 1\n"))
  obtain ⟨-, htaken, -⟩ := reports_read_exactly hwrites 0
  refine ⟨hwrites, ?_, (htaken _).mpr ⟨rfl, _, _, rfl, .items _, ?_⟩⟩
  · rintro ⟨rows, hform⟩
    have hnodes : some (Json.array [.ofString "a12b"]) = some (.array rows) := hform.nodes
    obtain rfl := Json.array.inj (Option.some_inj.mp hnodes)
    cases hform.isRow _ (List.mem_singleton_self _)
  · have hone : (Json.ofString "1").StandsFor 1 := Field.integer_eq_ok_iff.mp rfl
    have htwo : (Json.ofString "2").StandsFor 2 := Field.integer_eq_ok_iff.mp rfl
    exact .cons ⟨_, _, .characters _, hone, htwo⟩ .nil

end Backend
end Enclosure
