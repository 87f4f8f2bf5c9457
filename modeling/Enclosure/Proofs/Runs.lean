import Enclosure.Proofs.Printed
import Enclosure.Proofs.Sessions
import Enclosure.Proofs.Utf8
import Enclosure.Proofs.Words

/-!
# Running a command on a file

A command that finds the text of its file ends as the answer of a session has it.  Whether the answer
can be shown is another matter if it is to be shown with tags: the path of the file stands among them,
and does no harm if it holds no bracket.

What is here:

* `Path.mem_toList_text_ofText`: the characters of a path.
* `Command.HoldsText`: a file with a text.
* `Command.prepare_eq_ok`: what a command needs is there.
* `Command.endOf`: how a command line ends, with `Command.endOf_search` and `Command.endOf_check`.
* `Command.Heading`: the word that a verdict begins with.
* `Command.exists_printed_iff_of_valid` and `Command.exists_printed`: verdicts that can be printed.
-/

set_option autoImplicit false

namespace Enclosure

/-! ## The characters of a path -/

theorem mem_intercalate {α : Type} {x y : α} {ls : List (List α)}
    (h : x ∈ [y].intercalate ls) : x = y ∨ ∃ l ∈ ls, x ∈ l := by
  induction ls with
  | nil => simp at h
  | cons l ls ih =>
    cases ls with
    | nil => exact .inr ⟨l, List.mem_cons_self, by simpa using h⟩
    | cons l' ls =>
      rw [List.intercalate_cons_cons, List.mem_append, List.mem_append, List.mem_singleton] at h
      rcases h with (h | h) | h
      · exact .inr ⟨l, List.mem_cons_self, h⟩
      · exact .inl h
      · exact (ih h).imp_right fun ⟨m, hm, hx⟩ => ⟨m, List.mem_cons_of_mem l hm, hx⟩

theorem mem_intercalate_of_mem {α : Type} {x y : α} {l : List α} {ls : List (List α)}
    (hl : l ∈ ls) (h : x ∈ l) : x ∈ [y].intercalate ls := by
  induction ls with
  | nil => cases hl
  | cons m ls ih =>
    cases ls with
    | nil =>
      obtain rfl := List.mem_singleton.mp hl
      simpa using h
    | cons m' ls =>
      rw [List.intercalate_cons_cons, List.mem_append, List.mem_append]
      rcases List.mem_cons.mp hl with rfl | hl
      · exact .inl (.inl h)
      · exact .inr (ih hl)

namespace Path

/-- A path holds no characters but those of the text that denotes it, slashes and dots. -/
theorem mem_toList_text_ofText {s : String} {c : Char} (h : c ∈ (ofText s).text.toList) :
    c ∈ s.toList ∨ c = '/' ∨ c = '.' := by
  rw [text] at h
  split at h
  · exact .inr (.inr (by simpa using h))
  · rw [String.toList_append, List.mem_append] at h
    rcases h with h | h
    · refine .inr (.inl ?_)
      simp only [ofText, rootOf] at h
      split at h
      · simp at h
      · split at h <;> simpa using h
    · rw [String.toList_intercalate] at h
      rcases mem_intercalate h with h | ⟨l, hl, hc⟩
      · exact .inr (.inl h)
      · obtain ⟨step, hstep, rfl⟩ := List.mem_map.mp hl
        obtain ⟨part, hpart, rfl⟩ := List.mem_map.mp (List.mem_filter.mp hstep).1
        rw [String.toList_ofList] at hc
        have hjoin : ['/'].intercalate (s.toList.splitOn '/') = s.toList :=
          List.intercalate_splitOn '/'
        exact .inl (hjoin ▸ mem_intercalate_of_mem hpart hc)

end Path

namespace Command

/-! ## What a command needs -/

/-- A file of the language that holds a text, under a name that a file can have. -/
structure HoldsText (files : Path → FileState) (file source : String) : Prop where
  content : files (Path.ofText file) = .bytes (Utf8.encode (Codes.ofString source))
  language : checkLanguage (Path.ofText file) none = .ok ()
  noNull : '\x00' ∉ file.toList

/-- **The text of a file** is read with every line end as one line feed. -/
theorem HoldsText.readSource_eq {files : Path → FileState} {file source : String}
    (h : HoldsText files file source) :
    readSource files (Path.ofText file) none = .ok (Text.oneNewline (Codes.ofString source)) := by
  have hnull : (Path.ofText file).text.toList.contains '\x00' = false := by
    rw [Bool.eq_false_iff, ne_eq, List.contains_iff_mem]
    intro hmem
    rcases Path.mem_toList_text_ofText hmem with hfile | hslash | hdot
    · exact h.noNull hfile
    · cases hslash
    · cases hdot
  have hdecode := Utf8.decode_encode_of_noSurrogates (Codes.noSurrogates_ofString source)
  simp only [readSource, h.language, hnull, h.content, sourceOf, hdecode, Bool.false_eq_true,
    if_false]
  rfl

/-- A back end that is asked for by any of its names is asked for by its first one. -/
theorem exists_backendName {e : Environment} {backend : Option String} {mode : Option Mode}
    {kinds : Kinds} {s : Session}
    (hbackend : ∀ b ∈ backend, ∃ kind, BackendKind.ofName b = .ok kind)
    (hs : Session.create e (.named backend) mode kinds none = .ok s) :
    ∃ name, backendName backend = .ok name ∧ sessionFor e name mode kinds = .ok s := by
  cases backend with
  | none => exact ⟨none, rfl, by rw [sessionFor, hs]; rfl⟩
  | some b =>
    obtain ⟨kind, hkind⟩ := hbackend b rfl
    obtain ⟨settings, kind', hsettings, hkind', rfl⟩ := Session.create_eq_ok_iff.mp hs
    have hne : b ≠ "" := by
      rintro rfl
      cases BackendKind.ofName_empty.symm.trans hkind
    obtain rfl : kind = kind' := by
      rw [Host.nameOr, if_neg hne, hkind, Except.ok.injEq] at hkind'
      exact hkind'
    have hname : BackendKind.ofName (Host.nameOr (some kind.text) settings) = .ok kind := by
      rw [Host.nameOr, if_neg kind.text_ne_empty, kind.ofName_text]
    refine ⟨some kind.text, by rw [backendName, hkind], ?_⟩
    rw [sessionFor, Session.create_eq_ok_iff.mpr ⟨settings, kind, hsettings, hname, rfl⟩]
    rfl

theorem prepare_eq_ok {e : Environment} {files : Path → FileState} {file source : String}
    {backend : Option String} {mode : Option Mode} {kinds : Kinds} {s : Session}
    (hfile : HoldsText files file source)
    (hbackend : ∀ b ∈ backend, ∃ kind, BackendKind.ofName b = .ok kind)
    (hs : Session.create e (.named backend) mode kinds none = .ok s) :
    prepare e files (Path.ofText file) none backend mode kinds =
      .ok (Text.oneNewline (Codes.ofString source), s) := by
  obtain ⟨name, hname, hsession⟩ := exists_backendName hbackend hs
  simp only [prepare, hfile.readSource_eq, hname, hsession]
  rfl

/-! ## How a command ends -/

/-- How the words of a command line end. -/
def endOf (host : Host) (e : Environment) (files : Path → FileState) (words : List String) :
    Except Fault Outcome :=
  match (Plan.ofWords words).command with
  | .error fault => .error (.usage fault)
  | .ok command => (command.run host e files).value

section

variable {host : Host} {e : Environment} {files : Path → FileState} {path : Path}
  {language backend : Option String} {source : Codes} {s : Session} {asJson : Bool}

theorem run_find {mode : Option Mode} {kinds : List String}
    (h : prepare e files path language backend mode (Kinds.orAny (some kinds)) = .ok (source, s))
    (first last : Int) :
    run host e files (.find path first last mode backend kinds language asJson) =
      answered (s.find host source first last) (findOutcome host asJson) := by
  unfold run
  simp only [h]

theorem run_check (h : prepare e files path language backend none none = .ok (source, s)) :
    run host e files (.check path backend language asJson) =
      answered (s.check host source) (checkOutcome host path asJson) := by
  unfold run
  simp only [h]

end

section

variable {host : Host} {e : Environment} {files : Path → FileState} {file source : String}
  {backend : Option String} {s : Session} (hfile : HoldsText files file source)
  (hbackend : ∀ b ∈ backend, ∃ kind, BackendKind.ofName b = .ok kind)

include hfile hbackend

/-- **A search in a file** ends as the session finds it. -/
theorem endOf_search {mode : Option Mode} {kinds : Kinds} {first last : Int} {c : Option Context}
    (hs : Session.create e (.named backend) mode kinds.orAny none = .ok s)
    (hfirst : 1 ≤ first) (hlast : 1 ≤ last)
    (hfirst' : (Json.digitCodes first.natAbs).length ≤ Field.maxIntegerText)
    (hlast' : (Json.digitCodes last.natAbs).length ≤ Field.maxIntegerText)
    (hc : (s.find host (Text.oneNewline (Codes.ofString source)) first last).value.1 = .ok c)
    (asJson : Bool) :
    endOf host e files (searchWords first last mode (kinds.getD []) backend asJson file) =
      findOutcome host asJson c := by
  have hkinds : Kinds.orAny (some (kinds.getD [])) = kinds.orAny := by cases kinds <;> rfl
  have hrun : run host e files (.find (Path.ofText file) first last mode backend (kinds.getD [])
      none asJson) = answered (s.find host (Text.oneNewline (Codes.ofString source)) first last)
        (findOutcome host asJson) := by
    have hprepare := prepare_eq_ok hfile hbackend (hkinds ▸ hs)
    exact run_find hprepare first last
  rw [endOf, Plan.ofWords_search mode _ backend asJson file hfirst hlast hfirst' hlast']
  simp only [hrun]
  rw [answered, Traced.onValue, hc]

/-- **A check of a file** ends as the session decides. -/
theorem endOf_check {v : Verdict} (hs : Session.create e (.named backend) none none none = .ok s)
    (hv : (s.check host (Text.oneNewline (Codes.ofString source))).value.1 = .ok v)
    (asJson : Bool) :
    endOf host e files (checkWords backend asJson file) =
      checkOutcome host (Path.ofText file) asJson v := by
  have hrun : run host e files (.check (Path.ofText file) backend none asJson) =
      answered (s.check host (Text.oneNewline (Codes.ofString source)))
        (checkOutcome host (Path.ofText file) asJson) := by
    exact run_check (prepare_eq_ok hfile hbackend hs)
  rw [endOf, Plan.ofWords_check]
  simp only [hrun]
  rw [answered, Traced.onValue, hv]

end

/-! ## Printing a verdict -/

open Console Console.Markup

/-- A word in a style of its own, with nothing in it that markup gives a meaning to. -/
structure Heading (style word : List Char) : Prop where
  isStyle : IsStyle style
  no_bracket : '[' ∉ word
  last : word.getLast? ≠ some '\\'
  isLiteral : IsLiteral word
  printed : ∀ c ∈ word, 0x20 ≤ c.toNat

theorem heading_valid : Heading "green".toList "Valid".toList where
  isStyle := isStyle_green
  no_bracket := by decide
  last := by decide
  isLiteral := isLiteral_of_not_mem (by decide) (by decide)
  printed := by simp

theorem heading_invalid : Heading "red".toList "Invalid".toList where
  isStyle := isStyle_red
  no_bracket := by decide
  last := by decide
  isLiteral := isLiteral_of_not_mem (by decide) (by decide)
  printed := by simp

namespace Heading

variable {style word : List Char}

theorem seenText_eq (h : Heading style word) : seenText word = word :=
  h.isLiteral.seenText_eq h.printed

/-- What begins with such a word can be printed exactly if the rest can be printed by itself. -/
theorem exists_print_iff (h : Heading style word) (values : Values) (cs : List Char) :
    (∃ out, print values none (styled style word cs) = .ok out) ↔
      ∃ out, print values none cs = .ok out := by
  have hcontrol {c : Char} (hc : c.toNat < 0x20) : c ∉ seenText word := by
    rw [h.seenText_eq]
    exact fun hmem => Nat.not_le.mpr hc (h.printed c hmem)
  exact exists_print_styled_iff values h.isStyle h.no_bracket h.last (hcontrol (by decide))
    (hcontrol (by decide)) cs

end Heading

theorem verdictMarkup_of_valid (path : Path) {v : Verdict} (h : v.valid = true) :
    verdictMarkup path v = styled "green".toList "Valid".toList path.text.toList := by
  rw [verdictMarkup, if_pos h]
  rfl

theorem verdictMarkup_of_not_valid (path : Path) {v : Verdict} (h : v.valid = false) :
    verdictMarkup path v = styled "red".toList "Invalid".toList
      ((escape path.text.toList ++ ": ".toList) ++ escape v.error.toList) := by
  rw [verdictMarkup, h, if_neg Bool.false_ne_true, List.append_assoc, List.append_assoc,
    ← List.append_assoc _ _ (escape v.error.toList)]
  rfl

theorem exists_printed_iff {host : Host} {width : Option Nat} {cs : List Char} :
    (∃ out, printed host width cs = .ok out) ↔ ∃ out, print host.values width cs = .ok out := by
  rw [printed]
  cases print host.values width cs with
  | ok out => exact iff_of_true ⟨_, rfl⟩ ⟨_, rfl⟩
  | error refusal => exact iff_of_false (by nofun) (by nofun)

/-- **A good verdict can be printed** exactly if the path of the file can be printed as a text with
tags. -/
theorem exists_printed_iff_of_valid (host : Host) (path : Path) {v : Verdict}
    (h : v.valid = true) :
    (∃ out, printed host none (verdictMarkup path v) = .ok out) ↔
      ∃ out, print host.values none path.text.toList = .ok out := by
  rw [exists_printed_iff, verdictMarkup_of_valid path h]
  exact heading_valid.exists_print_iff host.values _

/-- Any verdict can be printed if there is no bracket in the path of the file. -/
theorem exists_printed (host : Host) {path : Path} (h : '[' ∉ path.text.toList) (v : Verdict) :
    ∃ out, printed host none (verdictMarkup path v) = .ok out := by
  cases hv : v.valid with
  | true =>
    rw [exists_printed_iff_of_valid host path hv]
    exact (isPlain_of_not_mem h).exists_print host.values none
  | false =>
    have hplain : IsPlain ((escape path.text.toList ++ ": ".toList) ++ escape v.error.toList) :=
      .append (by simpa using not_mem_escape h) (by simp) (isPlain_escape _)
    rw [exists_printed_iff, verdictMarkup_of_not_valid path hv]
    exact (heading_invalid.exists_print_iff host.values _).mpr (hplain.exists_print host.values none)

end Command
end Enclosure
