import Enclosure.Command.Run
import Enclosure.Proofs.Fields

/-!
# Words that are read back

A program that starts a command writes down what it wants as words: each option with its name and
its value, and the path of the file behind two dashes, where nothing is taken for an option any more.
Reading these words gives back what was wanted, whatever the values and the path look like.

What is here:

* `Command.wordsOf`: the words of an option.
* `Command.readWords_options`: reading options and arguments.
* `Command.searchWords` and `Command.checkWords`: the words of a search and of a check.
* `Plan.ofWords_search` and `Plan.ofWords_check`: the plans that they amount to.
-/

set_option autoImplicit false

namespace Enclosure

namespace Command

/-! ## Options as words -/

/-- Only a word with a dash in front is read as options. -/
theorem isOption_iff (word : String) :
    isOption word = true ↔ ['-'] <+: word.toList ∧ word ≠ "-" := by
  simp [isOption, String.isPrefixOf]

/-- An option with its value; that of an option without a value does not matter. -/
abbrev Given := Switch × String

/-- The words of an option. -/
def wordsOf (o : Given) : List String := if o.1.takesValue then [o.1.name, o.2] else [o.1.name]

/-- An option as it is kept once it has been read. -/
def entryOf (o : Given) : String × String := (o.1.name, if o.1.takesValue then o.2 else "")

/-- A switch that is found by its name, where the name is no other word and has no value in it. -/
structure IsKnown (known : List Switch) (s : Switch) : Prop where
  /-- It is the first one with its name. -/
  found : (known.find? fun k => k.name == s.name) = some s
  /-- The name is read as an option. -/
  option : isOption s.name = true
  /-- It is not the word behind which everything is an argument. -/
  ne_end : s.name ≠ "--"
  /-- It holds no equals sign. -/
  split : splitValue s.name = (s.name, none)

/-- All switches of a list are known, as far as their names tell. -/
theorem isKnown_of_names {known : List Switch}
    (h : ∀ s ∈ known, (known.find? fun k => k.name == s.name) = some s ∧
      ['-'] <+: s.name.toList ∧ s.name ≠ "-" ∧ s.name ≠ "--" ∧ splitValue s.name = (s.name, none)) :
    ∀ s ∈ known, IsKnown known s := by
  intro s hs
  obtain ⟨hfound, hdash, hone, htwo, hsplit⟩ := h s hs
  exact ⟨hfound, (isOption_iff s.name).mpr ⟨hdash, hone⟩, htwo, hsplit⟩

theorem isKnown_find : ∀ s ∈ findSwitches, IsKnown findSwitches s := isKnown_of_names (by decide)

theorem isKnown_check : ∀ s ∈ checkSwitches, IsKnown checkSwitches s := isKnown_of_names (by decide)

/-- The words of one option are read as this option, whatever its value looks like. -/
theorem readWords_option {known : List Switch} {mixed : Bool} {o : Given} (h : IsKnown known o.1)
    (rest : List String) :
    readWords known mixed (wordsOf o ++ rest) =
      (readWords known mixed rest).map (·.withOptions [entryOf o]) := by
  obtain ⟨s, value⟩ := o
  rw [wordsOf, entryOf]
  cases htakes : s.takesValue with
  | true =>
    have hread : readWord known s.name (some value) = .ok ([(s.name, value)], true) := by
      simp only [readWord, h.split, h.found, htakes, fromNext]
    simp only [if_true, List.cons_append, List.nil_append]
    rw [readWords]
    simp only [if_neg h.ne_end, h.option, if_true, List.head?_cons, List.tail_cons, hread]
  | false =>
    have hread (next : Option String) : readWord known s.name next = .ok ([(s.name, "")], false) := by
      simp only [readWord, h.split, h.found, htakes]
    simp only [Bool.false_eq_true, if_false, List.cons_append, List.nil_append]
    rw [readWords]
    simp only [if_neg h.ne_end, h.option, if_true, hread]

/-- **Options are read back**, and everything behind two dashes is an argument. -/
theorem readWords_options {known : List Switch} {mixed : Bool} {options : List Given}
    (h : ∀ o ∈ options, IsKnown known o.1) (arguments : List String) :
    readWords known mixed (options.flatMap wordsOf ++ "--" :: arguments) =
      .ok { options := options.map entryOf, arguments := arguments } := by
  induction options with
  | nil =>
    rw [List.flatMap_nil, List.nil_append, readWords, if_pos rfl]
    rfl
  | cons o options ih =>
    rw [List.flatMap_cons, List.append_assoc, readWords_option (h o List.mem_cons_self),
      ih fun o' ho' => h o' (List.mem_cons_of_mem o ho')]
    rfl

/-! ## Values -/

theorem tryAll_eq_ok {read : String → Asked Unit} (h : ∀ name, read name = .ok ())
    (names : List String) : tryAll names read = .ok () := by
  induction names with
  | nil => rfl
  | cons name names ih => rw [tryAll, h, ih]

theorem number_toString (s : Switch) {n : Int} (hpos : 1 ≤ n)
    (hshort : (Json.digitCodes n.natAbs).length ≤ Field.maxIntegerText) :
    number s none (toString n) = .ok n := by
  rw [number, Field.line_toString hpos hshort]

theorem choice_mode (m : Mode) : choice modeSwitch Mode.text [.largest, .smallest] m.text = .ok m := by
  cases m <;> rfl

/-- A search from a reading in which the lines are numbers and the mode is the word for one. -/
theorem ofFind_eq {r : Reading} {file : String} {first last : Int} {m : Option Mode}
    (hfile : r.arguments = [file]) (hfirst : firstLine r = .ok first)
    (hlast : lastLine r = .ok (some last)) (hmode : r.value? modeSwitch.name = m.map Mode.text) :
    ofFind r = .ok (.find (Path.ofText file) first last m (r.value? backendSwitch.name)
      (r.values kindSwitch.name) (r.value? languageSwitch.name) (r.has jsonSwitch.name)) := by
  have hpath : path r = .ok (Path.ofText file) := by rw [path, hfile]
  have hsurplus : noSurplus r 1 = .ok () := by rw [noSurplus, hfile]; rfl
  have hmode' : mode r = .ok m := by
    rw [mode, ofOption, hmode]
    cases m with
    | none => rfl
    | some m => simp only [Option.map_some, choice_mode, Except.map]
  have hread : ∀ name, (if name = pathName then tried (path r)
      else if name = startSwitch.name then tried (firstLine r)
      else if name = endSwitch.name then tried (lastLine r)
      else if name = modeSwitch.name then tried (mode r) else .ok ()) = .ok () := by
    intro name
    simp only [hpath, hfirst, hlast, hmode', tried, Except.map, ite_self]
  rw [ofFind, tryAll_eq_ok hread, hsurplus, hfirst, hlast, hmode', hpath]
  rfl

/-- A check from a reading. -/
theorem ofCheck_eq {r : Reading} {file : String} (hfile : r.arguments = [file]) :
    ofCheck r = .ok (.check (Path.ofText file) (r.value? backendSwitch.name)
      (r.value? languageSwitch.name) (r.has jsonSwitch.name)) := by
  have hpath : path r = .ok (Path.ofText file) := by rw [path, hfile]
  have hsurplus : noSurplus r 1 = .ok () := by rw [noSurplus, hfile]; rfl
  rw [ofCheck, hpath, hsurplus]
  rfl

/-! ## Commands as words -/

/-- An option that is given once for each of some values. -/
def ask (s : Switch) (values : List String) : List Given := values.map fun v => (s, v)

/-- The option that asks for a document, if it is wanted. -/
def askJson (asJson : Bool) : List Given := ask jsonSwitch (if asJson then [""] else [])

/-- The options of a search. -/
def searchOptions (first last : Int) (mode : Option Mode) (kinds : List String)
    (backend : Option String) (asJson : Bool) : List Given :=
  ask startSwitch [toString first] ++ (ask endSwitch [toString last] ++
    (ask modeSwitch (mode.map Mode.text).toList ++ (ask kindSwitch kinds ++
      (ask backendSwitch backend.toList ++ askJson asJson))))

/-- The options of a check. -/
def checkOptions (backend : Option String) (asJson : Bool) : List Given :=
  ask backendSwitch backend.toList ++ askJson asJson

/-- The words of a search in a file. -/
def searchWords (first last : Int) (mode : Option Mode) (kinds : List String)
    (backend : Option String) (asJson : Bool) (file : String) : List String :=
  "find" :: ((searchOptions first last mode kinds backend asJson).flatMap wordsOf ++ ["--", file])

/-- The words of a check of a file. -/
def checkWords (backend : Option String) (asJson : Bool) (file : String) : List String :=
  "validate" :: ((checkOptions backend asJson).flatMap wordsOf ++ ["--", file])

theorem isKnown_of_mem_ask {known : List Switch} {s : Switch} {values : List String} {o : Given}
    (h : IsKnown known s) (ho : o ∈ ask s values) : IsKnown known o.1 := by
  obtain ⟨v, -, rfl⟩ := List.mem_map.mp ho
  exact h

/-- The values of an option among those of options that have been read. -/
def valuesIn (options : List Given) (name : String) : List String :=
  ((options.map entryOf).filter fun o => o.1 = name).map Prod.snd

theorem valuesIn_append (options others : List Given) (name : String) :
    valuesIn (options ++ others) name = valuesIn options name ++ valuesIn others name := by
  rw [valuesIn, List.map_append, List.filter_append, List.map_append]
  rfl

theorem valuesIn_ask {s : Switch} {values : List String}
    (h : s.takesValue = true ∨ ∀ v ∈ values, v = "") (name : String) :
    valuesIn (ask s values) name = if s.name = name then values else [] := by
  have hentry : ∀ v ∈ values, entryOf (s, v) = (s.name, v) := by
    intro v hv
    rcases h with h | h
    · simp [entryOf, h]
    · simp [entryOf, h v hv]
  have hentries : (ask s values).map entryOf = values.map fun v => (s.name, v) := by
    rw [ask, List.map_map]
    exact List.map_congr_left hentry
  rw [valuesIn, hentries, List.filter_map, List.map_map]
  by_cases hname : s.name = name <;> simp [Function.comp_def, hname]

theorem has_eq (r : Reading) (name : String) : r.has name = !(r.values name).isEmpty := by
  rw [Bool.eq_iff_iff, Reading.has, Reading.values]
  simp

/-- The reading of some options and the name of a file. -/
def readingOf (options : List Given) (file : String) : Reading :=
  { options := options.map entryOf, arguments := [file] }

theorem values_readingOf (options : List Given) (file name : String) :
    (readingOf options file).values name = valuesIn options name := rfl

theorem value?_readingOf (options : List Given) (file name : String) :
    (readingOf options file).value? name = (valuesIn options name).getLast? := rfl

theorem has_readingOf (options : List Given) (file name : String) :
    (readingOf options file).has name = !(valuesIn options name).isEmpty := has_eq _ name

/-- A command is built from the reading of its words, unless they ask for help. -/
theorem ofWordsWith_readingOf {topic : String} {known : List Switch} {build : Reading → Asked Command}
    {options : List Given} (hknown : ∀ o ∈ options, IsKnown known o.1)
    (hhelp : valuesIn options helpSwitch.name = []) (file : String) :
    ofWordsWith topic known build (options.flatMap wordsOf ++ ["--", file]) =
      build (readingOf options file) := by
  have hbare : (readingOf options file).has helpSwitch.name = false := by
    rw [has_readingOf, hhelp]
    rfl
  have hread : readWords known true (options.flatMap wordsOf ++ ["--", file]) =
      .ok (readingOf options file) := readWords_options hknown [file]
  simp only [ofWordsWith, hread, orHelp, hbare, Bool.false_eq_true, if_false]

end Command

open Command

/-- The first word names a command, and nothing stands in front of it. -/
theorem Command.enter_named {name : String} (hname : name ∈ ["find", "validate", "serve"])
    (rest : List String) :
    enter rootSwitches ["find", "validate", "serve"] (name :: rest) =
      .ok (.named { arguments := name :: rest } name rest) := by
  have hoption : ∀ n ∈ ["find", "validate", "serve"], isOption n = false ∧ n ≠ "--" := by
    simp only [Bool.eq_false_iff, ne_eq, isOption_iff]
    decide
  obtain ⟨hbare, hend⟩ := hoption name hname
  have hfront : readWords rootSwitches false (name :: rest) = .ok { arguments := name :: rest } := by
    rw [readWords]
    simp only [if_neg hend, hbare, Bool.false_eq_true, if_false]
  have hhelp : Reading.has { arguments := name :: rest } helpSwitch.name = false := rfl
  simp only [enter, List.isEmpty_cons, Bool.false_eq_true, if_false, hfront, hhelp,
    List.contains_iff_mem.mpr hname, if_true]

/-- A plan is made for the command that the first word names. -/
theorem Plan.ofWords_named {name : String} (hname : name ∈ ["find", "validate", "serve"])
    (rest : List String) :
    Plan.ofWords (name :: rest) = ⟨some .warning, Command.ofName name rest⟩ := by
  have hverbose : Reading.has { arguments := name :: rest } "--verbose" = false := rfl
  simp only [Plan.ofWords, enter_named hname, hverbose, Bool.false_eq_true, if_false]

section

variable {first last : Int} (mode : Option Mode) (kinds : List String) (backend : Option String)
  (asJson : Bool) (file : String)

/-- The values of an option in the reading of a search. -/
theorem Command.valuesIn_searchOptions (name : String) :
    valuesIn (searchOptions first last mode kinds backend asJson) name =
      (if startSwitch.name = name then [toString first] else []) ++
      ((if endSwitch.name = name then [toString last] else []) ++
      ((if modeSwitch.name = name then (mode.map Mode.text).toList else []) ++
      ((if kindSwitch.name = name then kinds else []) ++
      ((if backendSwitch.name = name then backend.toList else []) ++
      (if jsonSwitch.name = name then (if asJson then [""] else []) else []))))) := by
  simp only [searchOptions, valuesIn_append, askJson]
  rw [valuesIn_ask (.inl rfl), valuesIn_ask (.inl rfl), valuesIn_ask (.inl rfl),
    valuesIn_ask (.inl rfl), valuesIn_ask (.inl rfl), valuesIn_ask (.inr (by cases asJson <;> simp))]

theorem Command.isKnown_searchOptions :
    ∀ o ∈ searchOptions first last mode kinds backend asJson, IsKnown findSwitches o.1 := by
  intro o ho
  simp only [searchOptions, askJson, List.mem_append] at ho
  rcases ho with ho | ho | ho | ho | ho | ho <;>
    exact isKnown_of_mem_ask (isKnown_find _ (by decide)) ho

/-- **The words of a search** amount to this search. -/
theorem Plan.ofWords_search (hfirst : 1 ≤ first) (hlast : 1 ≤ last)
    (hfirst' : (Json.digitCodes first.natAbs).length ≤ Field.maxIntegerText)
    (hlast' : (Json.digitCodes last.natAbs).length ≤ Field.maxIntegerText) :
    Plan.ofWords (searchWords first last mode kinds backend asJson file) =
      ⟨some .warning, .ok (.find (Path.ofText file) first last mode backend kinds none asJson)⟩ := by
  have hvalues := @valuesIn_searchOptions first last mode kinds backend asJson
  rw [searchWords, Plan.ofWords_named (by decide), Command.ofName, if_pos rfl,
    ofWordsWith_readingOf (isKnown_searchOptions mode kinds backend asJson) (hvalues _)]
  generalize searchOptions first last mode kinds backend asJson = options at hvalues ⊢
  have hstart : firstLine (readingOf options file) = .ok first := by
    rw [firstLine, value?_readingOf, hvalues]
    exact number_toString startSwitch hfirst hfirst'
  have hend : lastLine (readingOf options file) = .ok (some last) := by
    rw [lastLine, ofOption, value?_readingOf, hvalues]
    exact congrArg (Except.map some) (number_toString endSwitch hlast hlast')
  have hmode : (readingOf options file).value? modeSwitch.name = mode.map Mode.text := by
    rw [value?_readingOf, hvalues]
    cases mode <;> rfl
  have hkinds : (readingOf options file).values kindSwitch.name = kinds := by
    rw [values_readingOf, hvalues]
    exact List.append_nil kinds
  have hbackend : (readingOf options file).value? backendSwitch.name = backend := by
    rw [value?_readingOf, hvalues]
    cases backend <;> rfl
  have hlanguage : (readingOf options file).value? languageSwitch.name = none := by
    rw [value?_readingOf, hvalues]
    rfl
  have hjson : (readingOf options file).has jsonSwitch.name = asJson := by
    rw [has_readingOf, hvalues]
    cases asJson <;> rfl
  rw [ofFind_eq rfl hstart hend hmode, hbackend, hkinds, hlanguage, hjson]

/-- The values of an option in the reading of a check. -/
theorem Command.valuesIn_checkOptions (name : String) :
    valuesIn (checkOptions backend asJson) name =
      (if backendSwitch.name = name then backend.toList else []) ++
      (if jsonSwitch.name = name then (if asJson then [""] else []) else []) := by
  rw [checkOptions, valuesIn_append, askJson, valuesIn_ask (.inl rfl),
    valuesIn_ask (.inr (by cases asJson <;> simp))]

theorem Command.isKnown_checkOptions :
    ∀ o ∈ checkOptions backend asJson, IsKnown checkSwitches o.1 := by
  intro o ho
  simp only [checkOptions, askJson, List.mem_append] at ho
  rcases ho with ho | ho <;> exact isKnown_of_mem_ask (isKnown_check _ (by decide)) ho

/-- **The words of a check** amount to this check. -/
theorem Plan.ofWords_check :
    Plan.ofWords (checkWords backend asJson file) =
      ⟨some .warning, .ok (.check (Path.ofText file) backend none asJson)⟩ := by
  have hvalues := valuesIn_checkOptions backend asJson
  rw [checkWords, Plan.ofWords_named (by decide), Command.ofName, if_neg (by decide), if_pos rfl,
    ofWordsWith_readingOf (isKnown_checkOptions backend asJson) (hvalues _)]
  generalize checkOptions backend asJson = options at hvalues ⊢
  have hbackend : (readingOf options file).value? backendSwitch.name = backend := by
    rw [value?_readingOf, hvalues]
    cases backend <;> rfl
  have hlanguage : (readingOf options file).value? languageSwitch.name = none := by
    rw [value?_readingOf, hvalues]
    rfl
  have hjson : (readingOf options file).has jsonSwitch.name = asJson := by
    rw [has_readingOf, hvalues]
    cases asJson <;> rfl
  rw [ofCheck_eq rfl, hbackend, hlanguage, hjson]

end

end Enclosure
