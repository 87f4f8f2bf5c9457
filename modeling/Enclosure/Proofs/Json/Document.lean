import Enclosure.Proofs.Json.Number

/-!
# Reading a document that was written in ASCII

What the writer leaves is what the reader takes, up to pairs of surrogates: a value comes back with
the pairs in its texts and its keys joined.  The reader does this wherever the document of the value
stands and whatever comes after it, as long as it is something that ends a value.

What is here:

* `Json.joined`: a value with the pairs in its texts joined.
* `Json.Fits`: a value that the reader has room for.
* `Json.items_written` and `Json.members_written`: the parts of a list and of an object.
* `Json.readsBack_of_fits`: a value with something behind it.
* `Json.read_written`: a whole document.
-/

set_option autoImplicit false

namespace Enclosure.Json

/-! ## Values -/

mutual

/-- A value with the pairs of surrogates in its texts and its keys joined. -/
def joined : Json → Json
  | text s => .text (Utf16.joinPairs s)
  | array items => .array (joinedItems items)
  | object members => .object (joinedMembers members)
  | v => v

/-- Items with their pairs joined. -/
def joinedItems : List Json → List Json
  | [] => []
  | v :: vs => v.joined :: joinedItems vs

/-- Members with their pairs joined. -/
def joinedMembers : List (Codes × Json) → List (Codes × Json)
  | [] => []
  | (k, v) :: ms => (Utf16.joinPairs k, v.joined) :: joinedMembers ms

end

theorem joinedItems_eq_map (vs : List Json) : joinedItems vs = vs.map joined := by
  induction vs with
  | nil => rfl
  | cons v vs ih => rw [joinedItems, ih, List.map_cons]

/-- A value that the reader has room for: it nests at most so deep, its numbers are whole and not
too long, and the keys of its objects differ after reading. -/
inductive Fits : Nat → Json → Prop
  | null (levels : Nat) : Fits levels .null
  | bool (levels : Nat) (b : Bool) : Fits levels (.bool b)
  | int (levels : Nat) (n : Int) (h : (digitCodes n.natAbs).length ≤ maxDigits) :
    Fits levels (.int n)
  | text (levels : Nat) (s : Codes) : Fits levels (.text s)
  | array (levels : Nat) (vs : List Json) (h : ∀ v ∈ vs, Fits levels v) :
    Fits (levels + 1) (.array vs)
  | object (levels : Nat) (ms : List (Codes × Json))
    (hkeys : (ms.map fun m => Utf16.joinPairs m.1).Nodup) (h : ∀ m ∈ ms, Fits levels m.2) :
    Fits (levels + 1) (.object ms)

/-- The document of a value. -/
def document (v : Json) : Codes := Codes.ofString v.writeAscii

theorem document_int (n : Int) : document (.int n) = Codes.ofString (intText n) := by
  simp only [document, writeAscii, write]

theorem document_text (s : Codes) :
    document (.text s) = quoteMark :: ((Utf16.split s).flatMap spelled ++ [quoteMark]) := by
  rw [document, writeAscii, ofString_writeAsciiText]

theorem document_array (vs : List Json) :
    document (.array vs) =
      .ofChar '[' :: (Codes.ofString (", ".intercalate (writeAsciiItems vs)) ++ [.ofChar ']']) := by
  rw [document, writeAscii, Codes.ofString_append, Codes.ofString_append]
  rfl

theorem document_object (ms : List (Codes × Json)) :
    document (.object ms) =
      .ofChar '\x7b' ::
        (Codes.ofString (", ".intercalate (writeAsciiMembers ms)) ++ [.ofChar '\x7d']) := by
  rw [document, writeAscii, Codes.ofString_append, Codes.ofString_append]
  rfl

/-! ## Space between the parts -/

theorem pastSpace_eq_self {rest : Codes} (h : rest.takeWhile isSpace = []) (place : Nat) :
    Cursor.pastSpace ⟨rest, place⟩ = ⟨rest, place⟩ := by
  rw [Cursor.pastSpace, h]
  rfl

theorem pastSpace_blank {rest : Codes} (h : rest.takeWhile isSpace = []) (place : Nat) :
    Cursor.pastSpace ⟨.ofChar ' ' :: rest, place⟩ = ⟨rest, place + 1⟩ := by
  rw [Cursor.pastSpace, List.takeWhile_cons_of_pos (by rfl), h]
  rfl

theorem Ends.takeWhile_isSpace {tail : Codes} (h : Ends tail) : tail.takeWhile isSpace = [] := by
  cases h with
  | nil => rfl
  | cons x hx rest => rcases hx with rfl | rfl | rfl <;> rfl

/-- A number starts with a sign or a digit. -/
theorem exists_head_intText (n : Int) :
    ∃ c rest, Codes.ofString (intText n) = .ofChar c :: rest ∧ (c = '-' ∨ c.isDigit = true) := by
  rw [ofString_intText]
  split
  · exact ⟨'-', digitCodes n.natAbs, rfl, .inl rfl⟩
  · obtain ⟨c, cs, hcs⟩ :=
      List.exists_cons_of_ne_nil (Nat.toDigits_ne_nil (n := n.natAbs) (b := 10))
    have hc := Nat.isDigit_of_mem_toDigits (c := c) (n := n.natAbs) (b := 10) (by decide)
      (by decide) (by simp [hcs])
    exact ⟨c, Codes.ofChars cs, by rw [digitCodes, hcs]; rfl, .inr hc⟩

/-- The characters that a document of a value without fractions can start with. -/
theorem exists_head_document {levels : Nat} {v : Json} (h : Fits levels v) :
    ∃ c rest, document v = .ofChar c :: rest ∧
      (c ∈ ['n', 't', 'f', '"', '[', '\x7b', '-'] ∨ c.isDigit = true) := by
  cases h with
  | null => exact ⟨'n', Codes.ofString "ull", rfl, by decide⟩
  | bool _ b =>
    cases b with
    | true => exact ⟨'t', Codes.ofString "rue", rfl, by decide⟩
    | false => exact ⟨'f', Codes.ofString "alse", rfl, by decide⟩
  | int _ n =>
    obtain ⟨c, rest, hcodes, hc⟩ := exists_head_intText n
    exact ⟨c, rest, hcodes, hc.imp_left fun h => by simp [h]⟩
  | text _ s => exact ⟨'"', _, document_text s, by decide⟩
  | array _ vs => exact ⟨'[', _, document_array vs, by decide⟩
  | object _ ms => exact ⟨'\x7b', _, document_object ms, by decide⟩

theorem isSpace_of_isDigit {x : CodePoint} (h : isDigit x = true) : isSpace x = false := by
  rw [isDigit, Bool.and_eq_true, decide_eq_true_eq, decide_eq_true_eq] at h
  simp only [isSpace, Bool.or_eq_false_iff, beq_eq_false_iff_ne]
  omega

/-- A document starts with no white space. -/
theorem takeWhile_document {levels : Nat} {v : Json} (h : Fits levels v) (tail : Codes) :
    (document v ++ tail).takeWhile isSpace = [] := by
  obtain ⟨c, rest, hcodes, hc⟩ := exists_head_document h
  have hspace : isSpace (.ofChar c) = false := by
    rcases hc with hc | hc
    · have hwords : ['n', 't', 'f', '"', '[', '\x7b', '-'].all (fun x => !isSpace (.ofChar x)) =
          true := rfl
      simpa using List.all_eq_true.mp hwords c hc
    · exact isSpace_of_isDigit (isDigit_ofChar hc)
  rw [hcodes, List.cons_append, List.takeWhile_cons_of_neg (by simp [hspace])]

/-- A document does not start with the end of a list. -/
theorem at?_document {levels : Nat} {v : Json} (h : Fits levels v) (tail : Codes) (place : Nat) :
    Cursor.at? ⟨document v ++ tail, place⟩ ']' = false := by
  obtain ⟨c, rest, hcodes, hc⟩ := exists_head_document h
  rw [hcodes, List.cons_append, at?_ofChar, beq_eq_false_iff_ne]
  rintro rfl
  revert hc
  decide

/-! ## Lists -/

/-- The reader takes a value wherever its document stands. -/
def ReadsBack (levels : Nat) (v : Json) : Prop :=
  ∀ fuel, 2 * (document v).length ≤ fuel → ∀ tail, Ends tail → ∀ place,
    value fuel levels ⟨document v ++ tail, place⟩ =
      .ok (v.joined, ⟨tail, place + (document v).length⟩)

/-- The documents of items, with commas between them. -/
def itemsDocument (vs : List Json) : Codes :=
  Codes.ofString (", ".intercalate (writeAsciiItems vs))

theorem itemsDocument_singleton (v : Json) : itemsDocument [v] = document v := by
  rw [itemsDocument, writeAsciiItems, writeAsciiItems, String.intercalate_singleton]
  rfl

theorem itemsDocument_cons_cons (v w : Json) (vs : List Json) :
    itemsDocument (v :: w :: vs) =
      document v ++ .ofChar ',' :: .ofChar ' ' :: itemsDocument (w :: vs) := by
  rw [itemsDocument, itemsDocument, writeAsciiItems, writeAsciiItems,
    String.intercalate_cons_cons, Codes.ofString_append, Codes.ofString_append, List.append_assoc]
  rfl

theorem exists_itemsDocument_eq (v : Json) (vs : List Json) :
    ∃ rest, itemsDocument (v :: vs) = document v ++ rest := by
  cases vs with
  | nil => exact ⟨[], by rw [itemsDocument_singleton, List.append_nil]⟩
  | cons w vs => exact ⟨_, itemsDocument_cons_cons v w vs⟩

theorem items_last {fuel levels : Nat} {taken : List Json} {c : Cursor} {v : Json} {tail : Codes}
    {place : Nat} (hv : value fuel levels c = .ok (v, ⟨.ofChar ']' :: tail, place⟩)) :
    items (fuel + 1) levels taken c = .ok (.array (v :: taken).reverse, ⟨tail, place + 1⟩) := by
  rw [items, hv]
  rfl

theorem items_more {fuel levels : Nat} {taken : List Json} {c : Cursor} {v : Json} {rest : Codes}
    {place : Nat}
    (hv : value fuel levels c = .ok (v, ⟨.ofChar ',' :: .ofChar ' ' :: rest, place⟩))
    (hrest : rest.takeWhile isSpace = []) :
    items (fuel + 1) levels taken c = items fuel levels (v :: taken) ⟨rest, place + 2⟩ := by
  have hpast := pastSpace_eq_self
    (show (.ofChar ',' :: .ofChar ' ' :: rest).takeWhile isSpace = [] from rfl) place
  have hblank := pastSpace_blank hrest (place + 1)
  rw [items, hv]
  simp only [hpast, at?_ofChar, Cursor.next, List.drop_succ_cons, List.drop_zero, hblank]
  rfl

/-- **The items of a list.** -/
theorem items_written {levels : Nat} (vs : List Json) (hfit : ∀ v ∈ vs, Fits levels v)
    (hread : ∀ v ∈ vs, ReadsBack levels v) (hne : vs ≠ []) (fuel : Nat)
    (hfuel : 2 * (itemsDocument vs).length < fuel) (taken : List Json) (tail : Codes)
    (place : Nat) :
    items fuel levels taken ⟨itemsDocument vs ++ .ofChar ']' :: tail, place⟩ =
      .ok (.array (taken.reverse ++ joinedItems vs),
        ⟨tail, place + (itemsDocument vs).length + 1⟩) := by
  induction vs generalizing fuel taken place with
  | nil => exact absurd rfl hne
  | cons v vs ih =>
    obtain ⟨fuel, rfl⟩ := Nat.exists_eq_add_one_of_ne_zero (n := fuel) (by omega)
    have hv := hread v List.mem_cons_self
    cases vs with
    | nil =>
      rw [itemsDocument_singleton] at hfuel ⊢
      rw [items_last (hv fuel (by omega) _ (.cons ']' (by simp) tail) place)]
      simp [joinedItems]
    | cons w ws =>
      rw [itemsDocument_cons_cons] at hfuel ⊢
      simp only [List.length_append, List.length_cons] at hfuel
      obtain ⟨rest, hrest⟩ := exists_itemsDocument_eq w ws
      have hspace : (itemsDocument (w :: ws) ++ .ofChar ']' :: tail).takeWhile isSpace = [] := by
        rw [hrest, List.append_assoc]
        exact takeWhile_document (hfit w (by simp)) _
      have hfirst := hv fuel (by omega)
        (.ofChar ',' :: .ofChar ' ' :: (itemsDocument (w :: ws) ++ .ofChar ']' :: tail))
        (.cons ',' (by simp) _) place
      rw [List.append_assoc, List.cons_append, List.cons_append, items_more hfirst hspace,
        ih (fun x hx => hfit x (List.mem_cons_of_mem _ hx))
          (fun x hx => hread x (List.mem_cons_of_mem _ hx)) (by simp) fuel (by omega)]
      simp only [joinedItems, List.reverse_cons, List.append_assoc, List.singleton_append,
        List.length_append, List.length_cons, Except.ok.injEq, Prod.mk.injEq, Cursor.mk.injEq,
        true_and]
      omega

/-! ## Objects -/

/-- A new member comes last. -/
theorem set_eq_append {key : Codes} {ms : List (Codes × Json)} (h : key ∉ ms.map Prod.fst)
    (v : Json) : set key v ms = ms ++ [(key, v)] := by
  induction ms with
  | nil => rfl
  | cons m ms ih =>
    obtain ⟨k, w⟩ := m
    rw [List.map_cons, List.mem_cons, not_or] at h
    rw [set, if_neg (Ne.symm h.1), ih h.2, List.cons_append]

/-- The documents of members, with commas between them. -/
def membersDocument (ms : List (Codes × Json)) : Codes :=
  Codes.ofString (", ".intercalate (writeAsciiMembers ms))

/-- The document of one member. -/
def memberDocument (k : Codes) (v : Json) : Codes :=
  document (.text k) ++ .ofChar ':' :: .ofChar ' ' :: document v

theorem ofString_member (k : Codes) (v : Json) :
    Codes.ofString (writeAsciiText k ++ ": " ++ v.writeAscii) = memberDocument k v := by
  rw [Codes.ofString_append, Codes.ofString_append, List.append_assoc, memberDocument, document,
    writeAscii]
  rfl

theorem membersDocument_singleton (k : Codes) (v : Json) :
    membersDocument [(k, v)] = memberDocument k v := by
  rw [membersDocument, writeAsciiMembers, writeAsciiMembers, String.intercalate_singleton,
    ofString_member]

theorem membersDocument_cons_cons (k : Codes) (v : Json) (m : Codes × Json)
    (ms : List (Codes × Json)) :
    membersDocument ((k, v) :: m :: ms) =
      memberDocument k v ++ .ofChar ',' :: .ofChar ' ' :: membersDocument (m :: ms) := by
  rw [membersDocument, membersDocument, writeAsciiMembers, writeAsciiMembers,
    String.intercalate_cons_cons, Codes.ofString_append, Codes.ofString_append, List.append_assoc,
    ofString_member]
  rfl

/-- Members start with the quotation mark of the first key. -/
theorem exists_membersDocument_eq (m : Codes × Json) (ms : List (Codes × Json)) :
    ∃ rest, membersDocument (m :: ms) = quoteMark :: rest := by
  obtain ⟨k, v⟩ := m
  cases ms with
  | nil =>
    rw [membersDocument_singleton, memberDocument, document_text]
    exact ⟨_, rfl⟩
  | cons m ms =>
    rw [membersDocument_cons_cons, memberDocument, document_text]
    exact ⟨_, rfl⟩

/-- A member up to its end: the key is read and then its value. -/
theorem members_step {fuel levels : Nat} {taken : List (Codes × Json)} {k : Codes} {v w : Json}
    (hfuel : (document (.text k)).length ≤ fuel + 1)
    (hspace : ∀ tail, (document v ++ tail).takeWhile isSpace = []) {rest tail : Codes}
    {place place' : Nat} (htail : tail.takeWhile isSpace = [])
    (hv : value fuel levels ⟨document v ++ rest, place + (document (.text k)).length + 2⟩ =
      .ok (w, ⟨tail, place'⟩)) :
    members (fuel + 1) levels taken ⟨memberDocument k v ++ rest, place⟩ =
      if Cursor.at? ⟨tail, place'⟩ '\x7d' then
        .ok (.object (set (Utf16.joinPairs k) w taken), Cursor.next ⟨tail, place'⟩)
      else if Cursor.at? ⟨tail, place'⟩ ',' then
        members fuel levels (set (Utf16.joinPairs k) w taken)
          (Cursor.next ⟨tail, place'⟩).pastSpace
      else fail "Expecting ',' delimiter" place' := by
  have hkey := stringFrom_written k place (fuel + 1) (by rwa [document, writeAscii] at hfuel)
    (.ofChar ':' :: .ofChar ' ' :: (document v ++ rest)) (place + 1)
  have hcolon := pastSpace_eq_self
    (show (.ofChar ':' :: .ofChar ' ' :: (document v ++ rest)).takeWhile isSpace = [] from rfl)
  have hblank := pastSpace_blank (hspace rest)
  have hquote : ∀ xs p, Cursor.at? ⟨quoteMark :: xs, p⟩ '"' = true := fun _ _ => rfl
  rw [document_text, List.length_cons, List.length_append, List.length_singleton] at hv
  rw [members, memberDocument, document_text]
  simp only [List.cons_append, List.append_assoc, List.nil_append, hquote, if_true, Cursor.next,
    List.drop_succ_cons, List.drop_zero, hkey, hcolon, at?_ofChar, beq_self_eq_true, hblank]
  rw [show place + 1 + ((Utf16.split k).flatMap spelled).length + 1 + 1 + 1 =
    place + (((Utf16.split k).flatMap spelled).length + 1 + 1) + 2 by omega, hv]
  simp only [pastSpace_eq_self htail]

theorem length_memberDocument (k : Codes) (v : Json) :
    (memberDocument k v).length = (document (.text k)).length + (document v).length + 2 := by
  rw [memberDocument, List.length_append, List.length_cons, List.length_cons]
  omega

/-- **The members of an object**, whose keys are all new. -/
theorem members_written {levels : Nat} (ms : List (Codes × Json))
    (hfit : ∀ m ∈ ms, Fits levels m.2) (hread : ∀ m ∈ ms, ReadsBack levels m.2) (hne : ms ≠ [])
    (fuel : Nat) (hfuel : 2 * (membersDocument ms).length < fuel) (taken : List (Codes × Json))
    (hkeys : (taken.map Prod.fst ++ ms.map fun m => Utf16.joinPairs m.1).Nodup) (tail : Codes)
    (place : Nat) :
    members fuel levels taken ⟨membersDocument ms ++ .ofChar '\x7d' :: tail, place⟩ =
      .ok (.object (taken ++ joinedMembers ms),
        ⟨tail, place + (membersDocument ms).length + 1⟩) := by
  induction ms generalizing fuel taken place with
  | nil => exact absurd rfl hne
  | cons m ms ih =>
    obtain ⟨k, v⟩ := m
    obtain ⟨fuel, rfl⟩ := Nat.exists_eq_add_one_of_ne_zero (n := fuel) (by omega)
    have hv : ReadsBack levels v := hread (k, v) List.mem_cons_self
    have hspace := takeWhile_document (hfit (k, v) List.mem_cons_self)
    have hnew : Utf16.joinPairs k ∉ taken.map Prod.fst := fun hk =>
      (List.nodup_append.mp hkeys).2.2 _ hk _ (by simp) rfl
    have hlen := length_memberDocument k v
    cases ms with
    | nil =>
      rw [membersDocument_singleton] at hfuel ⊢
      have hend : Ends (.ofChar '\x7d' :: tail) := .cons '\x7d' (by simp) tail
      rw [members_step (by omega) hspace hend.takeWhile_isSpace (hv fuel (by omega) _ hend _),
        at?_ofChar, beq_self_eq_true, if_pos rfl, set_eq_append hnew]
      simp only [joinedMembers, Cursor.next, List.drop_succ_cons, List.drop_zero, Except.ok.injEq,
        Prod.mk.injEq, Cursor.mk.injEq, true_and]
      omega
    | cons m ms =>
      rw [membersDocument_cons_cons] at hfuel ⊢
      simp only [List.length_append, List.length_cons] at hfuel
      obtain ⟨rest, hrest⟩ := exists_membersDocument_eq m ms
      have hnext :
          (membersDocument (m :: ms) ++ .ofChar '\x7d' :: tail).takeWhile isSpace = [] := by
        rw [hrest]
        rfl
      have hend : Ends (.ofChar ',' :: .ofChar ' ' ::
          (membersDocument (m :: ms) ++ .ofChar '\x7d' :: tail)) := .cons ',' (by simp) _
      have hkeys' : ((taken ++ [(Utf16.joinPairs k, v.joined)]).map Prod.fst ++
          (m :: ms).map fun m => Utf16.joinPairs m.1).Nodup := by
        simpa using hkeys
      rw [List.append_assoc, List.cons_append, List.cons_append,
        members_step (by omega) hspace hend.takeWhile_isSpace (hv fuel (by omega) _ hend _),
        at?_ofChar, at?_ofChar, set_eq_append hnew, if_neg (by decide), if_pos (by decide),
        Cursor.next, List.drop_succ_cons, List.drop_zero, pastSpace_blank hnext,
        ih (fun x hx => hfit x (List.mem_cons_of_mem _ hx))
          (fun x hx => hread x (List.mem_cons_of_mem _ hx)) (by simp) fuel (by omega) _ hkeys']
      simp only [joinedMembers, List.append_assoc, List.singleton_append, List.length_append,
        List.length_cons, Except.ok.injEq, Prod.mk.injEq, Cursor.mk.injEq, true_and]
      omega

/-! ## Documents -/

theorem value_eq_wordOrNumber {c : Cursor} (hquote : c.at? '"' = false)
    (hbrace : c.at? '\x7b' = false) (hbracket : c.at? '[' = false) (fuel levels : Nat) :
    value (fuel + 1) levels c = wordOrNumber c := by
  rw [value.eq_def]
  simp only [hquote, hbrace, hbracket, Bool.false_eq_true, if_false]

theorem value_quote (fuel levels : Nat) (rest : Codes) (place : Nat) :
    value (fuel + 1) levels ⟨quoteMark :: rest, place⟩ =
      (stringFrom place (fuel + 1) [] ⟨rest, place + 1⟩).map fun r => (.text r.1, r.2) := by
  have hquote : Cursor.at? ⟨quoteMark :: rest, place⟩ '"' = true := rfl
  have hnext : Cursor.next ⟨quoteMark :: rest, place⟩ = ⟨rest, place + 1⟩ := rfl
  rw [value.eq_def]
  simp only [hquote, hnext, if_true]
  cases stringFrom place (fuel + 1) [] ⟨rest, place + 1⟩ <;> rfl

theorem value_bracket (fuel levels : Nat) {rest : Codes} (hrest : rest.takeWhile isSpace = [])
    (place : Nat) :
    value (fuel + 1) (levels + 1) ⟨.ofChar '[' :: rest, place⟩ =
      if Cursor.at? ⟨rest, place + 1⟩ ']' then .ok (.array [], Cursor.next ⟨rest, place + 1⟩)
      else items fuel levels [] ⟨rest, place + 1⟩ := by
  rw [value.eq_def]
  simp only [at?_ofChar, Char.reduceBEq, Bool.false_eq_true, if_false, if_true, Cursor.next,
    List.drop_succ_cons, List.drop_zero, pastSpace_eq_self hrest]

theorem value_brace (fuel levels : Nat) {rest : Codes} (hrest : rest.takeWhile isSpace = [])
    (place : Nat) :
    value (fuel + 1) (levels + 1) ⟨.ofChar '\x7b' :: rest, place⟩ =
      if Cursor.at? ⟨rest, place + 1⟩ '\x7d' then
        .ok (.object [], Cursor.next ⟨rest, place + 1⟩)
      else members fuel levels [] ⟨rest, place + 1⟩ := by
  rw [value.eq_def]
  simp only [at?_ofChar, Char.reduceBEq, Bool.false_eq_true, if_false, if_true, Cursor.next,
    List.drop_succ_cons, List.drop_zero, pastSpace_eq_self hrest]

theorem exists_fuel {levels : Nat} {v : Json} (h : Fits levels v) {fuel : Nat}
    (hfuel : 2 * (document v).length ≤ fuel) : ∃ n, fuel = n + 1 := by
  obtain ⟨c, rest, hcodes, -⟩ := exists_head_document h
  rw [hcodes, List.length_cons] at hfuel
  exact Nat.exists_eq_add_one_of_ne_zero (by omega)

theorem readsBack_bool (levels : Nat) (b : Bool) : ReadsBack levels (.bool b) := by
  intro fuel hfuel tail htail place
  obtain ⟨fuel, rfl⟩ := exists_fuel (.bool levels b) hfuel
  cases b with
  | true =>
    rw [value_eq_wordOrNumber rfl rfl rfl]
    exact wordOrNumber_true tail place
  | false =>
    rw [value_eq_wordOrNumber rfl rfl rfl]
    exact wordOrNumber_false tail place

theorem readsBack_int (levels : Nat) {n : Int} (hn : (digitCodes n.natAbs).length ≤ maxDigits) :
    ReadsBack levels (.int n) := by
  intro fuel hfuel tail htail place
  obtain ⟨fuel, rfl⟩ := exists_fuel (.int levels n hn) hfuel
  obtain ⟨c, rest, hcodes, hc⟩ := exists_head_intText n
  have hat (y : Char) (hy : y ≠ '-' ∧ y.isDigit = false) :
      Cursor.at? ⟨document (.int n) ++ tail, place⟩ y = false := by
    rw [document_int, hcodes, List.cons_append, at?_ofChar, beq_eq_false_iff_ne]
    rintro rfl
    simp [hy] at hc
  rw [value_eq_wordOrNumber (hat _ (by decide)) (hat _ (by decide)) (hat _ (by decide))]
  exact wordOrNumber_written htail n hn place

theorem readsBack_text (levels : Nat) (s : Codes) : ReadsBack levels (.text s) := by
  intro fuel hfuel tail htail place
  obtain ⟨fuel, rfl⟩ := exists_fuel (.text levels s) hfuel
  have hlen : (Codes.ofString (writeAsciiText s)).length ≤ fuel + 1 := by
    rw [document, writeAscii] at hfuel
    omega
  rw [document_text, List.cons_append, List.append_assoc, value_quote, List.singleton_append,
    stringFrom_written s place (fuel + 1) hlen]
  simp only [Except.map, joined, List.length_cons, List.length_append, List.length_nil,
    Except.ok.injEq, Prod.mk.injEq, Cursor.mk.injEq, true_and]
  omega

theorem readsBack_array {levels : Nat} {vs : List Json} (hfit : ∀ v ∈ vs, Fits levels v)
    (hread : ∀ v ∈ vs, ReadsBack levels v) : ReadsBack (levels + 1) (.array vs) := by
  intro fuel hfuel tail htail place
  obtain ⟨fuel, rfl⟩ := exists_fuel (.array levels vs hfit) hfuel
  cases vs with
  | nil => exact value_bracket fuel levels rfl place
  | cons v vs =>
    obtain ⟨rest, hrest⟩ := exists_itemsDocument_eq v vs
    have hv : Fits levels v := hfit v List.mem_cons_self
    have hcodes : document (.array (v :: vs)) ++ tail =
        .ofChar '[' :: (itemsDocument (v :: vs) ++ .ofChar ']' :: tail) := by
      rw [document_array, List.cons_append, List.append_assoc]
      rfl
    have hlen : (document (.array (v :: vs))).length = (itemsDocument (v :: vs)).length + 2 := by
      rw [document_array, List.length_cons, List.length_append, List.length_singleton]
      rfl
    have hspace : (itemsDocument (v :: vs) ++ .ofChar ']' :: tail).takeWhile isSpace = [] := by
      rw [hrest, List.append_assoc]
      exact takeWhile_document hv _
    have hat : Cursor.at? ⟨itemsDocument (v :: vs) ++ .ofChar ']' :: tail, place + 1⟩ ']' =
        false := by
      rw [hrest, List.append_assoc]
      exact at?_document hv _ _
    rw [hcodes, value_bracket fuel levels hspace, hat, if_neg (by decide),
      items_written _ hfit hread (by simp) fuel (by omega)]
    simp only [joined, List.reverse_nil, List.nil_append, hlen, Except.ok.injEq, Prod.mk.injEq,
      Cursor.mk.injEq, true_and]
    omega

theorem readsBack_object {levels : Nat} {ms : List (Codes × Json)}
    (hkeys : (ms.map fun m => Utf16.joinPairs m.1).Nodup) (hfit : ∀ m ∈ ms, Fits levels m.2)
    (hread : ∀ m ∈ ms, ReadsBack levels m.2) : ReadsBack (levels + 1) (.object ms) := by
  intro fuel hfuel tail htail place
  obtain ⟨fuel, rfl⟩ := exists_fuel (.object levels ms hkeys hfit) hfuel
  cases ms with
  | nil => exact value_brace fuel levels rfl place
  | cons m ms =>
    obtain ⟨rest, hrest⟩ := exists_membersDocument_eq m ms
    have hcodes : document (.object (m :: ms)) ++ tail =
        .ofChar '\x7b' :: (membersDocument (m :: ms) ++ .ofChar '\x7d' :: tail) := by
      rw [document_object, List.cons_append, List.append_assoc]
      rfl
    have hlen : (document (.object (m :: ms))).length =
        (membersDocument (m :: ms)).length + 2 := by
      rw [document_object, List.length_cons, List.length_append, List.length_singleton]
      rfl
    have hspace : (membersDocument (m :: ms) ++ .ofChar '\x7d' :: tail).takeWhile isSpace = [] := by
      rw [hrest]
      rfl
    have hat : Cursor.at? ⟨membersDocument (m :: ms) ++ .ofChar '\x7d' :: tail, place + 1⟩ '\x7d' =
        false := by
      rw [hrest]
      rfl
    rw [hcodes, value_brace fuel levels hspace, hat, if_neg (by decide),
      members_written _ hfit hread (by simp) fuel (by omega) [] hkeys]
    simp only [joined, List.nil_append, hlen, Except.ok.injEq, Prod.mk.injEq, Cursor.mk.injEq,
      true_and]
    omega

/-- **A written value is read back**, wherever it stands. -/
theorem readsBack_of_fits {levels : Nat} {v : Json} (h : Fits levels v) : ReadsBack levels v := by
  -- on how the value fits and not on the value: a list or an object leaves one level less inside
  induction h with
  | null levels =>
    intro fuel hfuel tail htail place
    obtain ⟨fuel, rfl⟩ := exists_fuel (.null levels) hfuel
    rw [value_eq_wordOrNumber rfl rfl rfl]
    exact wordOrNumber_null tail place
  | bool levels b => exact readsBack_bool levels b
  | int levels n hn => exact readsBack_int levels hn
  | text levels s => exact readsBack_text levels s
  | array levels vs hfit ih => exact readsBack_array hfit ih
  | object levels ms hkeys hfit ih => exact readsBack_object hkeys hfit ih

/-- **A written document is read back** by a reader with room for its levels. -/
theorem readWithin_written {levels : Nat} {v : Json} (h : Fits levels v) :
    readWithin levels (Codes.ofString v.writeAscii) = .ok v.joined := by
  have hspace := takeWhile_document h []
  have hvalue := readsBack_of_fits h (2 * (document v).length + 2) (by omega) [] .nil 0
  rw [List.append_nil] at hspace hvalue
  rw [readWithin, show Codes.ofString v.writeAscii = document v from rfl]
  simp only [pastSpace_eq_self hspace, hvalue, pastSpace_eq_self List.takeWhile_nil,
    List.isEmpty_nil, if_true]

theorem read_written {v : Json} (h : Fits maxNesting v) :
    read (Codes.ofString v.writeAscii) = .ok v.joined := readWithin_written h

end Enclosure.Json
