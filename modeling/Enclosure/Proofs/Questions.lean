import Enclosure.Proofs.Fields
import Enclosure.Proofs.Json.Record
import Enclosure.Service.Http
import Enclosure.Service.Toolbox

/-!
# Questions as records

A caller that has a question writes it as a record and leaves out what it does not ask for.  The
record survives a detour over the document of a request, and every form reads the question back from
it.

What is here:

* `Query.toJson` and `Probe.toJson`: the records of a search and of a check.
* `Query.ofJson_toJson` and `Probe.ofJson_toJson`: reading them.
* `Http.Request.post`: a request with a record as its document.
* `Http.question_post` and `Toolbox.question_record`: the question of a request and of a call.
-/

set_option autoImplicit false

namespace Enclosure

/-! ## Members -/

/-- A member of a record, if there is a value for it. -/
def Json.memberOf (name : String) (v : Option Json) : List (String × Json) :=
  (v.map fun v => (name, v)).toList

theorem Json.get?_record_memberOf (name : String) (v : Option Json) (ms : List (String × Json))
    (key : String) :
    (Json.record (memberOf name v ++ ms)).get? key =
      if name = key then v.or ((Json.record ms).get? key) else (Json.record ms).get? key := by
  cases v with
  | none => simp [memberOf]
  | some v => simp [memberOf, get?_record_cons]

theorem Json.mem_memberOf {name : String} {v : Option Json} {m : String × Json}
    (h : m ∈ memberOf name v) : m.1 = name ∧ v = some m.2 := by
  rw [memberOf, Option.mem_toList, Option.map_eq_some_iff] at h
  obtain ⟨w, hw, rfl⟩ := h
  exact ⟨rfl, hw⟩

theorem Json.keys_memberOf (name : String) (v : Option Json) :
    ((memberOf name v).map Prod.fst).Sublist [name] := by
  cases v with
  | none => exact List.nil_sublist _
  | some v => exact List.Sublist.refl _

namespace Field

theorem required_eq {α : Type} {v w : Json} {name : String} {read : Json → Checked α} {x : α}
    (hget : v.get? name = some w) (hread : read w = .ok x) (absent : Flaw) :
    required v name read absent = .ok x := by
  rw [required, hget]
  simp only [hread]
  rfl

/-- A member that is there exactly if there is a value for it. -/
theorem given_eq {α : Type} {v : Json} {name : String} {read : Json → Checked α} {write : α → Json}
    {x : Option α} (hget : v.get? name = x.map write)
    (hread : ∀ a, optional read (write a) = .ok (some a)) :
    given v name (optional read) none = .ok x := by
  rw [given, hget]
  cases x with
  | none => rfl
  | some a =>
    simp only [Option.map_some, hread]
    rfl

theorem optional_text (s : String) : optional text (.ofString s) = .ok (some s) := by
  have hread : optional text (.ofString s) = (text (.ofString s)).map some := rfl
  rw [hread, text_ofString]
  rfl

theorem optional_mode (m : Mode) : optional mode (.ofString m.text) = .ok (some m) := by
  have hread : optional mode (.ofString m.text) = (mode (.ofString m.text)).map some := rfl
  rw [hread, mode_ofText]
  rfl

theorem optional_list (ss : List String) :
    optional (list text) (.array (ss.map Json.ofString)) = .ok (some ss) := by
  have hread : optional (list text) (.array (ss.map Json.ofString)) =
      (list text (.array (ss.map Json.ofString))).map some := rfl
  rw [hread, list_text]
  rfl

end Field

/-! ## The records of questions -/

/-- The members of the record of a search. -/
def Query.members (q : Query) : List (String × Json) :=
  ("source", .ofString q.source) :: ("line_start", .int q.first) :: ("line_end", .int q.last) ::
    (Json.memberOf "mode" (q.mode.map fun m => .ofString m.text) ++
      (Json.memberOf "kinds" (q.kinds.map fun ks => .array (ks.map .ofString)) ++
        (Json.memberOf "backend" (q.backend.map .ofString) ++ [])))

/-- A search as a record. -/
def Query.toJson (q : Query) : Json := .record q.members

/-- The members of the record of a check. -/
def Probe.members (p : Probe) : List (String × Json) :=
  ("source", .ofString p.source) :: (Json.memberOf "backend" (p.backend.map .ofString) ++ [])

/-- A check as a record. -/
def Probe.toJson (p : Probe) : Json := .record p.members

/-- **A search is read back** from its record, if the form takes its lines. -/
theorem Query.ofJson_toJson (form : Form) {q : Query}
    (hfirst : form.line (.int q.first) = .ok q.first)
    (hlast : form.line (.int q.last) = .ok q.last) : Query.ofJson form q.toJson = .ok q := by
  have hget (key : String) : q.toJson.get? key = (Json.record q.members).get? key := rfl
  simp only [Query.members, Json.get?_record_cons, Json.get?_record_memberOf] at hget
  have hsource := Field.required_eq (hget "source") (Field.text_ofString q.source) form.absent
  have hstart := Field.required_eq (hget "line_start") hfirst form.absent
  have hstop := Field.required_eq (hget "line_end") hlast form.absent
  have hmode := Field.given_eq ((hget "mode").trans Option.or_none) Field.optional_mode
  have hkinds := Field.given_eq ((hget "kinds").trans Option.or_none) Field.optional_list
  have hbackend := Field.given_eq ((hget "backend").trans Option.or_none) Field.optional_text
  rw [ofJson, hsource, hstart, hstop, hmode, hkinds, hbackend]
  cases form.kindsFirst <;> rfl

/-- **A check is read back** from its record. -/
theorem Probe.ofJson_toJson (form : Form) (p : Probe) : Probe.ofJson form p.toJson = .ok p := by
  have hget (key : String) : p.toJson.get? key = (Json.record p.members).get? key := rfl
  simp only [Probe.members, Json.get?_record_cons, Json.get?_record_memberOf] at hget
  have hsource := Field.required_eq (hget "source") (Field.text_ofString p.source) form.absent
  have hbackend := Field.given_eq ((hget "backend").trans Option.or_none) Field.optional_text
  rw [ofJson, hsource, hbackend]
  rfl

/-! ## Requests -/

theorem Query.keys_members (q : Query) :
    (q.members.map Prod.fst).Sublist
      ["source", "line_start", "line_end", "mode", "kinds", "backend"] := by
  simp only [members, List.map_cons, List.map_append, List.map_nil]
  refine .cons_cons _ (.cons_cons _ (.cons_cons _ ?_))
  exact (Json.keys_memberOf _ _).append ((Json.keys_memberOf _ _).append
    ((Json.keys_memberOf _ _).append (.refl [])))

theorem Probe.keys_members (p : Probe) :
    (p.members.map Prod.fst).Sublist ["source", "backend"] := by
  simp only [members, List.map_cons, List.map_append, List.map_nil]
  exact .cons_cons _ ((Json.keys_memberOf _ _).append (.refl []))

/-- The record of a search survives a detour over a document if its lines are not too long. -/
theorem Query.survives_toJson {q : Query}
    (hfirst : (Json.digitCodes q.first.natAbs).length ≤ Json.maxDigits)
    (hlast : (Json.digitCodes q.last.natAbs).length ≤ Json.maxDigits) (levels : Nat) :
    Json.Survives (levels + 2) q.toJson := by
  refine Json.survives_record (q.keys_members.nodup (by decide)) fun m hm => ?_
  simp only [members, List.mem_cons, List.mem_append, List.not_mem_nil, or_false] at hm
  rcases hm with rfl | rfl | rfl | hm | hm | hm
  · exact Json.survives_ofString _ q.source
  · exact Json.survives_int _ hfirst
  · exact Json.survives_int _ hlast
  · obtain ⟨mode, -, hm⟩ := Option.map_eq_some_iff.mp (Json.mem_memberOf hm).2
    exact hm ▸ Json.survives_ofString _ mode.text
  · obtain ⟨ks, -, hm⟩ := Option.map_eq_some_iff.mp (Json.mem_memberOf hm).2
    rw [← hm]
    refine Json.survives_array fun v hv => ?_
    obtain ⟨k, -, rfl⟩ := List.mem_map.mp hv
    exact Json.survives_ofString _ k
  · obtain ⟨b, -, hm⟩ := Option.map_eq_some_iff.mp (Json.mem_memberOf hm).2
    exact hm ▸ Json.survives_ofString _ b

theorem Probe.survives_toJson (p : Probe) (levels : Nat) :
    Json.Survives (levels + 1) p.toJson := by
  refine Json.survives_record (p.keys_members.nodup (by decide)) fun m hm => ?_
  simp only [members, List.mem_cons, List.mem_append, List.not_mem_nil, or_false] at hm
  rcases hm with rfl | hm
  · exact Json.survives_ofString _ p.source
  · obtain ⟨b, -, hm⟩ := Option.map_eq_some_iff.mp (Json.mem_memberOf hm).2
    exact hm ▸ Json.survives_ofString _ b

namespace Http

/-- A request that sends a record as its document. -/
def Request.post (route : Route) (v : Json) : Request where
  method := "POST"
  path := route.path
  contentType := "application/json"
  body := Utf8.encode (Codes.ofString v.writeAscii)

/-- **The document of a request** is the record that was sent. -/
theorem document_post (route : Route) {m : String × Json} {ms : List (String × Json)}
    (h : Json.Survives Json.maxNesting (.record (m :: ms))) :
    (Request.post route (.record (m :: ms))).document = .ok (.record (m :: ms)) := by
  have hread := Json.read_written h.fits
  have hbody : List.isEmpty (Utf8.encode (Codes.ofString (Json.record (m :: ms)).writeAscii)) =
      false := by
    rw [List.isEmpty_eq_false_iff]
    intro hnil
    -- there is no document without characters
    have hcodes := Utf8.decode_encode (Codes.ofString (Json.record (m :: ms)).writeAscii)
    have hempty : Utf8.decode true [] = .ok [] := Utf8.decode_encode []
    rw [hnil, hempty, Except.ok.injEq] at hcodes
    rw [← hcodes] at hread
    cases hread
  have hjson : isJson "application/json" = true := by decide
  simp only [Request.document, Request.post, hbody, Bool.false_eq_true, if_false, hjson, if_true,
    Json.decodeAny_record, hread, h.joined_eq]

/-- The question of a request is that of its record. -/
theorem question_post {α : Type} (route : Route) {m : String × Json} {ms : List (String × Json)}
    (h : Json.Survives Json.maxNesting (.record (m :: ms))) {read : Json → Checked α} {x : α}
    (hread : read (.record (m :: ms)) = .ok x) :
    (Request.post route (.record (m :: ms))).question read = .ok x := by
  have hobject : Json.record (m :: ms) =
      .object ((m :: ms).map fun m => (Codes.ofString m.1, m.2)) := rfl
  rw [Request.question, document_post route h, hobject]
  simp only [← hobject, hread]
  rfl

end Http

namespace Toolbox

/-- A record holds no more than a tool takes if its keys are arguments of the tool. -/
theorem surplus_record {tool : Tool} {ms : List (String × Json)}
    (h : ms.map Prod.fst ⊆ tool.arguments) : surplus tool (.record ms) = .ok () := by
  have hnone : (ms.map fun m => (Codes.ofString m.1, m.2)).filter (fun m =>
      !(tool.arguments.map Codes.ofString).contains m.1) = [] := by
    rw [List.filter_eq_nil_iff]
    intro m hm
    obtain ⟨member, hmember, rfl⟩ := List.mem_map.mp hm
    have hkey : Codes.ofString member.1 ∈ tool.arguments.map Codes.ofString :=
      List.mem_map_of_mem (h (List.mem_map_of_mem hmember))
    simpa using hkey
  rw [Json.record, surplus, hnone]

/-- **The question of a call** is that of its arguments. -/
theorem question_record {α : Type} {tool : Tool} {ms : List (String × Json)}
    (h : ms.map Prod.fst ⊆ tool.arguments) {read : Json → Checked α} {x : α}
    (hread : read (.record ms) = .ok x) : question tool read (.record ms) = .ok x := by
  rw [question, hread, surplus_record h]
  rfl

end Toolbox
end Enclosure
