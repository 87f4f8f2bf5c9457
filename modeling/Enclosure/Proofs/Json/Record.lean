import Enclosure.Field.Record
import Enclosure.Proofs.Codes
import Enclosure.Proofs.Json.Document
import Enclosure.Proofs.Utf8
import Mathlib.Data.List.Nodup

/-!
# Records as documents

A record is an object whose keys are texts without surrogates, so a detour over a document changes
nothing but its values.  If it has any members, its document starts with two ASCII characters, which
tell its encoding.

What is here:

* `Json.get?_record_cons`: the member with a key.
* `Json.joined_record` and `Json.fits_record`: a record that is read back.
* `Json.decodeAny_record`: the bytes of the document of a record.
* `Json.Survives`: a value that is the same after a detour over its document.
-/

set_option autoImplicit false

namespace Enclosure.Json

theorem get?_record_cons (k : String) (v : Json) (ms : List (String × Json)) (key : String) :
    (Json.record ((k, v) :: ms)).get? key =
      if k = key then some v else (Json.record ms).get? key := by
  simp only [record, get?, List.map_cons, find?, Codes.ofString_inj]

theorem joinPairs_ofString (s : String) : Utf16.joinPairs (Codes.ofString s) = Codes.ofString s :=
  Codes.pairFree_of_noSurrogates (Codes.noSurrogates_ofString s)

theorem joined_ofString (s : String) : (Json.ofString s).joined = .ofString s := by
  rw [Json.ofString, joined, joinPairs_ofString]

theorem joined_record (ms : List (String × Json)) :
    (record ms).joined = record (ms.map fun m => (m.1, m.2.joined)) := by
  rw [record, joined, record, List.map_map]
  congr 1
  induction ms with
  | nil => rfl
  | cons m ms ih =>
    rw [List.map_cons, joinedMembers, joinPairs_ofString, ih]
    rfl

/-- A record fits if its keys are different and its values fit. -/
theorem fits_record {levels : Nat} {ms : List (String × Json)} (hkeys : (ms.map Prod.fst).Nodup)
    (h : ∀ m ∈ ms, Fits levels m.2) : Fits (levels + 1) (record ms) := by
  refine .object levels _ ?_ fun m hm => ?_
  · have hnames : (ms.map fun m => (Codes.ofString m.1, m.2)).map
        (fun m => Utf16.joinPairs m.1) = (ms.map Prod.fst).map Codes.ofString := by
      simp only [List.map_map, Function.comp_def, joinPairs_ofString]
    rw [hnames]
    exact List.Nodup.map (fun s t => Codes.ofString_inj.mp) hkeys
  · obtain ⟨member, hmember, rfl⟩ := List.mem_map.mp hm
    exact h member hmember

/-- **The document of a record is taken for UTF-8.** -/
theorem decodeAny_record (m : String × Json) (ms : List (String × Json)) :
    decodeAny (Utf8.encode (Codes.ofString (record (m :: ms)).writeAscii)) =
      .ok (Codes.ofString (record (m :: ms)).writeAscii) := by
  obtain ⟨rest, hrest⟩ := exists_membersDocument_eq (Codes.ofString m.1, m.2)
    (ms.map fun m => (Codes.ofString m.1, m.2))
  have hcodes : Codes.ofString (record (m :: ms)).writeAscii =
      .ofChar '\x7b' :: .ofChar '"' :: (rest ++ [.ofChar '\x7d']) := by
    refine (document_object _).trans (congrArg (CodePoint.ofChar '\x7b' :: ·) ?_)
    exact congrArg (· ++ [CodePoint.ofChar '\x7d']) hrest
  rw [hcodes]
  exact decodeAny_encode _ (by decide) (by decide) (by decide) (by decide)

/-! ## Values that survive -/

/-- A value that is the same after a detour over its document. -/
structure Survives (levels : Nat) (v : Json) : Prop where
  /-- The reader has room for it. -/
  fits : Fits levels v
  /-- It has no pairs of surrogates. -/
  joined_eq : v.joined = v

theorem survives_ofString (levels : Nat) (s : String) : Survives levels (.ofString s) :=
  ⟨.text levels _, joined_ofString s⟩

theorem survives_int (levels : Nat) {n : Int} (h : (digitCodes n.natAbs).length ≤ maxDigits) :
    Survives levels (.int n) := ⟨.int levels n h, by simp [joined]⟩

theorem survives_array {levels : Nat} {vs : List Json} (h : ∀ v ∈ vs, Survives levels v) :
    Survives (levels + 1) (.array vs) := by
  refine ⟨.array levels vs fun v hv => (h v hv).fits, ?_⟩
  rw [joined, joinedItems_eq_map, List.map_congr_left fun v hv => (h v hv).joined_eq, List.map_id']

theorem survives_record {levels : Nat} {ms : List (String × Json)} (hkeys : (ms.map Prod.fst).Nodup)
    (h : ∀ m ∈ ms, Survives levels m.2) : Survives (levels + 1) (record ms) := by
  refine ⟨fits_record hkeys fun m hm => (h m hm).fits, ?_⟩
  have hvalues : ∀ m ∈ ms, (m.1, m.2.joined) = m := fun m hm => by rw [(h m hm).joined_eq]
  rw [joined_record, List.map_congr_left hvalues, List.map_id']

end Enclosure.Json
