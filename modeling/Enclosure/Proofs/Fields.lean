import Enclosure.Field.Record
import Enclosure.Proofs.Integers

/-!
# Fields that are read back

What a field is written as, it is read back from: a text, a mode, a list of texts, and the number of
a line also when it comes as a text.  A field for a text takes nothing else.

What is here:

* `Checked.both_eq_ok_iff`, `Checked.map_eq_ok_iff` and `Checked.under_eq_ok_iff`: values without a
  flaw.
* `Field.text_eq_ok_iff` and `Field.optional_text_eq_ok_iff`: what is taken for a text.
* `Field.text_ofString`, `Field.mode_ofText` and `Field.list_text`: texts, modes and lists of texts.
* `Field.line_toString`: the number of a line as a text.
-/

set_option autoImplicit false

namespace Enclosure

/-! ## Values without a flaw -/

namespace Checked

variable {α β : Type}

theorem both_eq_ok_iff {a : Checked α} {b : Checked β} {x : α} {y : β} :
    a.both b = .ok (x, y) ↔ a = .ok x ∧ b = .ok y := by
  cases a <;> cases b <;> simp [both]

theorem map_eq_ok_iff {a : Checked α} {f : α → β} {y : β} :
    a.map f = .ok y ↔ ∃ x, a = .ok x ∧ f x = y := by
  cases a <;> simp [Except.map]

theorem under_eq_ok_iff {place : Place} {a : Checked α} {x : α} :
    a.under place = .ok x ↔ a = .ok x := by
  cases a <;> simp [under, Except.mapError]

end Checked

namespace Field

/-! ## Texts -/

theorem text_ofString (s : String) : text (.ofString s) = .ok s := by
  rw [Json.ofString, text, Codes.toString?_ofString]

theorem text_eq_ok_iff {v : Json} {s : String} : text v = .ok s ↔ v = .ofString s := by
  refine ⟨fun h => ?_, fun h => by rw [h, text_ofString]⟩
  cases v with
  | text xs =>
    rw [text] at h
    split at h
    · next t ht =>
      obtain rfl := Except.ok.inj h
      rw [Json.ofString, Codes.toString?_eq_some_iff.mp ht]
    · cases h
  | _ => cases h

theorem optional_text_eq_ok_iff {v : Json} {name : Option String} :
    optional text v = .ok name ↔ v = .ofName name := by
  cases v with
  | null => cases name <;> simp [optional, Json.ofName, Json.ofString]
  | _ =>
    rw [optional, Checked.map_eq_ok_iff]
    · cases name <;> simp [text_eq_ok_iff, Json.ofName]
    · exact Json.noConfusion

theorem mode_ofText (m : Mode) : mode (.ofString m.text) = .ok m := by
  rw [Json.ofString, mode, Codes.toString?_ofString]
  cases m <;> rfl

theorem items_text (ss : List String) (index : Nat) :
    items text index (ss.map Json.ofString) = .ok ss := by
  induction ss generalizing index with
  | nil => rfl
  | cons s ss ih =>
    rw [List.map_cons, items, text_ofString, ih]
    rfl

theorem list_text (ss : List String) : list text (.array (ss.map Json.ofString)) = .ok ss :=
  items_text ss 0

/-! ## Numbers as texts -/

/-- **The number of a line may come as a text.** -/
theorem line_toString {n : Int} (hpos : 1 ≤ n)
    (hshort : (Json.digitCodes n.natAbs).length ≤ maxIntegerText) :
    line (.ofString (toString n)) = .ok n := by
  have hcodes : Codes.ofString (toString n) = Json.digitCodes n.natAbs := by
    rw [show toString n = Json.intText n from rfl, Json.ofString_intText, if_neg (by omega),
      List.nil_append]
  have hnumeral := isNumeral_digitCodes n.natAbs
  rw [show (n.natAbs : Int) = n by omega] at hnumeral
  have hinteger : integer (.ofString (toString n)) = .ok n := by
    rw [Json.ofString, hcodes]
    exact integer_eq_ok_iff.mpr (.of_isNumeral hnumeral hshort)
  rw [line, hinteger]
  exact if_pos hpos

end Field
end Enclosure
