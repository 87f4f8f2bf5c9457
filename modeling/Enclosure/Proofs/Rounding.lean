import Enclosure.Number.Binary64
import Mathlib.Algebra.Order.Field.Power
import Mathlib.Data.Rat.Cast.Order
import Mathlib.Tactic.Positivity
import Mathlib.Tactic.Push

/-!
# Which decimals round to zero

A decimal that is greater than zero may still be read as zero, because there is no number close enough
to it.  The decimals that this happens to are exactly those of at most half the smallest number; half
the smallest number itself goes to zero, whose mantissa is even.

A decimal is rounded in three different ways.  If it is far out, its number of digits decides.
Otherwise an exponent is estimated from the bits of numerator and denominator, and raised until the
mantissa fits.  What carries the argument is that the exponent is either the smallest one there is, or
leaves a mantissa with all of its bits, which does not vanish however it is rounded.

What is here:

* `scaled_add_one`: the mantissa for the next exponent.
* `leastMantissa_le_fitted`: the exponent that is found leaves a full mantissa or is the smallest one.
* `isAtMostZero_ofFraction_iff`: which fractions round to zero.
* `isAtMostZero_ofDecimal_iff`: which decimals do.
-/

set_option autoImplicit false

namespace Enclosure.Binary64

/-! ## Exponents -/

/-- One exponent up, the mantissa is half of what it was. -/
theorem scaled_add_one (num den : Nat) (e : Int) :
    (scaled num den (e + 1)).1 = (scaled num den e).1 / 2 := by
  simp only [scaled, Nat.div_div_eq_div_mul]
  rcases lt_or_ge e 0 with he | he
  · obtain ⟨k, rfl⟩ : ∃ k : Nat, e = -(k + 1) := ⟨(-e - 1).toNat, by omega⟩
    have hdown : (-(-(k + 1 : Int) + 1)).toNat = k := by omega
    have hup : (-(k + 1 : Int) + 1).toNat = 0 := by omega
    have hdown' : (-(-(k + 1 : Int))).toNat = k + 1 := by omega
    have hup' : (-(k + 1 : Int)).toNat = 0 := by omega
    rw [hdown, hup, hdown', hup', Nat.pow_eq, Nat.pow_eq, Nat.pow_eq, pow_succ, ← mul_assoc,
      Nat.mul_div_mul_right _ _ (by decide)]
  · obtain ⟨k, rfl⟩ := Int.eq_ofNat_of_zero_le he
    have hdown : (-((k : Int) + 1)).toNat = 0 := by omega
    have hup : ((k : Int) + 1).toNat = k + 1 := by omega
    have hdown' : (-(k : Int)).toNat = 0 := by omega
    rw [hdown, hup, hdown', Int.toNat_natCast, Nat.pow_eq, Nat.pow_eq, Nat.pow_eq, pow_succ, mul_assoc]

theorem le_fitted (num den fuel : Nat) (e : Int) : e ≤ fitted num den fuel e := by
  induction fuel generalizing e with
  | zero => exact le_rfl
  | succ fuel ih =>
    rw [fitted]
    split
    · exact le_rfl
    · exact (by omega : e ≤ e + 1).trans (ih _)

/-- An exponent is only raised as long as the mantissa has more than its bits, and each time it loses
one of them. -/
theorem fitted_cases (num den fuel : Nat) (e : Int) :
    fitted num den fuel e = e ∨
      leastMantissa ≤ (scaled num den (fitted num den fuel e)).1 := by
  induction fuel generalizing e with
  | zero => exact .inl rfl
  | succ fuel ih =>
    rw [fitted]
    split
    · exact .inl rfl
    · next hlarge =>
      rcases ih (e + 1) with heq | hle
      · rw [heq, scaled_add_one]
        exact .inr (by omega)
      · exact .inr hle

/-- The estimate is never too high. -/
theorem leastMantissa_le_guess {num den : Nat} (hnum : num ≠ 0) (hden : den ≠ 0) :
    leastMantissa ≤ (scaled num den ((num.log2 : Int) - (den.log2 : Int) - 53)).1 := by
  have hlow := Nat.log2_self_le hnum
  have hhigh := Nat.lt_log2_self (n := den)
  generalize num.log2 = a at hlow
  generalize den.log2 = b at hhigh
  simp only [scaled, Nat.pow_eq]
  have hleast : leastMantissa = 2 ^ 52 := by decide
  rw [Nat.le_div_iff_mul_le (by positivity), hleast]
  -- both sides are compared with the same power of two
  have hexponents : 52 + (b + 1) + ((a : Int) - b - 53).toNat = a + (-((a : Int) - b - 53)).toNat := by
    omega
  calc 2 ^ 52 * (den * 2 ^ ((a : Int) - b - 53).toNat)
      ≤ 2 ^ 52 * (2 ^ (b + 1) * 2 ^ ((a : Int) - b - 53).toNat) := by gcongr
    _ = 2 ^ a * 2 ^ (-((a : Int) - b - 53)).toNat := by
      rw [← mul_assoc, ← pow_add, ← pow_add, ← pow_add, hexponents]
    _ ≤ num * 2 ^ (-((a : Int) - b - 53)).toNat := by gcongr

/-- **The exponent that is found** is the smallest one, or leaves a mantissa with all of its bits. -/
theorem leastMantissa_le_fitted {num den : Nat} (hnum : num ≠ 0) (hden : den ≠ 0) (fuel : Nat)
    {e : Int}
    (he : e = fitted num den fuel
      (max minExponent ((num.log2 : Int) - (den.log2 : Int) - 53))) :
    e = minExponent ∨ minExponent ≤ e ∧ leastMantissa ≤ (scaled num den e).1 := by
  have hle : minExponent ≤ e := by
    rw [he]
    exact (le_max_left _ _).trans (le_fitted _ _ _ _)
  rcases fitted_cases num den fuel (max minExponent ((num.log2 : Int) - (den.log2 : Int) - 53)) with
    hstay | hfull
  · rw [← he] at hstay
    rcases max_choice minExponent ((num.log2 : Int) - (den.log2 : Int) - 53) with hmax | hmax
    · exact .inl (hstay.trans hmax)
    · rw [hmax] at hstay
      exact .inr ⟨hle, hstay ▸ leastMantissa_le_guess hnum hden⟩
  · rw [← he] at hfull
    exact .inr ⟨hle, hfull⟩

/-! ## Fractions -/

/-- How many bits there are behind the point, at most. -/
def depth : Nat := 1074

theorem minExponent_eq : minExponent = -(depth : Int) := rfl

/-- A mantissa with all of its bits is one of a fraction that is not small. -/
theorem lt_of_leastMantissa_le {num den : Nat} (hden : den ≠ 0) {e : Int} (he : minExponent ≤ e)
    (h : leastMantissa ≤ (scaled num den e).1) : den < num * 2 ^ (depth + 1) := by
  simp only [scaled, Nat.pow_eq] at h
  rw [Nat.le_div_iff_mul_le (by positivity)] at h
  have hdown : (-e).toNat ≤ depth + 1 := by
    rw [minExponent_eq] at he
    omega
  have hleast : 1 < leastMantissa := by decide
  calc den = 1 * den := (one_mul den).symm
    _ < leastMantissa * den := Nat.mul_lt_mul_of_pos_right hleast (Nat.pos_of_ne_zero hden)
    _ ≤ leastMantissa * den * 2 ^ e.toNat := Nat.le_mul_of_pos_right _ (by positivity)
    _ ≤ num * 2 ^ (-e).toNat := by rwa [mul_assoc]
    _ ≤ num * 2 ^ (depth + 1) := Nat.mul_le_mul_left _ (Nat.pow_le_pow_right (by decide) hdown)

/-- A mantissa with its exponent as a number; too large a number is infinite. -/
def assembled (negative : Bool) (p : Nat × Int) : Binary64 :=
  if maxExponent < p.2 then infinite negative else finite negative p.1 p.2

/-- A mantissa that is rounded to the nearest number or half way to the even one. -/
def roundedUp (q r d : Nat) : Nat := if d < 2 * r || (2 * r == d && q % 2 == 1) then q + 1 else q

/-- A mantissa that has become too long is cut. -/
def cut (m : Nat) (e : Int) : Nat × Int :=
  if m = 2 * leastMantissa then (leastMantissa, e + 1) else (m, e)

theorem ofFraction_eq (negative : Bool) {num den : Nat} (hnum : num ≠ 0) (hden : den ≠ 0) :
    ∃ e, (e = minExponent ∨ minExponent ≤ e ∧ leastMantissa ≤ (scaled num den e).1) ∧
      ofFraction negative num den = assembled negative (cut (roundedUp (scaled num den e).1
        (scaled num den e).2.1 (scaled num den e).2.2) e) := by
  refine ⟨_, leastMantissa_le_fitted hnum hden 4 rfl, ?_⟩
  rw [ofFraction, if_neg (by simp [hnum, hden])]
  rfl

/-- Neither of these steps changes the sign, nor whether the number is zero. -/
theorem isAtMostZero_assembled_cut (negative : Bool) {m : Nat} {e : Int}
    (h : m = 0 → e = minExponent) :
    (assembled negative (cut m e)).isAtMostZero = true ↔ negative = true ∨ m = 0 := by
  have hleast : leastMantissa ≠ 0 := by decide
  rw [assembled, cut]
  rcases eq_or_ne m 0 with rfl | hm
  · rw [if_neg (by decide : ¬0 = 2 * leastMantissa), h rfl]
    exact iff_of_true (by simp [isAtMostZero, maxExponent, minExponent]) (.inr rfl)
  · rcases eq_or_ne m (2 * leastMantissa) with hlong | hshort
    · rw [if_pos hlong]
      split <;> simp [isAtMostZero, hleast, hm]
    · rw [if_neg hshort]
      split <;> simp [isAtMostZero, hm]

/-- A quotient vanishes up to a half. -/
theorem roundedUp_eq_zero_iff {x d : Nat} (hd : 0 < d) :
    roundedUp (x / d) (x % d) d = 0 ↔ 2 * x ≤ d := by
  rw [roundedUp]
  rcases lt_or_ge x d with hlt | hge
  · rw [Nat.div_eq_of_lt hlt, Nat.mod_eq_of_lt hlt]
    simp
  · have hpos : 0 < x / d := Nat.div_pos hge hd
    refine iff_of_false ?_ (by omega)
    split
    · exact Nat.succ_ne_zero _
    · exact hpos.ne'

theorem le_roundedUp (q r d : Nat) : q ≤ roundedUp q r d := by
  rw [roundedUp]
  split
  · exact Nat.le_succ q
  · exact le_rfl

theorem scaled_minExponent (num den : Nat) :
    scaled num den minExponent = (num * 2 ^ depth / den, num * 2 ^ depth % den, den) := by
  have hup : (-(depth : Int)).toNat = 0 := by omega
  rw [scaled, minExponent_eq, neg_neg, Int.toNat_natCast, hup, Nat.pow_eq, Nat.pow_eq, pow_zero,
    mul_one]

/-- **Which fractions are zero or less once they are rounded.** -/
theorem isAtMostZero_ofFraction_iff (negative : Bool) {num den : Nat} (hnum : num ≠ 0)
    (hden : den ≠ 0) :
    (ofFraction negative num den).isAtMostZero = true ↔
      negative = true ∨ num * 2 ^ (depth + 1) ≤ den := by
  obtain ⟨e, hfull, heq⟩ := ofFraction_eq negative hnum hden
  rw [heq]
  rcases hfull with rfl | ⟨hle, hq⟩
  · rw [isAtMostZero_assembled_cut negative fun _ => rfl, scaled_minExponent,
      roundedUp_eq_zero_iff (Nat.pos_of_ne_zero hden), pow_succ]
    generalize 2 ^ depth = unit
    rw [mul_comm unit 2, mul_left_comm]
  · have hpos : 0 < leastMantissa := by decide
    have hne : roundedUp (scaled num den e).1 (scaled num den e).2.1 (scaled num den e).2.2 ≠ 0 :=
      (hpos.trans_le (hq.trans (le_roundedUp _ _ _))).ne'
    rw [isAtMostZero_assembled_cut negative fun h => absurd h hne, or_iff_left hne,
      or_iff_left (lt_of_leastMantissa_le hden hle hq).not_ge]

/-! ## Decimals -/

/-- Half of the smallest number that is greater than zero. -/
def halfLeast : ℚ := 2 ^ (minExponent - 1)

theorem halfLeast_eq : halfLeast = ((2 : ℚ) ^ (depth + 1))⁻¹ := by
  rw [halfLeast, minExponent_eq, show -(depth : Int) - 1 = -((depth + 1 : Nat) : Int) by omega,
    zpow_neg, zpow_natCast]

theorem div_le_halfLeast_iff (num : Nat) {den : Nat} (hden : den ≠ 0) :
    (num : ℚ) / den ≤ halfLeast ↔ num * 2 ^ (depth + 1) ≤ den := by
  have hpos : (0 : ℚ) < den := by exact_mod_cast Nat.pos_of_ne_zero hden
  have hpow : (0 : ℚ) < 2 ^ (depth + 1) := pow_pos two_pos _
  rw [halfLeast_eq, div_le_iff₀ hpos, inv_mul_eq_div, le_div_iff₀ hpow]
  exact_mod_cast Iff.rfl

/-- A decimal that is too long for any number is not small. -/
theorem halfLeast_lt_of_digitCount {n : Nat} (hn : n ≠ 0) {k : Int} (h : 310 < k + digitCount n) :
    halfLeast < n * 10 ^ k := by
  have hlength : 0 < digitCount n := List.length_pos_iff.mpr (by simp)
  -- with one digit less, the number would be smaller than its first digit
  have hdigits : 10 ^ (digitCount n - 1) ≤ n := by
    rcases Nat.eq_zero_or_pos (digitCount n - 1) with hone | hmore
    · rw [hone, pow_zero]
      exact Nat.one_le_iff_ne_zero.mpr hn
    · by_contra hlt
      have hle := (Nat.length_toDigits_le_iff (by decide) hmore).mpr (not_le.mp hlt)
      rw [← digitCount] at hle
      omega
  have hhalf : halfLeast < 1 := by
    rw [halfLeast_eq]
    exact inv_lt_one_of_one_lt₀ (one_lt_pow₀ (by norm_num) (Nat.succ_ne_zero depth))
  calc halfLeast < 1 := hhalf
    _ ≤ 10 ^ (k + (digitCount n - 1 : Nat)) := one_le_zpow₀ (by norm_num) (by omega)
    _ = 10 ^ (digitCount n - 1) * 10 ^ k := by
        rw [zpow_add₀ (by norm_num), zpow_natCast, mul_comm]
    _ ≤ n * 10 ^ k := by
        gcongr
        exact_mod_cast hdigits

/-- A decimal with all of its digits far behind the point is small. -/
theorem le_halfLeast_of_digitCount {n : Nat} {k : Int} (h : k + digitCount n < -330) :
    (n : ℚ) * 10 ^ k ≤ halfLeast := by
  have hdigits : n < 10 ^ digitCount n := by
    refine (Nat.length_toDigits_le_iff (by decide) ?_).mp le_rfl
    exact List.length_pos_iff.mpr (by simp)
  have hten : (2 : ℚ) ^ (depth + 1) ≤ 10 ^ 331 := by
    have hnat : 2 ^ (depth + 1) ≤ 10 ^ 331 := by decide +kernel
    exact_mod_cast hnat
  calc (n : ℚ) * 10 ^ k ≤ 10 ^ digitCount n * 10 ^ k := by
        gcongr
        exact_mod_cast hdigits.le
    _ = 10 ^ (k + digitCount n) := by
        rw [zpow_add₀ (by norm_num), zpow_natCast, mul_comm]
    _ ≤ 10 ^ (-331 : ℤ) := zpow_le_zpow_right₀ (by norm_num) (by omega)
    _ ≤ halfLeast := by
        rw [halfLeast_eq, zpow_neg]
        exact inv_anti₀ (pow_pos two_pos _) hten

/-- **Which decimals are zero or less once they are rounded**: those with a minus in front, and those of
at most half the least number. -/
theorem isAtMostZero_ofDecimal_iff (negative : Bool) (n : Nat) (k : Int) :
    (ofDecimal negative n k).isAtMostZero = true ↔
      negative = true ∨ (n : ℚ) * 10 ^ k ≤ halfLeast := by
  rw [ofDecimal]
  split
  · next hzero =>
    subst hzero
    refine iff_of_true (by simp [isAtMostZero]) (.inr ?_)
    rw [Nat.cast_zero, zero_mul, halfLeast_eq]
    positivity
  · next hn =>
    dsimp only
    split
    · next hlong =>
      rw [or_iff_left (halfLeast_lt_of_digitCount hn hlong).not_ge]
      exact Iff.rfl
    · split
      · next hshort =>
        exact iff_of_true (by simp [isAtMostZero]) (.inr (le_halfLeast_of_digitCount hshort))
      · split
        · next hneg =>
          obtain ⟨j, rfl⟩ : ∃ j : Nat, k = -j := ⟨(-k).toNat, by omega⟩
          rw [neg_neg, Int.toNat_natCast, Nat.pow_eq,
            isAtMostZero_ofFraction_iff negative hn (by positivity),
            ← div_le_halfLeast_iff n (by positivity), zpow_neg, zpow_natCast, div_eq_mul_inv]
          norm_cast
        · obtain ⟨j, rfl⟩ := Int.eq_ofNat_of_zero_le (by omega : 0 ≤ k)
          rw [Int.toNat_natCast, Nat.pow_eq,
            isAtMostZero_ofFraction_iff negative (by positivity) Nat.one_ne_zero,
            ← div_le_halfLeast_iff _ Nat.one_ne_zero, Nat.cast_one, div_one, zpow_natCast]
          norm_cast

end Enclosure.Binary64
