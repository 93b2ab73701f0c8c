import GridPuzzle.Proofs.Double
import Mathlib

/-!
# The values of binary floating-point numbers

A finite number has a rational value, and no other number but its double among the zeros has this
value. Numbers are the same if they have one value or are one infinity. What is in front of the
point of a number is its value rounded towards zero.
-/

namespace GridPuzzle.Double

/-- The value of a finite number. -/
def value (x : Double) : ℚ := withSign x.isNegative x.significand * 2 ^ x.exponent

theorem equals_iff_value {x : Double} {n : Int} :
    x.Equals n ↔ x.exponentField ≠ topExponent ∧ x.value = n := Iff.rfl

/-! ## The part in front of the point -/

/-- A rational number rounded towards zero. -/
def towardsZero (q : ℚ) : Int := if 0 ≤ q then ⌊q⌋ else ⌈q⌉

theorem towardsZero_neg {q : ℚ} (h : 0 ≤ q) : towardsZero (-q) = -⌊q⌋ := by
  unfold towardsZero
  split
  next hneg =>
    obtain rfl : q = 0 := le_antisymm (by simpa using hneg) h
    simp
  next => exact Int.ceil_neg

theorem withSign_div_eq (negative : Bool) (num den : Nat) :
    withSign negative (num / den) = towardsZero (withSign negative num / den) := by
  have hfloor : ⌊(num : ℚ) / den⌋ = ((num / den : Nat) : Int) := by
    simpa using Rat.floor_intCast_div_natCast num den
  have hnonneg : (0 : ℚ) ≤ (num : ℚ) / den := by positivity
  cases negative with
  | false => simp [withSign, towardsZero, hnonneg, hfloor]
  | true =>
    have hneg := towardsZero_neg hnonneg
    rw [hfloor] at hneg
    simpa [withSign, neg_div] using hneg.symm

theorem value_eq_div (x : Double) :
    x.value = (withSign x.isNegative x.magnitude.1 : ℚ) / x.magnitude.2 := by
  unfold value
  cases x.isNegative <;> simp [withSign, neg_div, ← x.magnitude_eq]

/-- The part of a number in front of the point is its value rounded towards zero. -/
theorem truncate?_eq_some {x : Double} {n : Int} : x.truncate? = some n ↔
    x.exponentField ≠ topExponent ∧ n = towardsZero x.value := by
  rw [truncate?, value_eq_div]
  by_cases hfield : x.exponentField = topExponent
  · simp [hfield]
  · simp only [hfield, beq_iff_eq, if_false, Option.some.injEq, ne_eq, not_false_eq_true, true_and]
    rw [withSign_div_eq, eq_comm]

theorem towardsZero_intCast (n : Int) : towardsZero n = n := by simp [towardsZero]

theorem truncate?_of_equals {x : Double} {n : Int} (h : x.Equals n) : x.truncate? = some n := by
  obtain ⟨hfield, hvalue⟩ := equals_iff_value.1 h
  exact truncate?_eq_some.2 ⟨hfield, by rw [hvalue, towardsZero_intCast]⟩

/-! ## Bits -/

theorem bits_toNat (x : Double) : x.bits.toNat =
    (if x.isNegative then signBit else 0) + x.exponentField * hiddenBit + x.fraction := by
  have hlt : x.bits.toNat < 2 ^ 64 := x.bits.toNat_lt
  have hsign : x.isNegative = true ↔ signBit ≤ x.bits.toNat := decide_eq_true_iff
  simp only [hsign, exponentField, fraction, signBit, hiddenBit, topExponent]
  split <;> omega

/-- A number is known from its sign, its exponent bits and its fraction bits. -/
theorem ext_parts {x y : Double} (hsign : x.isNegative = y.isNegative)
    (hfield : x.exponentField = y.exponentField) (hfraction : x.fraction = y.fraction) : x = y := by
  have hbits : x.bits = y.bits := by
    apply UInt64.toNat_inj.1
    rw [bits_toNat, bits_toNat, hsign, hfield, hfraction]
  cases x
  cases y
  congr

theorem fraction_lt (x : Double) : x.fraction < hiddenBit := Nat.mod_lt _ (by decide)

theorem significand_of_ne_zero {x : Double} (h : x.exponentField ≠ 0) :
    x.significand = hiddenBit + x.fraction := by
  simp [significand, h]

theorem significand_of_eq_zero {x : Double} (h : x.exponentField = 0) :
    x.significand = x.fraction := by
  simp [significand, h]

theorem significand_eq_zero_iff {x : Double} :
    x.significand = 0 ↔ x.exponentField = 0 ∧ x.fraction = 0 := by
  have hhidden : 0 < hiddenBit := by decide
  by_cases hfield : x.exponentField = 0
  · simp [significand_of_eq_zero hfield, hfield]
  · rw [significand_of_ne_zero hfield]
    omega

/-! ## Equality -/

/-- The significand of a number in units of the least number. -/
def units (x : Double) : Nat := x.significand * 2 ^ max x.exponentField 1

theorem significand_mul_eq (x : Double) :
    (x.significand : ℚ) * 2 ^ x.exponent = x.units * 2 ^ (-1075 : Int) := by
  have hexponent : x.exponent = (max x.exponentField 1 : Nat) + (-1075) := rfl
  rw [hexponent, zpow_add₀ two_ne_zero, zpow_natCast, ← mul_assoc, units, Nat.cast_mul,
    Nat.cast_pow, Nat.cast_ofNat]

/-- The units of a number are fewer than those of one with a greater exponent. -/
theorem units_lt {x y : Double} (hlt : max x.exponentField 1 < max y.exponentField 1) :
    x.units < y.units := by
  have hnormal : y.exponentField ≠ 0 := by omega
  have hhidden : hiddenBit = 2 ^ 52 := by decide
  calc x.units < 2 ^ 53 * 2 ^ max x.exponentField 1 :=
        Nat.mul_lt_mul_of_pos_right x.significand_lt (Nat.two_pow_pos _)
    _ = 2 ^ 52 * 2 ^ (max x.exponentField 1 + 1) := by ring
    _ ≤ 2 ^ 52 * 2 ^ max y.exponentField 1 :=
        Nat.mul_le_mul_left _ (Nat.pow_le_pow_right (by decide) hlt)
    _ ≤ y.units := by
        refine Nat.mul_le_mul_right _ ?_
        rw [significand_of_ne_zero hnormal]
        omega

/-- Numbers of as many units have the same exponent and fraction bits. -/
theorem parts_of_units_eq {x y : Double} (h : x.units = y.units) :
    x.exponentField = y.exponentField ∧ x.fraction = y.fraction := by
  have hfields : max x.exponentField 1 = max y.exponentField 1 := by
    obtain hlt | heq | hlt := lt_trichotomy (max x.exponentField 1) (max y.exponentField 1)
    · exact absurd h (units_lt hlt).ne
    · exact heq
    · exact absurd h (units_lt hlt).ne'
  have hsignificand : x.significand = y.significand := by
    unfold units at h
    rw [hfields] at h
    exact Nat.eq_of_mul_eq_mul_right (Nat.two_pow_pos _) h
  have hx := x.fraction_lt
  have hy := y.fraction_lt
  -- a subnormal number and a normal one differ in their hidden bit
  by_cases hxzero : x.exponentField = 0 <;> by_cases hyzero : y.exponentField = 0
  · rw [significand_of_eq_zero hxzero, significand_of_eq_zero hyzero] at hsignificand
    exact ⟨hxzero.trans hyzero.symm, hsignificand⟩
  · rw [significand_of_eq_zero hxzero, significand_of_ne_zero hyzero] at hsignificand
    omega
  · rw [significand_of_ne_zero hxzero, significand_of_eq_zero hyzero] at hsignificand
    omega
  · rw [significand_of_ne_zero hxzero, significand_of_ne_zero hyzero] at hsignificand
    omega

/-- What a number other than a non-number stands for. -/
inductive Quantity where
  | finite (q : ℚ)
  | infinite (negative : Bool)

def quantity (x : Double) : Quantity :=
  if x.exponentField = topExponent then .infinite x.isNegative else .finite x.value

theorem value_eq_units (x : Double) :
    x.value = (withSign x.isNegative x.units : ℚ) * 2 ^ (-1075 : Int) := by
  have hunits := x.significand_mul_eq
  unfold value
  cases x.isNegative
  · simpa [withSign] using hunits
  · simpa [withSign] using hunits

/-- Finite numbers have one value just if they are equal or both zero. -/
theorem value_eq_iff {x y : Double} :
    x.value = y.value ↔ x = y ∨ x.significand = 0 ∧ y.significand = 0 := by
  have hscale : (2 : ℚ) ^ (-1075 : Int) ≠ 0 := zpow_ne_zero _ two_ne_zero
  have hzero {x : Double} : x.units = 0 ↔ x.significand = 0 := by simp [units]
  rw [value_eq_units, value_eq_units, mul_left_inj' hscale, Int.cast_inj]
  constructor
  · intro h
    have habs : x.units = y.units := by
      rw [← natAbs_withSign x.isNegative x.units, h, natAbs_withSign]
    by_cases hx : x.units = 0
    · exact .inr ⟨hzero.1 hx, hzero.1 (habs ▸ hx)⟩
    · obtain ⟨hfield, hfraction⟩ := parts_of_units_eq habs
      refine .inl (ext_parts ?_ hfield hfraction)
      cases hsign : x.isNegative <;> cases hsign' : y.isNegative
      · rfl
      · simp [hsign, hsign', withSign] at h
        omega
      · simp [hsign, hsign', withSign] at h
        omega
      · rfl
  · rintro (rfl | ⟨hx, hy⟩)
    · rfl
    · rw [hzero.2 hx, hzero.2 hy]
      cases x.isNegative <;> cases y.isNegative <;> rfl

theorem same_eq_true_iff {x y : Double} (hx : x.isNaN = false) (hy : y.isNaN = false) :
    x.same y = true ↔ x = y ∨ x.significand = 0 ∧ y.significand = 0 := by
  have hzero {x : Double} (h : x.significand = 0) : x.exponentField = 0 :=
    (significand_eq_zero_iff.1 h).1
  simp only [same, hx, hy, Bool.not_false, Bool.true_and, Bool.or_eq_true, Bool.and_eq_true,
    beq_iff_eq]
  refine or_congr_right ⟨fun h ↦ h.1.1, fun h ↦ ⟨⟨h, hzero h.1⟩, hzero h.2⟩⟩

/-- A number that is neither finite nor a non-number is one of the infinities. -/
theorem fraction_of_not_isNaN {x : Double} (hx : x.isNaN = false)
    (hfield : x.exponentField = topExponent) : x.fraction = 0 := by
  simpa [isNaN, hfield] using hx

/-- Numbers other than non-numbers are the same if they stand for the same. -/
theorem same_iff {x y : Double} (hx : x.isNaN = false) (hy : y.isNaN = false) :
    x.same y = true ↔ x.quantity = y.quantity := by
  have hnonzero {x : Double} (h : x.exponentField = topExponent) : x.significand ≠ 0 := by
    intro hzero
    exact absurd (h.symm.trans (significand_eq_zero_iff.1 hzero).1) (by decide)
  rw [same_eq_true_iff hx hy]
  unfold quantity
  by_cases hfx : x.exponentField = topExponent <;> by_cases hfy : y.exponentField = topExponent
  · simp only [hfx, hfy, if_true, hnonzero hfx, false_and, or_false, Quantity.infinite.injEq]
    constructor
    · rintro rfl
      rfl
    · intro hsign
      exact ext_parts hsign (hfx.trans hfy.symm)
        ((fraction_of_not_isNaN hx hfx).trans (fraction_of_not_isNaN hy hfy).symm)
  · have hne : x ≠ y := fun heq ↦ hfy (heq ▸ hfx)
    simp [hfx, hfy, hne, hnonzero hfx]
  · have hne : x ≠ y := fun heq ↦ hfx (heq ▸ hfy)
    simp [hfx, hfy, hne, hnonzero hfy]
  · simp only [hfx, hfy, if_false, Quantity.finite.injEq]
    exact value_eq_iff.symm

/-- A number stands for an integer if it is equal to it. -/
theorem quantity_eq_intCast {x : Double} {n : Int} : x.quantity = .finite n ↔ x.Equals n := by
  rw [equals_iff_value, quantity]
  split
  next h => simp [h]
  next h => simp [h]

end GridPuzzle.Double
