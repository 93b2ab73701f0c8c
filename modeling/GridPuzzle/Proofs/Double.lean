import GridPuzzle.Double
import GridPuzzle.Proofs.Text.Numeral

/-!
# The integers of binary floating-point numbers

The integer that a floating-point number is equal to lies in the range of the format, which is far
below the least number that cannot be written.
-/

namespace GridPuzzle.Double

theorem significand_lt (x : Double) : x.significand < 2 ^ 53 := by
  have hfraction : x.fraction < 2 ^ 52 := Nat.mod_lt _ (by decide)
  have hhidden : hiddenBit = 2 ^ 52 := by decide
  unfold significand
  split <;> omega

theorem exponentField_lt (x : Double) : x.exponentField < 2 ^ 11 := Nat.mod_lt _ (by decide)

/-- A finite number is below the first power of two that the format does not reach. -/
theorem magnitude_lt {x : Double} (h : x.exponentField ≠ topExponent) :
    x.magnitude.1 < 2 ^ 1024 := by
  have hfield := x.exponentField_lt
  have htop : topExponent = 2047 := rfl
  have hexponent : 53 + x.exponent.toNat ≤ 1024 := by
    unfold exponent
    omega
  have hpow (k : Nat) (hk : 53 + x.exponent.toNat ≤ k) : 2 ^ (53 + x.exponent.toNat) ≤ 2 ^ k :=
    Nat.pow_le_pow_right (by decide) hk
  have hlt : x.magnitude.1 < 2 ^ (53 + x.exponent.toNat) := by
    rw [Nat.pow_add]
    exact Nat.mul_lt_mul_of_pos_right x.significand_lt (Nat.two_pow_pos _)
  exact Nat.lt_of_lt_of_le hlt (hpow 1024 hexponent)

theorem natAbs_withSign (negative : Bool) (n : Nat) : (withSign negative n).natAbs = n := by
  cases negative <;> simp [withSign]

/-- The integer that a number is equal to can be written. -/
theorem isWritable_of_toInt? {x : Double} {n : Int} (h : x.toInt? = some n) :
    Text.isWritable n = true := by
  unfold toInt? truncate? at h
  split at h
  · split at h
    next => simp at h
    next hfinite =>
      have hlt := magnitude_lt (x := x) (by simpa using hfinite)
      have hpow (k : Nat) : 2 ^ k ≤ 10 ^ k := Nat.pow_le_pow_left (by decide) k
      have habs : n.natAbs = x.magnitude.1 / x.magnitude.2 := by
        rw [← Option.some.inj h, natAbs_withSign]
      have hle : n.natAbs ≤ x.magnitude.1 := habs ▸ Nat.div_le_self _ _
      exact Text.isWritable_of_lt_pow (k := 1024) (by decide)
        (Nat.lt_of_le_of_lt hle (Nat.lt_of_lt_of_le hlt (hpow 1024)))
  · simp at h

/-! ## Values -/

/-- A finite number that has the value of an integer. -/
def Equals (x : Double) (n : Int) : Prop :=
  x.exponentField ≠ topExponent ∧
    (withSign x.isNegative x.significand : ℚ) * 2 ^ x.exponent = n

/-- The fraction of a finite number has the value of its significand and exponent. -/
theorem magnitude_eq (x : Double) :
    (x.significand : ℚ) * 2 ^ x.exponent = (x.magnitude.1 : ℚ) / x.magnitude.2 := by
  unfold magnitude power
  obtain ⟨k, hk | hk⟩ := Int.eq_nat_or_neg x.exponent
  · simp [hk, zpow_natCast]
  · simp [hk, zpow_neg, zpow_natCast, div_eq_mul_inv]

theorem magnitude_snd_pos (x : Double) : 0 < x.magnitude.2 := Nat.two_pow_pos _

/-- A number is equal to an integer if its numerator is that many times its denominator. -/
theorem equals_iff {x : Double} {n : Int} : x.Equals n ↔ x.exponentField ≠ topExponent ∧
    withSign x.isNegative x.magnitude.1 = n * x.magnitude.2 := by
  have hne : (x.magnitude.2 : ℚ) ≠ 0 := Nat.cast_ne_zero.2 x.magnitude_snd_pos.ne'
  refine and_congr_right fun _ ↦ ?_
  calc
    (withSign x.isNegative x.significand : ℚ) * 2 ^ x.exponent = n ↔
        (withSign x.isNegative x.magnitude.1 : ℚ) / x.magnitude.2 = n := by
      cases x.isNegative <;> simp [withSign, neg_div, ← x.magnitude_eq]
    _ ↔ (withSign x.isNegative x.magnitude.1 : ℚ) = n * x.magnitude.2 := div_eq_iff hne
    _ ↔ withSign x.isNegative x.magnitude.1 = n * x.magnitude.2 := by exact_mod_cast Iff.rfl

/-- A multiple of a denominator, with a sign, is the quotient with the sign. -/
theorem withSign_div {negative : Bool} {num den : Nat} (hden : 0 < den) {n : Int} :
    withSign negative num = n * den ↔ num % den = 0 ∧ withSign negative (num / den) = n := by
  have hpos : (den : Int) ≠ 0 := by omega
  have hunsigned (n : Int) :
      (num : Int) = n * den ↔ num % den = 0 ∧ ((num / den : Nat) : Int) = n := by
    constructor
    · intro h
      have hdvd : den ∣ num := Int.natCast_dvd_natCast.1 ⟨n, by rw [h, mul_comm]⟩
      refine ⟨Nat.mod_eq_zero_of_dvd hdvd, ?_⟩
      rw [Int.natCast_div, h, Int.mul_ediv_cancel _ hpos]
    · rintro ⟨hmod, rfl⟩
      rw [← Int.natCast_mul, Nat.div_mul_cancel (Nat.dvd_of_mod_eq_zero hmod)]
  cases negative with
  | false => exact hunsigned n
  | true =>
    have hneg := hunsigned (-n)
    simp only [withSign, if_true]
    rw [neg_eq_iff_eq_neg, ← neg_mul, hneg, eq_neg_iff_add_eq_zero, neg_eq_iff_add_eq_zero]

/-- The integer that a number is read as is the one that it is equal to. -/
theorem toInt?_eq_some {x : Double} {n : Int} : x.toInt? = some n ↔ x.Equals n := by
  rw [equals_iff, withSign_div x.magnitude_snd_pos, toInt?, truncate?]
  by_cases hfield : x.exponentField = topExponent
  · simp [hfield]
  · simp [hfield]

end GridPuzzle.Double
