import GridPuzzle.Text.Integer
import GridPuzzle.Text.Word
import Mathlib

/-!
# Decimal numerals

The numeral of a natural number is a nonempty run of ASCII digits that reads back as the number. A
number that may be written has a numeral short enough to be read. The numeral of an integer is that
of a natural number, with a minus sign in front when the integer is negative.
-/

namespace GridPuzzle.Text

/-! ## Digits -/

theorem digitValue?_digitChar {d : Nat} (h : d < 10) : digitValue? (digitChar d) = some d := by
  interval_cases d <;> decide

theorem isAsciiDigit_digitChar {d : Nat} (h : d < 10) : isAsciiDigit (digitChar d) = true := by
  interval_cases d <;> decide

theorem decimal_ne_nil (n : Nat) : decimal n ≠ [] := by
  unfold decimal
  split <;> simp

theorem isAsciiDigit_of_mem_decimal (n : Nat) : ∀ c ∈ decimal n, isAsciiDigit c = true := by
  fun_induction decimal n with
  | case1 n h =>
    intro c hc
    obtain rfl := List.mem_singleton.1 hc
    exact isAsciiDigit_digitChar h
  | case2 n _ ih =>
    intro c hc
    obtain hc | hc := List.mem_append.1 hc
    · exact ih c hc
    · obtain rfl := List.mem_singleton.1 hc
      exact isAsciiDigit_digitChar (Nat.mod_lt n (by decide))

theorem notMem_decimal {c : Char} (hdigit : isAsciiDigit c = false) (n : Nat) : c ∉ decimal n :=
  fun hmem ↦ by simp [isAsciiDigit_of_mem_decimal n c hmem] at hdigit

/-! ## Reading back -/

theorem digitsFrom?_append (acc : Nat) (s t : List Char) :
    digitsFrom? acc (s ++ t) = (digitsFrom? acc s).bind (digitsFrom? · t) := by
  induction s generalizing acc with
  | nil => rfl
  | cons c s ih =>
    simp only [List.cons_append, digitsFrom?]
    cases digitValue? c with
    | none => rfl
    | some d => exact ih (10 * acc + d)

theorem digitsFrom?_decimal (n : Nat) : digitsFrom? 0 (decimal n) = some n := by
  fun_induction decimal n with
  | case1 n h => simp [digitsFrom?, digitValue?_digitChar h]
  | case2 n _ ih =>
    have hmod : n % 10 < 10 := Nat.mod_lt n (by decide)
    rw [digitsFrom?_append, ih]
    simp only [Option.bind_some, digitsFrom?, digitValue?_digitChar hmod, Option.some.injEq]
    omega

theorem digits?_decimal (n : Nat) : digits? (decimal n) = some n := by
  have hread := digitsFrom?_decimal n
  cases h : decimal n with
  | nil => exact absurd h (decimal_ne_nil n)
  | cons c rest =>
    rw [h] at hread
    exact hread

theorem decimal_injective : Function.Injective decimal := by
  intro m n h
  apply Option.some.inj
  rw [← digits?_decimal m, ← digits?_decimal n, h]

/-! ## Lengths -/

/-- A number below a power of ten has no more digits than the exponent says. -/
theorem length_decimal_le {n exponent : Nat} (hexponent : 0 < exponent) (h : n < 10 ^ exponent) :
    (decimal n).length ≤ exponent := by
  induction exponent generalizing n with
  | zero => exact absurd hexponent (Nat.lt_irrefl 0)
  | succ k ih =>
    unfold decimal
    split
    · simp
    · have hk : 0 < k := by
        by_contra hzero
        obtain rfl : k = 0 := by omega
        simp at h
        omega
      have hdiv : n / 10 < 10 ^ k := by
        rw [Nat.pow_succ] at h
        omega
      simpa using ih hk hdiv

theorem ten_le_leastUnwritable : 10 ≤ leastUnwritable := by
  have hpow (n : Nat) (h : n ≠ 0) : 10 ≤ Nat.pow 10 n := Nat.le_self_pow h 10
  unfold leastUnwritable
  apply hpow
  decide

theorem isWritable_of_lt {n : Int} (h : n.natAbs < 10) : isWritable n = true :=
  decide_eq_true (Nat.lt_of_lt_of_le h ten_le_leastUnwritable)

theorem isWritable_of_le {m n : Nat} (h : m ≤ n) (hn : isWritable n = true) :
    isWritable m = true := by
  rw [isWritable, Int.natAbs_natCast] at hn ⊢
  exact decide_eq_true (Nat.lt_of_le_of_lt h (of_decide_eq_true hn))

theorem length_decimal_le_maxDigits {n : Nat} (h : isWritable n = true) :
    (decimal n).length ≤ maxDigits := by
  have hlength (k : Nat) (hk : 0 < k) (hlt : n < Nat.pow 10 k) : (decimal n).length ≤ k :=
    length_decimal_le hk hlt
  have hlt : n < leastUnwritable := by simpa [isWritable] using h
  unfold leastUnwritable at hlt
  apply hlength
  · decide
  · exact hlt

/-! ## Integers -/

theorem toList_natText (n : Nat) : (natText n).toList = decimal n := String.toList_ofList

theorem toList_intText_natCast (n : Nat) : (intText n).toList = decimal n := String.toList_ofList

theorem toList_intText_neg {n : Int} (h : n < 0) :
    (intText n).toList = '-' :: decimal n.natAbs := by
  cases n with
  | ofNat n => exact absurd h (by simp)
  | negSucc n => simp [intText, natText]

/-- The numeral of an integer holds ASCII digits and minus signs only. -/
theorem mem_toList_intText {n : Int} {c : Char} (h : c ∈ (intText n).toList) :
    isAsciiDigit c = true ∨ c = '-' := by
  cases n with
  | ofNat n =>
    rw [Int.ofNat_eq_natCast, toList_intText_natCast] at h
    exact .inl (isAsciiDigit_of_mem_decimal n c h)
  | negSucc n =>
    rw [toList_intText_neg (Int.negSucc_lt_zero n)] at h
    obtain rfl | h := List.mem_cons.1 h
    · exact .inr rfl
    · exact .inl (isAsciiDigit_of_mem_decimal _ c h)

theorem notMem_intText {c : Char} (hdigit : isAsciiDigit c = false) (hne : c ≠ '-') (n : Int) :
    c ∉ (intText n).toList := by
  intro hmem
  obtain htrue | heq := mem_toList_intText hmem
  · simp [htrue] at hdigit
  · exact hne heq

/-- An integer is told by its numeral. -/
theorem intText_injective : Function.Injective intText := by
  have hsign (m n : Nat) : intText m ≠ intText (.negSucc n) := by
    intro h
    have hmem : '-' ∈ (intText m).toList := by
      rw [h, toList_intText_neg (Int.negSucc_lt_zero n)]
      exact List.mem_cons_self
    rw [toList_intText_natCast] at hmem
    exact notMem_decimal (by decide) m hmem
  intro m n h
  cases m with
  | ofNat m =>
    cases n with
    | ofNat n =>
      have hdigits : decimal m = decimal n := by
        rw [← toList_intText_natCast m, ← toList_intText_natCast n]
        exact congrArg String.toList h
      rw [decimal_injective hdigits]
    | negSucc n => exact absurd h (hsign m n)
  | negSucc m =>
    cases n with
    | ofNat n => exact absurd h.symm (hsign n m)
    | negSucc n =>
      have hdigits := congrArg String.toList h
      rw [toList_intText_neg (Int.negSucc_lt_zero m), toList_intText_neg (Int.negSucc_lt_zero n)]
        at hdigits
      have hnat : m + 1 = n + 1 := decimal_injective (List.cons.inj hdigits).2
      rw [Nat.succ.inj hnat]

end GridPuzzle.Text
