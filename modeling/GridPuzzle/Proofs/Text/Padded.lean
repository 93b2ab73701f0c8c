import GridPuzzle.Proofs.Text.Numeral

/-!
# Numerals with white space around them

A numeral is a run of digits of any script, with zeros in front or not. Digits are neither white
space nor letters, so white space around a numeral, and around any text that neither starts nor ends
with it, can be told from what it surrounds. A number can be written if its numeral has no more
digits than can be read.
-/

namespace GridPuzzle.Text

/-! ## White space and digits -/

/-- A text with white space before it and behind it, or with none. -/
def IsPadded (s core : List Char) : Prop :=
  ∃ before behind, s = before ++ (core ++ behind) ∧ (∀ c ∈ before, isBlank c = true) ∧
    ∀ c ∈ behind, isBlank c = true

theorem IsPadded.refl (s : List Char) : IsPadded s s := ⟨[], [], by simp⟩

/-- A class that contains no member of the table of digits contains no digit. -/
theorem eq_false_of_isDigit {p : Char → Bool}
    (htable : ∀ start ∈ 0x30 :: digitZeros, ∀ k < 10, p (Char.ofNat (start + k)) = false)
    {c : Char} (h : isDigit c = true) : p c = false := by
  obtain ⟨start, hstart, hle, hlt⟩ := exists_zero_of_isDigit h
  have hc := htable start hstart (c.toNat - start) (by omega)
  rwa [Nat.add_sub_cancel' hle, Char.ofNat_toNat] at hc

theorem isBlank_of_isDigit {c : Char} (h : isDigit c = true) : isBlank c = false :=
  eq_false_of_isDigit (by decide +kernel) h

theorem isAsciiLetter_of_isDigit {c : Char} (h : isDigit c = true) : isAsciiLetter c = false :=
  eq_false_of_isDigit (by decide +kernel) h

theorem isDigit_of_isBlank {c : Char} (h : isBlank c = true) : isDigit c = false := by
  cases hdigit : isDigit c with
  | false => rfl
  | true =>
    rw [isBlank_of_isDigit hdigit] at h
    cases h

theorem isAsciiLetter_of_isBlank {c : Char} (h : isBlank c = true) : isAsciiLetter c = false := by
  cases hletter : isAsciiLetter c with
  | false => rfl
  | true =>
    have hfalse := @isBlank_of_isIdentifierChar c (by simp [isIdentifierChar, hletter])
    rw [hfalse] at h
    cases h

/-- A run of characters of a class ends where a character of another class follows. -/
theorem span_append {p : Char → Bool} {run rest : List Char} (hrun : ∀ c ∈ run, p c = true)
    (hrest : rest.head?.any p = false) :
    (run ++ rest).takeWhile p = run ∧ (run ++ rest).dropWhile p = rest := by
  rw [List.takeWhile_append_of_pos hrun, List.dropWhile_append_of_pos hrun]
  cases rest with
  | nil => simp
  | cons c rest =>
    have hc : p c = false := by simpa using hrest
    simp [hc]

theorem exists_trimStart (s : List Char) :
    ∃ before, s = before ++ trimStart s ∧ ∀ c ∈ before, isBlank c = true :=
  ⟨s.takeWhile isBlank, List.takeWhile_append_dropWhile.symm, fun _ hc ↦ List.mem_takeWhile_imp hc⟩

theorem trimStart_append {before s : List Char} (hbefore : ∀ c ∈ before, isBlank c = true)
    (hs : StartsText s) : trimStart (before ++ s) = s := by
  apply (span_append hbefore _).2
  cases s with
  | nil => rfl
  | cons c s =>
    have hc : isBlank c = false := by simpa [StartsText] using hs
    simpa using hc

theorem trimEnd_append {s behind : List Char} (hs : EndsText s)
    (hbehind : ∀ c ∈ behind, isBlank c = true) : trimEnd (s ++ behind) = s := by
  induction behind using List.reverseRecOn with
  | nil => rw [List.append_nil, trimEnd_of_endsText hs]
  | append_singleton behind d ih =>
    have hd := hbehind d (by simp)
    rw [← List.append_assoc, trimEnd_concat_of_isBlank _ hd]
    apply ih
    intro c hc
    exact hbehind c (List.mem_append_left _ hc)

/-- What is left of a text without the white space around it is a text with this padding. -/
theorem trim_eq_iff {s core : List Char} (hcore : IsFramed core) :
    trim s = core ↔ IsPadded s core := by
  constructor
  · rintro rfl
    obtain ⟨before, hstart, hbefore⟩ := exists_trimStart s
    obtain ⟨behind, hend, hbehind⟩ := exists_trimStart (trimStart s).reverse
    refine ⟨before, behind.reverse, ?_, hbefore, fun c hc ↦ hbehind c (List.mem_reverse.1 hc)⟩
    calc s = before ++ trimStart s := hstart
      _ = before ++ (trimStart s).reverse.reverse := by rw [List.reverse_reverse]
      _ = before ++ (behind ++ trimStart (trimStart s).reverse).reverse := by rw [← hend]
      _ = before ++ (trim s ++ behind.reverse) := by rw [List.reverse_append, trim, trimEnd]
  · rintro ⟨before, behind, rfl, hbefore, hbehind⟩
    rw [trim, trimStart_append hbefore (startsText_append hcore.1 _),
      trimEnd_append hcore.2 hbehind]

/-! ## Numerals -/

theorem digitsFrom?_eq_some {acc n : Nat} {s : List Char} : digitsFrom? acc s = some n ↔
    ∃ digits : List Nat, s.map digitValue? = digits.map some ∧
      digits.foldl (fun n d ↦ 10 * n + d) acc = n := by
  induction s generalizing acc with
  | nil => simp [digitsFrom?]
  | cons c rest ih =>
    rw [digitsFrom?, Option.bind_eq_some_iff]
    constructor
    · rintro ⟨d, hd, hrest⟩
      obtain ⟨digits, hvalues, hvalue⟩ := ih.1 hrest
      exact ⟨d :: digits, by simp [hd, hvalues], hvalue⟩
    · rintro ⟨digits, hvalues, hvalue⟩
      cases digits with
      | nil => simp at hvalues
      | cons d digits =>
        obtain ⟨hd, hrest⟩ := List.cons.inj hvalues
        exact ⟨d, hd, ih.2 ⟨digits, hrest, hvalue⟩⟩

theorem digits?_eq_some {s : List Char} {n : Nat} : digits? s = some n ↔ DigitsDenote s n := by
  have hvalue (digits : List Nat) :
      positional (digits.map Nat.cast) = n ↔ digits.foldl (fun n d ↦ 10 * n + d) 0 = n := by
    rw [positional_natCast, Nat.cast_inj]
  cases s with
  | nil => simp [digits?, DigitsDenote]
  | cons c rest => simp only [digits?, digitsFrom?_eq_some, DigitsDenote, hvalue, ne_eq,
      List.cons_ne_nil, not_false_eq_true, true_and]

theorem DigitsDenote.isDigit {s : List Char} {n : Int} (h : DigitsDenote s n) :
    ∀ c ∈ s, isDigit c = true := (exists_digitsDenote.1 ⟨n, h⟩).2

theorem DigitsDenote.startsText {s : List Char} {n : Int} (h : DigitsDenote s n) :
    StartsText s := by
  cases s with
  | nil => exact absurd rfl h.1
  | cons c rest =>
    have hc := isBlank_of_isDigit (h.isDigit c List.mem_cons_self)
    simp [StartsText, hc]

/-- A number has no more digits than a numeral that denotes it. -/
theorem DigitsDenote.lt_pow {s : List Char} {n : Nat} (h : DigitsDenote s n) :
    n < 10 ^ s.length := by
  obtain ⟨-, digits, hvalues, hvalue⟩ := h
  rw [positional_natCast, Nat.cast_inj] at hvalue
  have hlength : s.length = digits.length := by simpa using congrArg List.length hvalues
  rw [hlength, ← hvalue]
  apply foldl_digits_lt
  intro d hd
  have hmem : some d ∈ s.map digitValue? := hvalues ▸ List.mem_map_of_mem hd
  obtain ⟨c, -, hc⟩ := List.mem_map.1 hmem
  exact digitValue?_lt hc

theorem digitsDenote_decimal (n : Nat) : DigitsDenote (decimal n) n :=
  digits?_eq_some.1 (digits?_decimal n)

/-- A number can be written exactly if its numeral is short enough to be read. -/
theorem isWritable_iff (n : Nat) : isWritable n = true ↔ (decimal n).length ≤ maxDigits := by
  constructor
  · exact length_decimal_le_maxDigits
  · intro hlength
    exact isWritable_of_lt_pow hlength (digitsDenote_decimal n).lt_pow

end GridPuzzle.Text
