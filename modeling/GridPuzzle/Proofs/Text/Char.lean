import GridPuzzle.Text.Char
import GridPuzzle.Text.Line
import GridPuzzle.Text.Word
import Mathlib

/-!
# Classes of characters

The characters of identifiers lie in the ranges of the ASCII letters, digits and the underscore, and
so they are word characters and neither white space nor breaks.
-/

namespace GridPuzzle.Text

theorem toNat_of_isAsciiLetter {c : Char} (h : isAsciiLetter c = true) :
    (97 ≤ c.toNat ∧ c.toNat ≤ 122) ∨ (65 ≤ c.toNat ∧ c.toNat ≤ 90) := by
  simpa [isAsciiLetter, Char.le_def, UInt32.le_iff_toNat_le] using h

theorem toNat_of_isAsciiDigit {c : Char} (h : isAsciiDigit c = true) :
    48 ≤ c.toNat ∧ c.toNat ≤ 57 := by
  simpa [isAsciiDigit, Char.le_def, UInt32.le_iff_toNat_le] using h

theorem toNat_of_isIdentifierChar {c : Char} (h : isIdentifierChar c = true) :
    (97 ≤ c.toNat ∧ c.toNat ≤ 122) ∨ (65 ≤ c.toNat ∧ c.toNat ≤ 90) ∨
      (48 ≤ c.toNat ∧ c.toNat ≤ 57) ∨ c.toNat = 95 := by
  simp only [isIdentifierChar, Bool.or_eq_true, beq_iff_eq] at h
  obtain (h | h) | rfl := h
  · have := toNat_of_isAsciiLetter h
    omega
  · have := toNat_of_isAsciiDigit h
    omega
  · decide

theorem isWord_of_isIdentifierChar {c : Char} (h : isIdentifierChar c = true) :
    isWord c = true := by
  have hrange := toNat_of_isIdentifierChar h
  have hascii : c.toNat < 0x80 := by omega
  simp [isWord, hascii, h]

theorem isBlank_of_isIdentifierChar {c : Char} (h : isIdentifierChar c = true) :
    isBlank c = false := by
  have hrange := toNat_of_isIdentifierChar h
  simp only [isBlank, Bool.or_eq_false_iff, Bool.and_eq_false_iff, decide_eq_false_iff_not,
    beq_eq_false_iff_ne]
  omega

theorem isLineBreak_of_isIdentifierChar {c : Char} (h : isIdentifierChar c = true) :
    isLineBreak c = false := by
  have hrange := toNat_of_isIdentifierChar h
  simp only [isLineBreak, Bool.or_eq_false_iff, Bool.and_eq_false_iff, decide_eq_false_iff_not,
    beq_eq_false_iff_ne]
  omega

theorem isIdentifierChar_of_isAsciiDigit {c : Char} (h : isAsciiDigit c = true) :
    isIdentifierChar c = true := by
  simp [isIdentifierChar, h]

theorem isAsciiLetter_of_isAsciiDigit {c : Char} (h : isAsciiDigit c = true) :
    isAsciiLetter c = false := by
  have hdigit := toNat_of_isAsciiDigit h
  by_contra hletter
  have hrange := toNat_of_isAsciiLetter (by simpa using hletter)
  omega

end GridPuzzle.Text
