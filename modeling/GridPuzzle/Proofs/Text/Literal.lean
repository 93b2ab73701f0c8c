import GridPuzzle.Proofs.Text.Char
import GridPuzzle.Proofs.Text.Decimal
import GridPuzzle.Proofs.Text.Line
import GridPuzzle.Placement
import GridPuzzle.Value.Text

/-!
# Literals of group values

The literal form of the value of a group is written on one line. A quoted text shows only printable
characters, none of which is a break, and a number is written with digits, signs, a point and the
letter of an exponent.
-/

namespace GridPuzzle

namespace Text

theorem isLine_replicate (n : Nat) {c : Char} (hc : isLineBreak c = false) :
    IsLine (List.replicate n c) := fun d hd ↦ by
  rw [List.eq_of_mem_replicate hd]
  exact hc

theorem isLine_decimal (n : Nat) : IsLine (decimal n) := fun c hc ↦
  isLineBreak_of_isIdentifierChar
    (isIdentifierChar_of_isAsciiDigit (isAsciiDigit_of_mem_decimal n c hc))

theorem isLine_natText (n : Nat) : IsLine (natText n).toList := by
  rw [natText, String.toList_ofList]
  exact isLine_decimal n

theorem isLine_intText (n : Int) : IsLine (intText n).toList := by
  intro c hc
  obtain hdigit | rfl := mem_toList_intText hc
  · exact isLineBreak_of_isIdentifierChar (isIdentifierChar_of_isAsciiDigit hdigit)
  · decide

/-! ## Quoted text -/

/-- The breaks are among ten characters, and none of these is printable. -/
theorem isLineBreak_of_isPrintable {c : Char} (h : isPrintable c = true) :
    isLineBreak c = false := by
  have hbreaks : ∀ n ∈ [0xa, 0xb, 0xc, 0xd, 0x1c, 0x1d, 0x1e, 0x85, 0x2028, 0x2029],
      isPrintable (Char.ofNat n) = false := by decide +kernel
  by_contra hbreak
  simp only [isLineBreak, Bool.not_eq_false, Bool.or_eq_true, Bool.and_eq_true,
    decide_eq_true_eq, beq_iff_eq] at hbreak
  have hmem : c.toNat ∈ [0xa, 0xb, 0xc, 0xd, 0x1c, 0x1d, 0x1e, 0x85, 0x2028, 0x2029] := by
    simp only [List.mem_cons, List.not_mem_nil, or_false]
    omega
  have hnot := hbreaks c.toNat hmem
  rw [Char.ofNat_toNat, h] at hnot
  exact Bool.noConfusion hnot

theorem isLineBreak_hexDigit (n : Nat) : isLineBreak (hexDigit (n % 16)) = false := by
  have hall : ∀ d < 16, isLineBreak (hexDigit d) = false := by decide
  exact hall _ (Nat.mod_lt n (by decide))

theorem isLine_hexText (width n : Nat) : IsLine (hexText width n) := by
  induction width generalizing n with
  | zero => exact isLine_nil
  | succ width ih =>
    rw [hexText, isLine_append, isLine_cons]
    exact ⟨ih _, isLineBreak_hexDigit n, isLine_nil⟩

theorem isLine_escape {quote : Char} (hquote : isLineBreak quote = false) (codePoint : Nat) :
    IsLine (escape quote codePoint) := by
  have hbackslash : isLineBreak '\\' = false := by decide
  unfold escape
  dsimp only
  split
  next hc =>
    rw [Bool.or_eq_true, beq_iff_eq, beq_iff_eq] at hc
    obtain hc | hc := hc
    · simp [isLine_cons, isLine_nil, hc, hbackslash]
    · simp [isLine_cons, isLine_nil, hc, hbackslash, hquote]
  iterate 3
    split
    · decide
  split
  next hprintable =>
    simp [isLine_cons, isLine_nil, isLineBreak_of_isPrintable hprintable]
  next =>
    have hhex (letter : Char) (hletter : isLineBreak letter = false) (width : Nat) :
        IsLine ('\\' :: letter :: hexText width codePoint) := by
      simp [isLine_cons, hbackslash, hletter, isLine_hexText]
    split
    · exact hhex 'x' (by decide) 2
    · split
      · exact hhex 'u' (by decide) 4
      · exact hhex 'U' (by decide) 8

theorem isLine_quoted (s : String) : IsLine (quoted s).toList := by
  have hquote : isLineBreak (quoteOf s.toList) = false := by
    unfold quoteOf
    split <;> decide
  rw [quoted, String.toList_ofList]
  refine isLine_append.2 ⟨isLine_cons.2 ⟨hquote, fun c hc ↦ ?_⟩, isLine_cons.2 ⟨hquote, isLine_nil⟩⟩
  obtain ⟨codePoint, _, hc⟩ := List.mem_flatMap.1 hc
  exact isLine_escape hquote codePoint c hc

end Text

/-! ## Numbers -/

namespace Double

open Text

theorem isLine_positional {digits : List Char} (h : IsLine digits) (exponent : Int) :
    IsLine (positional digits exponent) := by
  have hzero : isLineBreak '0' = false := by decide
  have hpoint : isLineBreak '.' = false := by decide
  unfold positional
  split
  · simp [isLine_append, isLine_cons, isLine_replicate, hzero, hpoint, h]
  · have hafter : IsLine (digits.drop (exponent.toNat + 1)) :=
      h.subset (List.drop_subset _ _)
    have htake : IsLine (digits.take (exponent.toNat + 1)) :=
      h.subset (List.take_subset _ _)
    simp only [isLine_append, isLine_cons]
    refine ⟨⟨htake, isLine_replicate _ hzero⟩, hpoint, ?_⟩
    split
    · simp [isLine_cons, hzero, isLine_nil]
    · exact hafter

theorem isLine_scientific {digits : List Char} (h : IsLine digits) (exponent : Int) :
    IsLine (scientific digits exponent) := by
  have hzero : isLineBreak '0' = false := by decide
  unfold scientific
  simp only [List.append_assoc, List.cons_append, isLine_append, isLine_cons]
  refine ⟨h.subset (List.take_subset _ _), ?_, by decide, ?_,
    isLine_replicate _ hzero, isLine_decimal _⟩
  · split
    · exact isLine_cons.2 ⟨by decide, h.subset (List.drop_subset _ _)⟩
    · exact isLine_nil
  · split <;> decide

theorem isLine_text (x : Double) : IsLine x.text.toList := by
  have hdigits : IsLine x.shortest.1 := by
    refine (isLine_decimal (shortestFrom x (leadingExponent x.magnitude.1 x.magnitude.2) 1 17).1
      ).subset fun c hc ↦ ?_
    exact List.mem_reverse.1 ((List.dropWhile_suffix _).subset (List.mem_reverse.1 hc))
  unfold text
  split
  · decide
  · rw [String.toList_ofList, isLine_append]
    constructor
    · split <;> decide
    · split
      · decide
      · split
        · decide
        · dsimp only
          split
          · exact isLine_positional hdigits _
          · exact isLine_scientific hdigits _

end Double

/-- The literal form of the value of a group is written on one line. -/
theorem GroupValue.isLine_literal (value : GroupValue) :
    Text.IsLine value.toValue.literal.toList := by
  cases value with
  | absent => decide
  | int n => exact Text.isLine_intText n
  | float x => exact x.isLine_text
  | text s => exact Text.isLine_quoted s

end GridPuzzle
