import GridPuzzle.Address
import GridPuzzle.Proofs.Document.Spelling
import GridPuzzle.Proofs.Fallible

/-!
# Cell references as they are written and read

What is written for a cell is read as the family of its kind and the cell, so two references that
are equal belong to one family and one cell. A text is read if it spells a reference to a row and a
column that are counted from one, and what has been read can be written again unless its array is
reserved. How long a numeral may be matters to writing and to reading in the same way: what may not
be written could not be read.
-/

namespace GridPuzzle

open CellReference (Spells ofElement placeText)
open Text (IsPadded)

/-! ## Writing -/

theorem toList_elementText (array : String) (row col : Nat) :
    (elementText array row col).toList = array.toList ++ placeText (row + 1) (col + 1) := by
  have hnumeral (n : Nat) : (Text.intText ((n : Int) + 1)).toList = Text.decimal (n + 1) :=
    Text.toList_intText_natCast (n + 1)
  simp [elementText, toEmitted, placeText, hnumeral]

theorem isWritablePlace_iff {row col : Int} : isWritablePlace row col = true ↔
    Text.isWritable (row + 1) = true ∧ Text.isWritable (col + 1) = true := by
  rw [isWritablePlace, toEmitted]
  dsimp only
  rw [Bool.and_eq_true]

/-- A reference to a cell can be written if it is short enough to be read. -/
theorem isWritablePlace_eq (array : List Char) (row col : Nat) :
    isWritablePlace row col = (ofElement array (row + 1) (col + 1)).isReadable := by
  have hwritable (n : Nat) :
      Text.isWritable ((n : Int) + 1) = true ↔ (Text.decimal (n + 1)).length ≤ Text.maxDigits := by
    rw [← Text.isWritable_iff, Nat.cast_succ]
  rw [Bool.eq_iff_iff, isWritablePlace_iff, hwritable, hwritable]
  simp [CellReference.isReadable, ofElement]

section Plain

variable {kind array : String}

theorem arrayName_of_plain (hplain : isPlainIdentifier (family kind).toList = true)
    (hfree : isReserved (family kind) = false) : arrayName kind = .ok (family kind) := by
  have hidentifier : isIdentifier (family kind) = true := isIdentifier_of_cases (.inl hplain)
  unfold arrayName
  simp [hidentifier, hfree]

/-- An identifier is a family of its own. -/
theorem family_of_plain (hplain : isPlainIdentifier array.toList = true) :
    family array = array := by
  have hhyphen : '-' ∉ array.toList := fun hmem ↦
    absurd (isIdentifierChar_of_plain hplain '-' hmem) (by decide)
  rw [family, List.takeWhile_eq_self_iff.2 (bne_of_not_mem hhyphen), String.ofList_toList]

theorem cellRef_of_plain (hplain : isPlainIdentifier (family kind).toList = true)
    (hfree : isReserved (family kind) = false) (row col : Nat) : cellRef kind row col =
      if isWritablePlace row col then .ok (elementText (family kind) row col)
      else .error .wrongValue := by
  rw [cellRef, arrayName_of_plain hplain hfree]
  simp only [Fallible.ok_bind, Fallible.pure_eq_ok, Fallible.throw_eq_error]

/-! ## Reading -/

@[simp] theorem map_fromEmitted (row col : Nat) :
    Prod.map Int.toNat Int.toNat (fromEmitted row col) = (row - 1, col - 1) := by
  simp [fromEmitted]

/-- The texts that are read, and as what. -/
theorem parseCellRef_eq_ok {text : String} {row col : Nat} :
    parseCellRef text = .ok (array, row, col) ↔ ∃ written digits, IsPadded text.toList written ∧
      Spells written ⟨array, row + 1, col + 1, digits⟩ ∧ digits ≤ Text.maxDigits := by
  constructor
  · intro h
    unfold parseCellRef at h
    split at h
    next => cases h
    next reference hreference =>
      split at h
      next => cases h
      next hreadable =>
        split at h
        next => cases h
        next hbase =>
          have hspells := CellReference.ofText?_eq_some.1 hreference
          rw [map_fromEmitted] at h
          have hresult := Prod.mk.inj (Except.ok.inj h)
          obtain ⟨hrow, hcol⟩ := Prod.mk.inj hresult.2
          have hpositive : 1 ≤ reference.row ∧ 1 ≤ reference.col := by
            simp only [Bool.or_eq_true, decide_eq_true_eq] at hbase
            omega
          have hpadded : IsPadded text.toList (Text.trim text.toList) :=
            (Text.trim_eq_iff hspells.isFramed).1 rfl
          refine ⟨_, reference.digits, hpadded, ?_, ?_⟩
          · rw [← hresult.1, ← hrow, ← hcol, Nat.sub_add_cancel hpositive.1,
              Nat.sub_add_cancel hpositive.2]
            exact hspells
          · simpa [CellReference.isReadable] using hreadable
  · rintro ⟨written, digits, hpadded, hspells, hdigits⟩
    have hreference := CellReference.ofText?_eq_some.2 hspells
    rw [← (Text.trim_eq_iff hspells.isFramed).2 hpadded] at hreference
    unfold parseCellRef
    simp only [hreference, CellReference.isReadable, map_fromEmitted]
    simp [hdigits]

/-- The text of an element consists of one reference, however long its numerals are. -/
theorem ofText?_elementText (hplain : isPlainIdentifier array.toList = true) (row col : Nat) :
    CellReference.ofText? (Text.trim (elementText array row col).toList) =
      some (ofElement array.toList (row + 1) (col + 1)) := by
  have hspells := CellReference.spells_element hplain (row + 1) (col + 1)
  rw [toList_elementText, Text.trim_of_isFramed hspells.isFramed]
  exact CellReference.ofText?_eq_some.2 hspells

theorem parseCellRef_elementText (hplain : isPlainIdentifier array.toList = true) (row col : Nat) :
    parseCellRef (elementText array row col) =
      if isWritablePlace row col then .ok (array, row, col) else .error .wrongValue := by
  unfold parseCellRef
  rw [ofText?_elementText hplain, isWritablePlace_eq array.toList]
  simp only [map_fromEmitted]
  cases (ofElement array.toList (row + 1) (col + 1)).isReadable <;> simp [ofElement]

/-- An element is told by its text. -/
theorem elementText_inj {other : String} (hplain : isPlainIdentifier array.toList = true)
    (hother : isPlainIdentifier other.toList = true) {row col row' col' : Nat}
    (h : elementText array row col = elementText other row' col') :
    array = other ∧ row = row' ∧ col = col' := by
  have hread := ofText?_elementText hplain row col
  rw [h, ofText?_elementText hother, Option.some.injEq] at hread
  simp only [ofElement, String.ofList_toList, CellReference.mk.injEq] at hread
  exact ⟨hread.1.symm, by omega, by omega⟩

/-- What has been read can be written again, and then it is read in the same way. -/
theorem cellRef_of_parseCellRef {text : String} {row col : Nat}
    (h : parseCellRef text = .ok (array, row, col)) (hfree : isReserved array = false) :
    ∃ ref, cellRef array row col = .ok ref ∧ parseCellRef ref = .ok (array, row, col) := by
  obtain ⟨written, digits, -, hspells, hdigits⟩ := parseCellRef_eq_ok.1 h
  generalize hreference : (⟨array, row + 1, col + 1, digits⟩ : CellReference) = reference at hspells
  cases hspells with
  | @intro name rowField rowDigits colField colDigits m n hname _ hrow _ hcol =>
    obtain ⟨rfl, rfl, rfl, rfl⟩ := CellReference.mk.inj hreference
    have hplain : isPlainIdentifier (String.ofList name).toList = true := by
      rwa [String.toList_ofList]
    have hwritable {digits : List Char} {k : Nat}
        (hdenotes : Text.DigitsDenote digits (k + 1 : Nat))
        (hlength : digits.length ≤ Text.maxDigits) : Text.isWritable ((k : Int) + 1) = true :=
      Text.isWritable_of_lt_pow hlength hdenotes.lt_pow
    have hfamily := family_of_plain hplain
    have hcell := @cellRef_of_plain (String.ofList name) (hfamily.symm ▸ hplain)
      (hfamily.symm ▸ hfree) row col
    have hplace : isWritablePlace row col = true :=
      isWritablePlace_iff.2 ⟨hwritable hrow (by omega), hwritable hcol (by omega)⟩
    refine ⟨elementText (String.ofList name) row col, ?_, ?_⟩
    · rw [hcell, if_pos hplace, hfamily]
    · rw [parseCellRef_elementText hplain, if_pos hplace]

end Plain

/-! ## Both ways -/

/-- A reference that is written for a cell is read as the family of the kind and the cell. The text
of an element is read so whatever the size of its numbers, but a number too long to be written is
refused by both sides. Equal references belong to one family and one cell. The texts that are read
are those that spell a reference whose numbers are the coordinates counted from one, with white
space around it or without, and what was read can be written and read again. -/
theorem parseCellRef_cellRef :
    (∀ kind, isPlainIdentifier (family kind).toList = true → isReserved (family kind) = false →
      ∀ row col : Nat,
        CellReference.ofText? (Text.trim (elementText (family kind) row col).toList) =
          some (ofElement (family kind).toList (row + 1) (col + 1)) ∧
        cellRef kind row col = (if isWritablePlace row col then
          .ok (elementText (family kind) row col) else .error .wrongValue) ∧
        (cellRef kind row col >>= parseCellRef) = (if isWritablePlace row col then
          .ok (family kind, row, col) else .error .wrongValue)) ∧
    (∀ kind other, isPlainIdentifier (family kind).toList = true →
      isPlainIdentifier (family other).toList = true → ∀ row col row' col' : Nat,
        elementText (family kind) row col = elementText (family other) row' col' →
          family kind = family other ∧ row = row' ∧ col = col') ∧
    (∀ text array row col, parseCellRef text = .ok (array, row, col) ↔
      ∃ written digits, IsPadded text.toList written ∧
        Spells written ⟨array, row + 1, col + 1, digits⟩ ∧ digits ≤ Text.maxDigits) ∧
    ∀ text array row col, parseCellRef text = .ok (array, row, col) → isReserved array = false →
      ∃ ref, cellRef array row col = .ok ref ∧ parseCellRef ref = .ok (array, row, col) := by
  refine ⟨fun kind hplain hfree row col ↦ ⟨ofText?_elementText hplain row col,
    cellRef_of_plain hplain hfree row col, ?_⟩,
    fun kind other hplain hother row col row' col' ↦ elementText_inj hplain hother,
    fun text array row col ↦ parseCellRef_eq_ok,
    fun text array row col ↦ cellRef_of_parseCellRef⟩
  rw [cellRef_of_plain hplain hfree]
  cases hplace : isWritablePlace row col with
  | true => simp [parseCellRef_elementText hplain, hplace]
  | false => simp

/-- The cell in the second row and third column of the digits, written in the usual way, and spelled
with white space, a zero in front and a digit of another script. -/
theorem parseCellRef_numbers :
    isPlainIdentifier (family "numbers-all").toList = true ∧
      isReserved (family "numbers-all") = false ∧
      (cellRef "numbers-all" 1 2 >>= parseCellRef) = .ok ("numbers", 1, 2) ∧
      parseCellRef " numbers[\t02 ,٣]\n" = .ok ("numbers", 1, 2) ∧
      ∃ ref, cellRef "numbers" 1 2 = .ok ref ∧ parseCellRef ref = .ok ("numbers", 1, 2) := by
  have hplain : isPlainIdentifier (family "numbers-all").toList = true := by decide
  have hfree : isReserved (family "numbers-all") = false := by decide
  have hfamily : family "numbers-all" = "numbers" := by decide
  have hplace : isWritablePlace (1 : Nat) (2 : Nat) = true :=
    isWritablePlace_iff.2 ⟨Text.isWritable_of_lt (by decide), Text.isWritable_of_lt (by decide)⟩
  have hspelled : parseCellRef " numbers[\t02 ,٣]\n" = .ok ("numbers", 1, 2) := by
    have hreference : CellReference.ofText? (Text.trim " numbers[\t02 ,٣]\n".toList) =
        some ⟨"numbers", 2, 3, 2⟩ := by rfl
    rw [parseCellRef, hreference]
    rfl
  obtain ⟨-, -, hback⟩ := parseCellRef_cellRef.1 "numbers-all" hplain hfree 1 2
  rw [if_pos hplace, hfamily] at hback
  exact ⟨hplain, hfree, hback, hspelled,
    parseCellRef_cellRef.2.2.2 _ "numbers" 1 2 hspelled (by decide)⟩

end GridPuzzle
