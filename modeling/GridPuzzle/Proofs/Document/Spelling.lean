import GridPuzzle.Document.CellReference
import GridPuzzle.Proofs.Text.Padded
import GridPuzzle.Proofs.VariableKind

/-!
# How references are spelled

A reference is the name of an array with two numerals in brackets behind it. The numerals may be
written in the digits of any script, with zeros in front, and white space may stand around each of
them. The reader of references accepts these spellings and no others, and it stops behind the
closing bracket, whatever text follows.
-/

namespace GridPuzzle.CellReference

open Text (IsPadded DigitsDenote)

/-! ## References -/

theorem isAsciiLetter_head {array : List Char} (h : isPlainIdentifier array = true) :
    array.head?.any Text.isAsciiLetter = true := by
  cases array with
  | nil => simp [isPlainIdentifier] at h
  | cons c rest => exact (Bool.and_eq_true_iff.1 h).1

/-- A reference as it may be spelled. -/
inductive Spells : List Char → CellReference → Prop
  | intro {array rowField row colField col : List Char} {m n : Nat}
    (harray : isPlainIdentifier array = true)
    (hrowField : IsPadded rowField row) (hrow : DigitsDenote row m)
    (hcolField : IsPadded colField col) (hcol : DigitsDenote col n) :
    Spells (array ++ '[' :: (rowField ++ ',' :: (colField ++ [']'])))
      ⟨String.ofList array, m, n, max row.length col.length⟩

/-- A number is read up to a character that is neither a digit nor white space. -/
theorem readNumber?_eq_some {c : Char} (hblank : Text.isBlank c = false)
    (hdigit : Text.isDigit c = false) {s rest : List Char} {n length : Nat} :
    readNumber? s = some (n, length, c :: rest) ↔ ∃ field digits, s = field ++ c :: rest ∧
      IsPadded field digits ∧ DigitsDenote digits n ∧ digits.length = length := by
  constructor
  · intro h
    obtain ⟨m, hm, heq⟩ := Option.map_eq_some_iff.1 h
    obtain ⟨rfl, hrest⟩ := Prod.mk.inj heq
    obtain ⟨rfl, hlast⟩ := Prod.mk.inj hrest
    obtain ⟨before, hstart, hbefore⟩ := Text.exists_trimStart s
    obtain ⟨behind, hend, hbehind⟩ :=
      Text.exists_trimStart ((Text.trimStart s).dropWhile Text.isDigit)
    let digits := (Text.trimStart s).takeWhile Text.isDigit
    refine ⟨before ++ (digits ++ behind), digits, ?_, ⟨before, behind, rfl, hbefore, hbehind⟩,
      Text.digits?_eq_some.1 hm, rfl⟩
    calc s
        = before ++ (digits ++ (Text.trimStart s).dropWhile Text.isDigit) := by
          rw [List.takeWhile_append_dropWhile, ← hstart]
      _ = before ++ (digits ++ (behind ++ c :: rest)) := by rw [← hlast, ← hend]
      _ = before ++ (digits ++ behind) ++ c :: rest := by simp only [List.append_assoc]
  · rintro ⟨field, digits, rfl, ⟨before, behind, rfl, hbefore, hbehind⟩, hdenotes, rfl⟩
    have htrim : Text.trimStart (before ++ (digits ++ behind) ++ c :: rest) =
        digits ++ (behind ++ c :: rest) := by
      rw [List.append_assoc, List.append_assoc]
      exact Text.trimStart_append hbefore (Text.startsText_append hdenotes.startsText _)
    have hstop : (behind ++ c :: rest).head?.any Text.isDigit = false := by
      cases behind with
      | nil => simpa using hdigit
      | cons d behind => simpa using Text.isDigit_of_isBlank (hbehind d List.mem_cons_self)
    obtain ⟨htake, hdrop⟩ := Text.span_append hdenotes.isDigit hstop
    have hbehind' : Text.trimStart (behind ++ c :: rest) = c :: rest :=
      Text.trimStart_append hbehind (by simp [Text.StartsText, hblank])
    unfold readNumber?
    simp only [htrim, htake, hdrop, hbehind', Text.digits?_eq_some.2 hdenotes, Option.map_some]

theorem expect?_eq_some {c : Char} {s rest : List Char} :
    expect? c s = some rest ↔ s = c :: rest := by
  cases s with
  | nil => simp [expect?]
  | cons d s => simp [expect?]

/-- What is read behind the opening bracket. -/
theorem readPlace?_eq_some {array : String} {s rest : List Char} {reference : CellReference} :
    readPlace? array s = some (reference, rest) ↔ ∃ rowField row colField col m n,
      s = rowField ++ ',' :: (colField ++ ']' :: rest) ∧
      IsPadded rowField row ∧ DigitsDenote row (m : Nat) ∧
      IsPadded colField col ∧ DigitsDenote col (n : Nat) ∧
      reference = ⟨array, m, n, max row.length col.length⟩ := by
  have hcomma := @readNumber?_eq_some ',' (by decide) (by decide)
  have hclosing := @readNumber?_eq_some ']' (by decide) (by decide)
  simp only [readPlace?, Option.bind_eq_bind, Option.pure_def, Option.bind_eq_some_iff,
    Prod.exists, expect?_eq_some, Option.some.injEq, Prod.mk.injEq]
  constructor
  · rintro ⟨m, _, _, hrow, behind, rfl, n, _, _, hcol, last, rfl, rfl, rfl⟩
    obtain ⟨rowField, row, rfl, hrowField, hm, rfl⟩ := hcomma.1 hrow
    obtain ⟨colField, col, rfl, hcolField, hn, rfl⟩ := hclosing.1 hcol
    exact ⟨rowField, row, colField, col, m, n, rfl, hrowField, hm, hcolField, hn, rfl⟩
  · rintro ⟨rowField, row, colField, col, m, n, rfl, hrowField, hm, hcolField, hn, rfl⟩
    exact ⟨m, row.length, _, hcomma.2 ⟨rowField, row, rfl, hrowField, hm, rfl⟩, _, rfl,
      n, col.length, _, hclosing.2 ⟨colField, col, rfl, hcolField, hn, rfl⟩, _, rfl, rfl, rfl⟩

/-- A reference is read exactly where one is spelled. -/
theorem read?_eq_some {s rest : List Char} {reference : CellReference} :
    read? s = some (reference, rest) ↔
      ∃ written, Spells written reference ∧ s = written ++ rest := by
  constructor
  · intro h
    unfold read? at h
    simp only [Option.bind_eq_bind, Option.bind_eq_some_iff, expect?_eq_some,
      readPlace?_eq_some] at h
    obtain ⟨⟨⟩, hguard, inside, hdrop, rowField, row, colField, col, m, n, rfl, hrowField, hrow,
      hcolField, hcol, rfl⟩ := h
    have harray : isPlainIdentifier (s.takeWhile Text.isIdentifierChar) = true :=
      isPlainIdentifier_takeWhile ((Option.guard_eq_some' _).1 hguard)
    refine ⟨_, .intro harray hrowField hrow hcolField hcol, ?_⟩
    calc s = s.takeWhile Text.isIdentifierChar ++ s.dropWhile Text.isIdentifierChar :=
        List.takeWhile_append_dropWhile.symm
      _ = _ := by
        rw [hdrop]
        simp
  · rintro ⟨_, @⟨array, rowField, row, colField, col, m, n, harray, hrowField, hrow, hcolField,
      hcol⟩, rfl⟩
    have hbracket : Text.isIdentifierChar '[' = false := by decide
    let inside := rowField ++ ',' :: (colField ++ ']' :: rest)
    have hplace : readPlace? (String.ofList array) inside =
        some (⟨String.ofList array, m, n, max row.length col.length⟩, rest) :=
      readPlace?_eq_some.2
        ⟨rowField, row, colField, col, m, n, rfl, hrowField, hrow, hcolField, hcol, rfl⟩
    have hstop : ('[' :: inside).head?.any Text.isIdentifierChar = false := by simp [hbracket]
    obtain ⟨htake, hdrop⟩ := Text.span_append (isIdentifierChar_of_plain harray) hstop
    have htext : array ++ '[' :: (rowField ++ ',' :: (colField ++ [']'])) ++ rest =
        array ++ '[' :: inside := by simp [inside]
    unfold read?
    simp only [htext, htake, hdrop, isAsciiLetter_head harray, guard_true, Option.pure_def,
      Option.bind_eq_bind, Option.bind_some, expect?, beq_self_eq_true, if_true]
    exact hplace

/-- A text consists of one reference exactly if it spells it. -/
theorem ofText?_eq_some {s : List Char} {reference : CellReference} :
    ofText? s = some reference ↔ Spells s reference := by
  have hread : ofText? s = some reference ↔ read? s = some (reference, []) := by
    unfold ofText?
    split
    next found hfound => simp [hfound]
    next hnone =>
      constructor
      · intro h
        cases h
      · intro h
        exact absurd h (hnone reference)
  rw [hread, read?_eq_some]
  constructor
  · rintro ⟨written, hspells, rfl⟩
    rwa [List.append_nil]
  · intro hspells
    exact ⟨s, hspells, by simp⟩

/-- A spelling starts with a letter and ends with a bracket. -/
theorem Spells.isFramed {s : List Char} {reference : CellReference} (h : Spells s reference) :
    Text.IsFramed s := by
  cases h with
  | @intro array rowField row colField col m n harray =>
    constructor
    · apply Text.startsText_append
      cases array with
      | nil => simp [isPlainIdentifier] at harray
      | cons c array =>
        have hc := isIdentifierChar_of_plain harray c List.mem_cons_self
        simp [Text.StartsText, Text.isBlank_of_isIdentifierChar hc]
    · apply Text.endsText_append
      have hclosing : Text.EndsText [']'] := by decide
      simpa using Text.endsText_append ('[' :: (rowField ++ ',' :: colField)) hclosing

/-! ## Elements of arrays -/

def placeText (row col : Nat) : List Char :=
  '[' :: (Text.decimal row ++ ',' :: ([' '] ++ (Text.decimal col ++ [']'])))

/-- The reference that an element of an array is. -/
def ofElement (array : List Char) (row col : Nat) : CellReference :=
  ⟨String.ofList array, row, col, max (Text.decimal row).length (Text.decimal col).length⟩

/-- An element is a spelling of its reference. -/
theorem spells_element {array : List Char} (harray : isPlainIdentifier array = true)
    (row col : Nat) : Spells (array ++ placeText row col) (ofElement array row col) := by
  have hspace : IsPadded ([' '] ++ Text.decimal col) (Text.decimal col) :=
    ⟨[' '], [], by simp, List.forall_mem_singleton.2 (by decide), by simp⟩
  have hspells := Spells.intro harray (.refl _) (Text.digitsDenote_decimal row) hspace
    (Text.digitsDenote_decimal col)
  simpa [placeText, ofElement] using hspells

theorem read?_element {array : List Char} (harray : isPlainIdentifier array = true) (row col : Nat)
    (rest : List Char) : read? (array ++ (placeText row col ++ rest)) =
      some (ofElement array row col, rest) :=
  read?_eq_some.2 ⟨_, spells_element harray row col, (List.append_assoc _ _ _).symm⟩

end GridPuzzle.CellReference
