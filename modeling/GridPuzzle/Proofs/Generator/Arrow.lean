import GridPuzzle.Proofs.Constraint.Meaning
import GridPuzzle.Proofs.Generator.Answer

/-!
# What arrows say

The text of an arrow says that the digits along every further group sum to the number that the
digits of the pill denote, most significant digit first. Nothing is said without a pill or without a
further group. Text is written whatever the number of digits is, as long as the powers of ten in it
and the places of the cells can be written.
-/

namespace GridPuzzle.Arrow

open Fallible

variable {value : Assignment} {total : Int} {pill : Group} {shafts groups : List Group}

/-! ## Items -/

theorem isReadable_items (groups : List Group) : ∀ item ∈ items groups, item.IsReadable := by
  cases groups with
  | nil => simp [items]
  | cons pill shafts =>
    intro item hitem
    simp only [items] at hitem
    split at hitem
    next => simp at hitem
    next hpill =>
      obtain ⟨⟨shaft, index⟩, _, hitem⟩ := List.mem_flatMap.1 hitem
      simp only [shaftItems] at hitem
      split at hitem
      next => simp at hitem
      next hshaft =>
        simp only [List.mem_cons, List.not_mem_nil, or_false] at hitem
        obtain rfl | rfl := hitem
        · trivial
        · exact ⟨by simpa [Term.IsReadable] using hshaft, by simpa [Term.IsReadable] using hpill⟩

/-- What one shaft demands. -/
theorem hold_shaftItems (index : Nat) (shaft : Group) :
    Items.Hold value total (shaftItems pill.cells index shaft) ↔
      (shaft.cells ≠ [] → (shaft.cells.map value).sum = positional (pill.cells.map value)) := by
  unfold shaftItems
  split
  next hempty => simp [Items.Hold, List.isEmpty_iff.1 hempty]
  next hshaft =>
    have hne : shaft.cells ≠ [] := by simpa using hshaft
    simp [Items.Hold, Item.Holds, Term.eval, hne]

/-- What all shafts demand. -/
theorem hold_items (hpill : pill.cells ≠ []) :
    Items.Hold value total (items (pill :: shafts)) ↔ ∀ shaft ∈ shafts,
      shaft.cells ≠ [] → (shaft.cells.map value).sum = positional (pill.cells.map value) := by
  have hempty : ¬pill.cells.isEmpty = true := by simpa using hpill
  calc
    Items.Hold value total (items (pill :: shafts)) ↔ ∀ shaft ∈ shafts.zipIdx 1,
        shaft.1.cells ≠ [] →
          (shaft.1.cells.map value).sum = positional (pill.cells.map value) := by
      rw [items, if_neg hempty, Items.hold_flatMap]
      exact forall₂_congr fun shaft _ ↦ hold_shaftItems shaft.2 shaft.1
    _ ↔ ∀ shaft ∈ (shafts.zipIdx 1).map Prod.fst, shaft.cells ≠ [] →
        (shaft.cells.map value).sum = positional (pill.cells.map value) := by
      rw [List.forall_mem_map]
    _ ↔ _ := by rw [List.zipIdx_map_fst]

/-! ## Text -/

/-- The text of an arrow is written unless a number in it is too long. -/
theorem toGenerator_cases (groups : List Group) (placements : List Placement) (grid : Grid) :
    draft.toGenerator groups placements grid = .ok ⟨Items.text (items groups), []⟩ ∨
      draft.toGenerator groups placements grid = .error .unwritable ∧ (IsLong groups ∨
        ∃ cell ∈ groups.flatMap Group.cells, isWritablePlace cell.row cell.col = false) := by
  cases hpill : isWritablePill groups with
  | true =>
    have hdraft : draft groups placements grid = .ok ⟨items groups, []⟩ := if_pos hpill
    have hlong : ¬IsLong groups := fun hlong ↦ by
      simp [isWritablePill_of_isLong hlong] at hpill
    have hreads : ∀ item ∈ items groups, ∀ cell ∈ item.cells, cell ∈ groups.flatMap Group.cells :=
      fun item hitem ↦ (isDemand_draft hdraft item hitem).reads
    rw [Drafter.toGenerator, hdraft]
    exact (@Draft.emission_cases ⟨items groups, []⟩ _ hreads (isShort_items hlong)).imp_right
      (And.imp_right .inr)
  | false =>
    have hdraft : draft groups placements grid = .error .unwritable := if_neg (by simp [hpill])
    refine .inr ⟨by rw [Drafter.toGenerator, hdraft]; rfl, ?_⟩
    by_contra hnot
    obtain ⟨hlong, hplaces⟩ := not_or.1 hnot
    have hwritable := isWritablePill_of_not_isLong hlong (by simpa using hplaces)
    simp [hpill] at hwritable

/-- Nothing is written without a pill or without a further group. -/
theorem toGenerator_of_bare (h : groups.length < 2 ∨ ∃ pill ∈ groups.head?, pill.cells = [])
    (placements : List Placement) (grid : Grid) :
    draft.toGenerator groups placements grid = .ok ⟨"", []⟩ := by
  have hitems : items groups = [] ∧ isWritablePill groups = true := by
    match groups with
    | [] => exact ⟨rfl, rfl⟩
    | [pill] => simp [items, isWritablePill]
    | pill :: shaft :: shafts =>
      have hpill : pill.cells = [] := by simpa using h
      simp [items, isWritablePill, Term.isWritable, areWritableCells, hpill]
  have hdraft : draft groups placements grid = .ok ⟨items groups, []⟩ := if_pos hitems.2
  rw [Drafter.toGenerator, hdraft, hitems.1]
  rfl

/-! ## Numerals -/

def places (cells : List Cell) : List (Int × Int) := cells.map fun cell ↦ (cell.row, cell.col)

theorem cellRef_digitKind (cell : Cell) : cellRef digitKind cell.row cell.col =
    if isWritablePlace cell.row cell.col then .ok cell.digitText else .error .wrongValue := by
  have harray : arrayName digitKind = .ok digitKind := rfl
  simp only [cellRef, harray, ok_bind, pure_eq_ok, throw_eq_error, Cell.digitText]

/-- The digits of cells are written unless the place of one of them is too long. -/
theorem cellRefs_places (cells : List Cell) :
    cellRefs digitKind (places cells) = .ok (cells.map Cell.digitText) ∨
      cellRefs digitKind (places cells) = .error .wrongValue ∧
        ∃ cell ∈ cells, isWritablePlace cell.row cell.col = false := by
  cases hrefs : cellRefs digitKind (places cells) with
  | error e =>
    obtain ⟨place, hplace, he⟩ := mapM_eq_error hrefs
    obtain ⟨cell, hcell, rfl⟩ := List.mem_map.1 hplace
    rw [cellRef_digitKind] at he
    split at he
    next => cases he
    next hwritable =>
      obtain rfl := Except.error.inj he
      exact .inr ⟨rfl, cell, hcell, by simpa using hwritable⟩
  | ok refs =>
    have hall := mapM_eq_ok.1 hrefs
    rw [places, List.forall₂_map_left_iff] at hall
    left
    rw [Except.ok.injEq, eq_comm, ← List.forall₂_eq_eq_eq, List.forall₂_map_left_iff]
    refine hall.imp fun cell ref h ↦ ?_
    rw [cellRef_digitKind] at h
    split at h
    · exact Except.ok.inj h
    · cases h

/-- A numeral of the digits is written unless it or the place of a cell is too long. -/
theorem numeral_cases {cells : List Cell} (hne : cells ≠ []) :
    numeral digitKind (places cells) = .ok (Term.numeral cells).text ∨
      numeral digitKind (places cells) = .error .wrongValue ∧
        (Text.maxDigits < cells.length ∨
          ∃ cell ∈ cells, isWritablePlace cell.row cell.col = false) := by
  have hnonempty : ¬(places cells).isEmpty = true := by simpa [places] using hne
  have hnumeral : numeral digitKind (places cells) =
      cellRefs digitKind (places cells) >>= numeralOf := by
    unfold numeral
    rw [if_neg hnonempty]
  rw [hnumeral]
  obtain hrefs | ⟨hrefs, hcell⟩ := cellRefs_places cells
  · rw [hrefs, ok_bind, numeralOf, List.length_map]
    by_cases hlength : cells.length ≤ Text.maxDigits
    · exact .inl (if_pos hlength)
    · exact .inr ⟨if_neg hlength, .inl (by omega)⟩
  · exact .inr ⟨by rw [hrefs, error_bind], .inr hcell⟩

/-! ## Meaning -/

/-- The text of an arrow is empty if there is no pill or no further group. It says else that the
sum of every further group with a cell is the number that the digits of the pill denote, and the
numeral written for these has that value. The numeral of a single cell is the cell. -/
theorem says_items (groups : List Group) (placements : List Placement) (grid : Grid) :
    (groups.length < 2 ∨ (∃ pill ∈ groups.head?, pill.cells = []) →
      draft.toGenerator groups placements grid = .ok ⟨"", []⟩) ∧
    (draft.toGenerator groups placements grid = .ok ⟨Items.text (items groups), []⟩ ∨
      draft.toGenerator groups placements grid = .error .unwritable ∧ (IsLong groups ∨
        ∃ cell ∈ groups.flatMap Group.cells, isWritablePlace cell.row cell.col = false)) ∧
    (∀ pill shafts, groups = pill :: shafts → pill.cells ≠ [] → ∀ value total,
      Says (.ofDigits value total) (Items.text (items groups)) ↔ ∀ shaft ∈ shafts,
        shaft.cells ≠ [] → (shaft.cells.map value).sum = positional (pill.cells.map value)) ∧
    ∀ cells, cells ≠ [] →
      (numeral digitKind (places cells) = .ok (Term.numeral cells).text ∨
        numeral digitKind (places cells) = .error .wrongValue ∧
          (Text.maxDigits < cells.length ∨
            ∃ cell ∈ cells, isWritablePlace cell.row cell.col = false)) ∧
      (∀ cell, cells = [cell] → (Term.numeral cells).text = cell.digitText) ∧
      ∀ value total, (sum? (Token.all (Term.numeral cells).text.toList)).bind
        (sumOf? (.ofDigits value total)) = some (positional (cells.map value)) := by
  refine ⟨fun h ↦ toGenerator_of_bare h placements grid, toGenerator_cases groups placements grid,
    ?_, ?_⟩
  · rintro pill shafts rfl hpill value total
    rw [says_text (isReadable_items _), hold_items hpill]
  · intro cells hne
    refine ⟨numeral_cases hne, ?_, fun value total ↦ ?_⟩
    · rintro cell rfl
      rfl
    · have hread : (Term.numeral cells).IsReadable := hne
      rw [(Term.sumIsRead hread).reads]
      exact Term.sumOf?_summands value total (.numeral cells)

/-- An arrow with a pill of two cells and one shaft of three. -/
def twoDigits : List Group :=
  [⟨[⟨0, 0⟩, ⟨0, 1⟩], .absent⟩, ⟨[⟨1, 0⟩, ⟨1, 1⟩, ⟨1, 2⟩], .absent⟩]

/-- The pill reads twelve, and three fours sum to it. -/
theorem says_twoDigits : Says
    (.ofDigits (fun cell ↦ if cell.row = 0 then cell.col + 1 else 4) 0)
    (Items.text (items twoDigits)) :=
  ((says_items twoDigits [] ⟨2, 3, none, by decide, by decide⟩).2.2.1 _ _ rfl (by decide) _ _).2
    (by decide)

end GridPuzzle.Arrow
