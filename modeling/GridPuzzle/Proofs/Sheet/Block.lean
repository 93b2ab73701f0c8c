import GridPuzzle.Proofs.Fallible
import GridPuzzle.Proofs.Grid.Region
import GridPuzzle.Sheet.Reader

/-!
# The cells of a block

A block shows what stands on the sheet from its first row and column on: for every cell within its
size whose position exists in the table, the content of this position, row by row. A cell of a sheet
is empty or holds a truth value, a number, a text, a date or a moment.
-/

namespace GridPuzzle

open Fallible

/-! ## Reading order -/

/-- Whether a cell comes before another one when cells are read row by row. -/
def Cell.Precedes (cell other : Cell) : Prop :=
  cell.row < other.row ∨ cell.row = other.row ∧ cell.col < other.col

theorem Cell.Precedes.asymm {cell other : Cell} (h : cell.Precedes other) :
    ¬other.Precedes cell := by
  unfold Precedes at *
  omega

theorem Cell.Precedes.ne {cell other : Cell} (h : cell.Precedes other) : cell ≠ other := by
  rintro rfl
  exact h.asymm h

theorem pairwise_rectangle (rows cols : Nat) : (rectangle rows cols).Pairwise Cell.Precedes := by
  refine List.pairwise_flatMap.2 ⟨fun row _ ↦ ?_, ?_⟩
  · exact List.pairwise_map.2 (List.pairwise_lt_range.imp fun hlt ↦ .inr ⟨rfl, hlt⟩)
  · refine List.pairwise_lt_range.imp fun hlt cell hcell other hother ↦ ?_
    obtain ⟨_, -, rfl⟩ := List.mem_map.1 hcell
    obtain ⟨_, -, rfl⟩ := List.mem_map.1 hother
    exact .inl hlt

/-- The positions in a list ascend. -/
theorem pairwise_zipIdx {α : Type} (l : List α) : l.zipIdx.Pairwise fun a b ↦ a.2 < b.2 := by
  have hascend : (l.zipIdx.map Prod.snd).Pairwise (· < ·) := by
    rw [List.zipIdx_map_snd]
    exact List.pairwise_lt_range'
  exact List.pairwise_map.1 hascend

/-- Entries that are read in order are known from which entries there are. -/
theorem eq_of_pairwise_precedes {α : Type} {l m : List (Cell × α)}
    (hl : l.Pairwise fun a b ↦ a.1.Precedes b.1) (hm : m.Pairwise fun a b ↦ a.1.Precedes b.1)
    (h : ∀ entry, entry ∈ l ↔ entry ∈ m) : l = m := by
  have hne {l : List (Cell × α)} (hl : l.Pairwise fun a b ↦ a.1.Precedes b.1) : l.Nodup :=
    hl.imp fun hlt heq ↦ hlt.ne (congrArg Prod.fst heq)
  have hperm : l.Perm m := (List.perm_ext_iff_of_nodup (hne hl) (hne hm)).2 h
  exact hperm.eq_of_pairwise (fun _ _ _ _ hab hba ↦ absurd hba hab.asymm) hl hm

namespace Block

variable {block : Block} {table : Table}

/-- What the table holds where a cell of the block stands, if the sheet has this position. -/
def contentAt? (block : Block) (table : Table) (cell : Cell) : Option Value :=
  if 1 ≤ block.firstRow + cell.row ∧ 1 ≤ block.firstCol + cell.col then
    entryAt? table
      ⟨(block.firstRow + cell.row - 1).toNat, (block.firstCol + cell.col - 1).toNat⟩
  else none

theorem contentAt?_eq_some {cell : Cell} {content : Value} :
    block.contentAt? table cell = some content ↔
      ∃ row col : Nat, (row : Int) = block.firstRow + cell.row - 1 ∧
        (col : Int) = block.firstCol + cell.col - 1 ∧ entryAt? table ⟨row, col⟩ = some content := by
  unfold contentAt?
  split
  next h =>
    constructor
    · intro hentry
      exact ⟨_, _, Int.toNat_of_nonneg (by omega), Int.toNat_of_nonneg (by omega), hentry⟩
    · rintro ⟨row, col, hrow, hcol, hentry⟩
      rwa [← hrow, ← hcol, Int.toNat_natCast, Int.toNat_natCast]
  next h =>
    refine iff_of_false nofun ?_
    rintro ⟨row, col, hrow, hcol, -⟩
    omega

/-- A position is that of a cell of the block if the cell lies within the size of the block. -/
theorem cellAt?_eq_some {row col : Nat} {cell : Cell} : block.cellAt? row col = some cell ↔
    ((row : Int) = block.firstRow + cell.row - 1 ∧ (col : Int) = block.firstCol + cell.col - 1) ∧
      (cell.row : Int) < block.rows ∧ (cell.col : Int) < block.cols := by
  obtain ⟨cellRow, cellCol⟩ := cell
  have hwithin : isWithin row col block.rowBounds block.colBounds = true ↔
      (block.firstRow - 1 ≤ row ∧ (row : Int) ≤ block.rows + (block.firstRow - 1) - 1) ∧
        block.firstCol - 1 ≤ col ∧ (col : Int) ≤ block.cols + (block.firstCol - 1) - 1 := by
    simp [isWithin, rowBounds, colBounds, and_assoc]
  unfold cellAt?
  split
  next h =>
    rw [hwithin] at h
    simp only [rowBounds, colBounds, Option.some.injEq, Cell.mk.injEq]
    omega
  next h =>
    rw [hwithin] at h
    simp only [reduceCtorEq, false_iff]
    omega

theorem mem_cells {cell : Cell} {content : Value} : (cell, content) ∈ block.cells table ↔
    cell ∈ rectangle block.rows.toNat block.cols.toNat ∧
      block.contentAt? table cell = some content := by
  rw [contentAt?_eq_some, mem_rectangle, cells]
  simp only [List.mem_flatMap, List.mem_filterMap, Prod.exists, List.mk_mem_zipIdx_iff_getElem?,
    Option.map_eq_some_iff, Prod.mk.injEq, cellAt?_eq_some, entryAt?, Option.bind_eq_some_iff]
  constructor
  · rintro ⟨line, row, hline, found, col, hfound, own, ⟨⟨hrow, hcol⟩, hrows, hcols⟩, rfl, rfl⟩
    exact ⟨⟨by omega, by omega⟩, row, col, hrow, hcol, line, hline, hfound⟩
  · rintro ⟨⟨hrows, hcols⟩, row, col, hrow, hcol, line, hline, hfound⟩
    exact ⟨line, row, hline, content, col, hfound, cell, ⟨⟨hrow, hcol⟩, by omega, by omega⟩, rfl,
      rfl⟩

/-- The cells of a block are read in order. -/
theorem pairwise_cells (block : Block) (table : Table) :
    (block.cells table).Pairwise fun entry other ↦ entry.1.Precedes other.1 := by
  refine List.pairwise_flatMap.2 ⟨fun ⟨line, row⟩ _ ↦ ?_, ?_⟩
  · refine List.pairwise_filterMap.2 ((pairwise_zipIdx line).imp ?_)
    rintro ⟨content, col⟩ ⟨other, col'⟩ hlt _ hentry _ hentry'
    simp only [Option.map_eq_some_iff, cellAt?_eq_some] at hentry hentry'
    obtain ⟨cell, ⟨⟨hrow, hcol⟩, -⟩, rfl⟩ := hentry
    obtain ⟨cell', ⟨⟨hrow', hcol'⟩, -⟩, rfl⟩ := hentry'
    change cell.row < cell'.row ∨ cell.row = cell'.row ∧ cell.col < cell'.col
    dsimp only at *
    omega
  · refine (pairwise_zipIdx table).imp ?_
    rintro ⟨line, row⟩ ⟨line', row'⟩ hlt entry hentry entry' hentry'
    simp only [List.mem_filterMap, Option.map_eq_some_iff, cellAt?_eq_some] at hentry hentry'
    obtain ⟨_, -, cell, ⟨⟨hrow, -⟩, -⟩, rfl⟩ := hentry
    obtain ⟨_, -, cell', ⟨⟨hrow', -⟩, -⟩, rfl⟩ := hentry'
    refine .inl ?_
    dsimp only at *
    omega

/-- The cells of a block are those within its size whose position the sheet has, row by row. -/
theorem cells_eq (block : Block) (table : Table) :
    block.cells table = (rectangle block.rows.toNat block.cols.toNat).filterMap fun cell ↦
      (block.contentAt? table cell).map (cell, ·) := by
  refine eq_of_pairwise_precedes (block.pairwise_cells table) ?_ fun ⟨cell, content⟩ ↦ ?_
  · refine List.pairwise_filterMap.2 ((pairwise_rectangle _ _).imp ?_)
    intro cell other hlt entry hentry entry' hentry'
    obtain ⟨_, -, rfl⟩ := Option.map_eq_some_iff.1 hentry
    obtain ⟨_, -, rfl⟩ := Option.map_eq_some_iff.1 hentry'
    exact hlt
  · rw [mem_cells, List.mem_filterMap]
    constructor
    · rintro ⟨hcell, hcontent⟩
      exact ⟨cell, hcell, by rw [hcontent]; rfl⟩
    · rintro ⟨own, hown, hentry⟩
      obtain ⟨_, hcontent, heq⟩ := Option.map_eq_some_iff.1 hentry
      obtain ⟨rfl, rfl⟩ := Prod.mk.inj heq
      exact ⟨hown, hcontent⟩

/-! ## Cells with content -/

/-- The cells of a block that are not blank, row by row. -/
def given (block : Block) (table : Table) : List (Cell × Value) :=
  (rectangle block.rows.toNat block.cols.toNat).filterMap fun cell ↦
    ((block.contentAt? table cell).filter (!isBlankCell ·)).map (cell, ·)

theorem filledCells_eq (block : Block) (table : Table) :
    block.filledCells table = block.given table := by
  rw [filledCells, cells_eq, given, List.filter_filterMap]
  congr 1
  funext cell
  cases hcontent : block.contentAt? table cell with
  | none => rfl
  | some content => cases hblank : isBlankCell content <;> simp [Option.filter, hblank]

theorem mem_given {cell : Cell} {content : Value} : (cell, content) ∈ block.given table ↔
    (cell ∈ rectangle block.rows.toNat block.cols.toNat ∧
      block.contentAt? table cell = some content) ∧ isBlankCell content = false := by
  rw [← filledCells_eq, filledCells, List.mem_filter, mem_cells]
  simp

theorem pairwise_given (block : Block) (table : Table) :
    (block.given table).Pairwise fun entry other ↦ entry.1.Precedes other.1 := by
  rw [← filledCells_eq]
  exact (block.pairwise_cells table).filter _

end Block

/-! ## Sheets -/

/-- What a cell of a sheet can hold. -/
def Value.IsSheetContent : Value → Prop
  | .null | .bool _ | .int _ | .float _ | .text _ | .date _ | .moment _ => True
  | _ => False

/-- A table as it is read from a sheet. -/
def IsSheetTable (table : Table) : Prop := ∀ row ∈ table, ∀ content ∈ row, content.IsSheetContent

namespace Block

variable {block : Block} {table : Table}

theorem isSheetContent_of_contentAt? (htable : IsSheetTable table) {cell : Cell} {content : Value}
    (h : block.contentAt? table cell = some content) : content.IsSheetContent := by
  obtain ⟨row, col, -, -, hentry⟩ := contentAt?_eq_some.1 h
  obtain ⟨line, hline, hcontent⟩ := Option.bind_eq_some_iff.1 hentry
  exact htable line (List.mem_of_getElem? hline) content (List.mem_of_getElem? hcontent)

/-! ## Blocks that are given by integers -/

variable (firstRow firstCol rows cols : Int)

theorem toBlock?_read : ∃ frame,
    Frame.read (.int firstRow) (.int firstCol) (.int rows) (.int cols) = .ok frame ∧
      frame.toBlock? = some ⟨firstRow, firstCol, rows, cols⟩ := by
  refine ⟨_, rfl, ?_⟩
  simp only [Frame.toBlock?, Number.asInt?, Option.pure_def, Option.bind_eq_bind,
    Option.bind_some, Option.some.injEq, Block.mk.injEq]
  omega

theorem readClues_int (sheet : String) (kind : Value) (table : Table) :
    readClues sheet kind (.int firstRow) (.int firstCol) (.int rows) (.int cols) table =
      clues ⟨firstRow, firstCol, rows, cols⟩ sheet kind table := by
  obtain ⟨frame, hread, hblock⟩ := toBlock?_read firstRow firstCol rows cols
  rw [readClues, hread, ok_bind, hblock]

end Block

end GridPuzzle
