import GridPuzzle.Proofs.Sheet.Regions

/-!
# Blocks that move with their table

A block shows just the entries of the table that stand where its cells do, row by row and each of
them once. So it shows the same when rows are put above the table and columns to the left of it and
the block moves by as many: the clues and the regions that are read do not change, nor do the faults
of reading them.
-/

namespace GridPuzzle

open Fallible

/-! ## Tables in wider tables -/

/-- The outer table is the table with so many rows above it and so many columns to its left. -/
def IsShifted (down across : Nat) (table outer : Table) : Prop :=
  ∃ above below, outer = above ++ below ∧ above.length = down ∧
    List.Forall₂ (fun row line ↦ ∃ left, line = left ++ row ∧ left.length = across) table below

/-- What is put above and to the left of a table moves its entries and changes none of them. -/
theorem IsShifted.entryAt? {down across : Nat} {table outer : Table}
    (h : IsShifted down across table outer) (row col : Nat) :
    GridPuzzle.entryAt? outer ⟨down + row, across + col⟩ =
      GridPuzzle.entryAt? table ⟨row, col⟩ := by
  obtain ⟨above, below, rfl, rfl, hlines⟩ := h
  have hbelow : (above ++ below)[above.length + row]? = below[row]? := by
    rw [List.getElem?_append_right (Nat.le_add_right _ _), Nat.add_sub_cancel_left]
  unfold GridPuzzle.entryAt?
  rw [hbelow]
  by_cases hrow : row < table.length
  · have hrow' : row < below.length := hlines.length_eq ▸ hrow
    obtain ⟨left, hline, rfl⟩ := hlines.get hrow hrow'
    simp only [List.get_eq_getElem] at hline
    rw [List.getElem?_eq_getElem hrow, List.getElem?_eq_getElem hrow', Option.bind_some,
      Option.bind_some, hline, List.getElem?_append_right (Nat.le_add_right _ _),
      Nat.add_sub_cancel_left]
  · have hrow' : below.length ≤ row := hlines.length_eq ▸ Nat.le_of_not_lt hrow
    rw [List.getElem?_eq_none hrow', List.getElem?_eq_none (Nat.le_of_not_lt hrow)]
    rfl

namespace Block

variable {block : Block} {table : Table}

/-- The block that lies so many rows below and so many columns to the right. -/
def shift (block : Block) (down across : Nat) : Block :=
  { block with firstRow := block.firstRow + down, firstCol := block.firstCol + across }

theorem contentAt?_of_one_le (hrow : 1 ≤ block.firstRow) (hcol : 1 ≤ block.firstCol) (table : Table)
    (cell : Cell) : block.contentAt? table cell = entryAt? table
      ⟨(block.firstRow + cell.row - 1).toNat, (block.firstCol + cell.col - 1).toNat⟩ :=
  if_pos (by omega)

/-- A block that moves with its table shows the same contents, as long as it starts on the table:
a block that starts in front of the table would show what is put there. -/
theorem contentAt?_shift {down across : Nat} {outer : Table} (h : IsShifted down across table outer)
    (hrow : 1 ≤ block.firstRow) (hcol : 1 ≤ block.firstCol) (cell : Cell) :
    (block.shift down across).contentAt? outer cell = block.contentAt? table cell := by
  have hdown : (block.firstRow + down + cell.row - 1).toNat =
      down + (block.firstRow + cell.row - 1).toNat := by omega
  have hacross : (block.firstCol + across + cell.col - 1).toNat =
      across + (block.firstCol + cell.col - 1).toNat := by omega
  calc (block.shift down across).contentAt? outer cell
      = entryAt? outer ⟨(block.firstRow + down + cell.row - 1).toNat,
          (block.firstCol + across + cell.col - 1).toNat⟩ :=
        contentAt?_of_one_le (le_add_of_le_of_nonneg hrow (Int.natCast_nonneg down))
          (le_add_of_le_of_nonneg hcol (Int.natCast_nonneg across)) outer cell
    _ = entryAt? table
          ⟨(block.firstRow + cell.row - 1).toNat, (block.firstCol + cell.col - 1).toNat⟩ := by
        rw [hdown, hacross, h.entryAt?]
    _ = block.contentAt? table cell := (contentAt?_of_one_le hrow hcol table cell).symm

theorem cells_shift {down across : Nat} {outer : Table} (h : IsShifted down across table outer)
    (hrow : 1 ≤ block.firstRow) (hcol : 1 ≤ block.firstCol) :
    (block.shift down across).cells outer = block.cells table := by
  rw [cells_eq, cells_eq]
  simp only [contentAt?_shift h hrow hcol]
  rfl

/-! ## What is read from equal cells -/

section

variable {place : Block} {other : Table}

theorem clues_congr (h : place.cells other = block.cells table) (sheet : String) (kind : Value) :
    place.clues sheet kind other = block.clues sheet kind table := by
  rw [clues, clues, filledCells, filledCells, h]

theorem regionMap_congr (h : place.cells other = block.cells table)
    (hrows : place.rows = block.rows) (hcols : place.cols = block.cols) (sheet : String) :
    place.regionMap sheet other = block.regionMap sheet table := by
  rw [regionMap, regionMap, filledCells, filledCells, h, hrows, hcols]

/-- Apart from its size, a block is read through its cells only. -/
theorem readGrid_congr (h : place.cells other = block.cells table) (hrows : place.rows = block.rows)
    (hcols : place.cols = block.cols) (sheet : String) :
    place.readGrid sheet other = block.readGrid sheet table := by
  have hmap := regionMap_congr h hrows hcols sheet
  obtain ⟨frame, hframe, hblock⟩ :=
    toBlock?_read block.firstRow block.firstCol block.rows block.cols
  obtain ⟨frame', hframe', hplace⟩ :=
    toBlock?_read place.firstRow place.firstCol place.rows place.cols
  unfold readGrid readRegions
  rw [hframe, hframe', hrows, hcols]
  congr 1
  funext ⟨r, c⟩
  dsimp only
  congr 1
  funext _
  rw [ok_bind, ok_bind, hblock, hplace]
  dsimp only
  rw [hmap]

end

/-- Every clue of a block lies within the size of the block. -/
theorem lt_of_mem_clues {sheet : String} {kind : Value} {clues : List Clue}
    (h : block.clues sheet kind table = .ok clues) {clue : Clue} (hclue : clue ∈ clues) :
    (clue.cell.row : Int) < block.rows ∧ (clue.cell.col : Int) < block.cols := by
  obtain ⟨⟨cell, content⟩, hentry, hmade⟩ := exists_mem_of_mapM_eq_ok h hclue
  obtain ⟨n, -, rfl⟩ := map_eq_ok.1 hmade
  obtain ⟨hrow, hcol⟩ := mem_rectangle.1 (mem_cells.1 (List.mem_of_mem_filter hentry)).1
  dsimp only
  omega

/-- The cells of a block are just those within its size of which the table has the position, each
once and row by row, with the entry of the table. So rows above a table and columns to the left of
it change neither the clues nor the regions of a block that starts on the table and moves with it.
No clue lies outside the size of its block. -/
theorem cells_exact (block : Block) (table : Table) (sheet : String) (kind : Value) :
    (∀ cell content, (cell, content) ∈ block.cells table ↔
      ((cell.row : Int) < block.rows ∧ (cell.col : Int) < block.cols) ∧
        ∃ row col : Nat, (row : Int) = block.firstRow - 1 + cell.row ∧
          (col : Int) = block.firstCol - 1 + cell.col ∧
          table[row]?.bind (·[col]?) = some content) ∧
    ((block.cells table).Pairwise fun entry other ↦ entry.1.Precedes other.1) ∧
    ((block.cells table).map Prod.fst).Nodup ∧
    (∀ (down across : Nat) (outer : Table), IsShifted down across table outer →
      1 ≤ block.firstRow → 1 ≤ block.firstCol →
        readClues sheet kind (.int (block.firstRow + down)) (.int (block.firstCol + across))
            (.int block.rows) (.int block.cols) outer =
          readClues sheet kind (.int block.firstRow) (.int block.firstCol) (.int block.rows)
            (.int block.cols) table ∧
        readRegions sheet (.int (block.firstRow + down)) (.int (block.firstCol + across))
            (.int block.rows) (.int block.cols) outer =
          readRegions sheet (.int block.firstRow) (.int block.firstCol) (.int block.rows)
            (.int block.cols) table) ∧
    ∀ clues, readClues sheet kind (.int block.firstRow) (.int block.firstCol) (.int block.rows)
      (.int block.cols) table = .ok clues → ∀ clue ∈ clues,
        (clue.cell.row : Int) < block.rows ∧ (clue.cell.col : Int) < block.cols := by
  refine ⟨fun cell content ↦ ?_, block.pairwise_cells table, ?_,
    fun down across outer h hrow hcol ↦ ⟨?_, ?_⟩, fun clues h clue hclue ↦ ?_⟩
  · rw [mem_cells, mem_rectangle, contentAt?_eq_some]
    refine and_congr (by omega) (exists₂_congr fun row col ↦ ?_)
    exact and_congr (by omega) (and_congr_left' (by omega))
  · exact List.pairwise_map.2 ((block.pairwise_cells table).imp Cell.Precedes.ne)
  · rw [readClues_int, readClues_int]
    exact clues_congr (cells_shift h hrow hcol) sheet kind
  · exact readGrid_congr (cells_shift h hrow hcol) rfl rfl sheet
  · rw [readClues_int] at h
    exact lt_of_mem_clues h hclue

/-- Four digits, and the same digits below a title and an empty row and behind an empty column. -/
def fourGivens : Table := [[.int 5, .int 6], [.int 7, .int 8]]

def titledGivens : Table :=
  [[.text "Givens", .null, .null], [.null, .null, .null], [.null, .int 5, .int 6],
    [.null, .int 7, .int 8]]

theorem isShifted_titledGivens : IsShifted 2 1 fourGivens titledGivens :=
  ⟨titledGivens.take 2, titledGivens.drop 2, rfl, rfl,
    .cons ⟨[.null], rfl, rfl⟩ (.cons ⟨[.null], rfl, rfl⟩ .nil)⟩

/-- Four digits give the same clues below a title, and a block that starts in front of them shows
the first one of them only. -/
theorem cells_titledGivens :
    (∃ clues, readClues "s" (.text "numbers") (.int 3) (.int 2) (.int 2) (.int 2) titledGivens =
        .ok clues ∧
      clues.map (fun clue ↦ (clue.cell, clue.value)) =
        [(⟨0, 0⟩, .int 5), (⟨0, 1⟩, .int 6), (⟨1, 0⟩, .int 7), (⟨1, 1⟩, .int 8)] ∧
      ∀ clue ∈ clues, (clue.cell.row : Int) < 2 ∧ (clue.cell.col : Int) < 2) ∧
    (⟨1, 1⟩, .int 5) ∈ cells ⟨0, 0, 2, 2⟩ fourGivens ∧
    ∀ content, (⟨0, 0⟩, content) ∉ cells ⟨0, 0, 2, 2⟩ fourGivens := by
  obtain ⟨-, -, -, hshift, hinside⟩ := cells_exact ⟨1, 1, 2, 2⟩ fourGivens "s" (.text "numbers")
  obtain ⟨hclues, -⟩ := hshift 2 1 titledGivens isShifted_titledGivens (by decide) (by decide)
  obtain ⟨hcells, -⟩ := cells_exact ⟨0, 0, 2, 2⟩ fourGivens "s" (.text "numbers")
  refine ⟨⟨_, hclues.trans rfl, rfl, hinside _ rfl⟩, ?_, fun content h ↦ ?_⟩
  · exact (hcells _ _).2 ⟨⟨by decide, by decide⟩, 0, 0, rfl, rfl, rfl⟩
  · obtain ⟨-, row, _, hrow, -⟩ := (hcells _ _).1 h
    dsimp only at hrow
    omega

end Block

end GridPuzzle
