import GridPuzzle.Proofs.Sheet.Numbering

/-!
# Regions from a block

A block of which every cell has a label is a grid with one region for each label, the regions being
numbered in the order in which the labels appear. So only which cells have the same label counts:
other labels in place of these give the same grid, and so do the numbers of the regions.
-/

namespace GridPuzzle

open Fallible

namespace Block

open Grid (OpenMap)
open Grid.OpenMap (Fits Holds)

/-! ## Blocks with labels -/

/-- The label that a block shows for a cell, if the cell has content. -/
def labelAt? (block : Block) (table : Table) (cell : Cell) : Option Label :=
  (block.contentAt? table cell).bind label?

/-- A block of which every cell has a label. -/
def IsLabelled (block : Block) (table : Table) : Prop :=
  ∀ cell ∈ rectangle block.rows.toNat block.cols.toNat,
    (block.labelAt? table cell).isSome = true

theorem fits_given (block : Block) (table : Table) :
    Fits block.rows.toNat block.cols.toNat ((block.given table).map Prod.fst) := by
  refine ⟨List.pairwise_map.2 ((block.pairwise_given table).imp fun h ↦ h.ne), fun cell hcell ↦ ?_⟩
  obtain ⟨entry, hentry, rfl⟩ := List.mem_map.1 hcell
  exact mem_rectangle.1 (mem_given.1 hentry).1.1

/-- The labels that a block shows are those of its contents. -/
theorem labelAt?_of_mem_given {block : Block} {table : Table} {entry : Cell × Value}
    (h : entry ∈ block.given table) : block.labelAt? table entry.1 = label? entry.2 := by
  rw [labelAt?, (mem_given.1 h).1.2, Option.bind_some]

section

variable {block : Block} {table : Table} (htable : IsSheetTable table)

include htable

theorem isSome_label?_of_mem_given {entry : Cell × Value} (h : entry ∈ block.given table) :
    (label? entry.2).isSome = true := by
  obtain ⟨⟨-, hcontent⟩, hblank⟩ := mem_given.1 h
  have hsheet := isSheetContent_of_contentAt? htable hcontent
  rw [Option.isSome_iff_ne_none, ne_eq, label?_eq_none_iff hsheet, hblank]
  exact Bool.false_ne_true

/-- The cells with content are those with a label. -/
theorem mem_given_iff {cell : Cell} {label : Label} :
    (∃ content, (cell, content) ∈ block.given table ∧ label? content = some label) ↔
      cell ∈ rectangle block.rows.toNat block.cols.toNat ∧
        block.labelAt? table cell = some label := by
  rw [labelAt?, Option.bind_eq_some_iff]
  constructor
  · rintro ⟨content, hmem, hlabel⟩
    obtain ⟨⟨hcell, hcontent⟩, -⟩ := mem_given.1 hmem
    exact ⟨hcell, content, hcontent, hlabel⟩
  · rintro ⟨hcell, content, hcontent, hlabel⟩
    have hsheet := isSheetContent_of_contentAt? htable hcontent
    refine ⟨content, mem_given.2 ⟨⟨hcell, hcontent⟩, ?_⟩, hlabel⟩
    rw [← Bool.not_eq_true, ← label?_eq_none_iff hsheet, hlabel]
    exact Option.some_ne_none label

theorem isLabelled_iff : block.IsLabelled table ↔
    ∀ cell : Cell, cell.row < block.rows.toNat ∧ cell.col < block.cols.toNat →
      cell ∈ (block.given table).map Prod.fst := by
  simp only [IsLabelled, mem_rectangle, Option.isSome_iff_exists, List.mem_map, Prod.exists,
    exists_and_right, exists_eq_right]
  refine forall₂_congr fun cell hcell ↦ ?_
  constructor
  · rintro ⟨label, hlabel⟩
    obtain ⟨content, hmem, -⟩ := (mem_given_iff htable).2 ⟨mem_rectangle.2 hcell, hlabel⟩
    exact ⟨content, hmem⟩
  · rintro ⟨content, hmem⟩
    obtain ⟨label, hlabel⟩ :=
      Option.isSome_iff_exists.1 (isSome_label?_of_mem_given htable hmem)
    exact ⟨label, ((mem_given_iff htable).1 ⟨content, hmem, hlabel⟩).2⟩

/-- The map of a block is that of its labels by number, unless a cell has no label. -/
theorem regionMap_cases (sheet : String) : ∃ state known placed,
    IsNumbered block.rows.toNat block.cols.toNat (block.given table) state known placed ∧
      (block.IsLabelled table ∧ block.regionMap sheet table = .ok state.1 ∨
        ¬block.IsLabelled table ∧
          block.regionMap sheet table = .error (.regionBlanks sheet)) := by
  obtain ⟨state, known, placed, hstate, hnumbered⟩ := exists_isNumbered (block.given table)
    (fun entry ↦ isSome_label?_of_mem_given htable) (block.fits_given table)
  have hopen : state.1.any (·.any Option.isNone) = true ↔ ¬block.IsLabelled table := by
    rw [Grid.any_isNone_iff hnumbered.holds, isLabelled_iff htable, hnumbered.map_fst]
    simp only [not_forall, exists_prop]
  have hfold : (block.filledCells table).foldlM addLabel
      (OpenMap.empty block.rows block.cols, []) = .ok state := by
    rw [filledCells_eq]
    exact hstate
  refine ⟨state, known, placed, hnumbered, ?_⟩
  unfold regionMap
  dsimp only
  rw [hfold, ok_bind]
  by_cases hlabelled : block.IsLabelled table
  · rw [if_neg (hopen.not.2 (not_not.2 hlabelled))]
    exact .inl ⟨hlabelled, rfl⟩
  · rw [if_pos (hopen.2 hlabelled)]
    exact .inr ⟨hlabelled, rfl⟩

/-- A block in which every cell has a label has content at all cells, row by row. -/
theorem map_fst_given (h : block.IsLabelled table) :
    (block.given table).map Prod.fst = rectangle block.rows.toNat block.cols.toNat := by
  have hcell : ∀ cell ∈ rectangle block.rows.toNat block.cols.toNat,
      (((block.contentAt? table cell).filter (!isBlankCell ·)).map (cell, ·)).map Prod.fst =
        some cell := by
    intro cell hcell
    obtain ⟨⟨_, content⟩, hmem, rfl⟩ :=
      List.mem_map.1 ((isLabelled_iff htable).1 h cell (mem_rectangle.1 hcell))
    obtain ⟨⟨-, hcontent⟩, hblank⟩ := mem_given.1 hmem
    simp [hcontent, hblank]
  rw [given, List.map_filterMap, List.filterMap_congr hcell, List.filterMap_some]

/-- A grid with one region for each label of a block, in the order of the labels. -/
structure IsShownBy (block : Block) (table : Table) (grid : Grid) : Prop where
  rows_eq : grid.rows = block.rows.toNat
  cols_eq : grid.cols = block.cols.toNat
  mapped : grid.regions.isSome = true
  joined : ∀ cell ∈ grid.cells, ∀ other ∈ grid.cells,
    grid.regionOf? cell = grid.regionOf? other ↔
      block.labelAt? table cell = block.labelAt? table other
  inOrder : IsNumberedInOrder grid.regionIds

section

variable {state : OpenMap × List Value} {known : List Label} {placed : List (Cell × Nat)}
  (h : IsNumbered block.rows.toNat block.cols.toNat (block.given table) state known placed)
  (hlabelled : block.IsLabelled table)

include h hlabelled

/-- A map of the numbers of all labels makes a grid, for the numbers have no gap. -/
theorem IsNumbered.exists_grid (hrows : 0 < block.rows.toNat) (hcols : 0 < block.cols.toNat) :
    ∃ grid, Grid.ofOpenMap block.rows.toNat block.cols.toNat state.1 = .ok grid ∧
      (grid.rows = block.rows.toNat ∧ grid.cols = block.cols.toNat) ∧
      grid.regions.isSome = true ∧
      ∀ place ∈ placed, grid.regionOf? place.1 = some (place.2 : Int) := by
  obtain ⟨ids, hshape, hmatrix, hentry⟩ := Grid.ofOpenMap_of_full h.holds fun cell hcell ↦
    h.map_fst ▸ (isLabelled_iff htable).1 hlabelled cell hcell
  have hids (id : Int) : id ∈ ids.flatten ↔ id ∈ numbersOf placed := by
    rw [mem_flatten_iff, numbersOf, List.mem_map]
    simp only [hentry]
    constructor
    · rintro ⟨cell, region, rfl, hmem⟩
      exact ⟨(cell, region), hmem, rfl⟩
    · rintro ⟨⟨cell, region⟩, hmem, rfl⟩
      exact ⟨cell, region, rfl, hmem⟩
  have hdense : IsDense ids.flatten :=
    isDense_of_mem fun id ↦ (hids id).trans (h.mem_numbersOf id)
  rw [hmatrix, Grid.ofMatrix_of_hasShape hrows hcols hshape, dif_pos hdense]
  refine ⟨_, rfl, ⟨rfl, rfl⟩, rfl, fun place hplace ↦ ?_⟩
  rw [Grid.regionOf?_eq rfl, hentry]
  exact ⟨place.2, rfl, hplace⟩

theorem IsNumbered.isShownBy {grid : Grid}
    (hsize : grid.rows = block.rows.toNat ∧ grid.cols = block.cols.toNat)
    (hmapped : grid.regions.isSome = true)
    (hregion : ∀ place ∈ placed, grid.regionOf? place.1 = some (place.2 : Int)) :
    IsShownBy block table grid where
  rows_eq := hsize.1
  cols_eq := hsize.2
  mapped := hmapped
  joined := by
    intro cell hcell other hother
    rw [Grid.cells, hsize.1, hsize.2, ← map_fst_given htable hlabelled] at hcell hother
    obtain ⟨entry, hentry, rfl⟩ := List.mem_map.1 hcell
    obtain ⟨entry', hentry', rfl⟩ := List.mem_map.1 hother
    obtain ⟨id, id', hid, hid', hsame⟩ := h.exists_number_eq_iff hentry hentry'
    rw [hregion _ hid, hregion _ hid', labelAt?_of_mem_given hentry, labelAt?_of_mem_given hentry',
      ← hsame, Option.some.injEq, Int.natCast_inj]
  inOrder := by
    have hcells : grid.cells = placed.map Prod.fst := by
      rw [h.map_fst, map_fst_given htable hlabelled, Grid.cells, hsize.1, hsize.2]
    have hids : grid.regionIds = numbersOf placed := by
      rw [Grid.regionIds, hcells, List.filterMap_map, numbersOf, ← List.filterMap_eq_map']
      exact List.filterMap_congr hregion
    rw [hids]
    exact h.inOrder

end

/-- A block shows a grid if every cell has a label, and is refused because of its blanks otherwise.
-/
theorem regions_cases (sheet : String) (hrows : 0 < block.rows) (hcols : 0 < block.cols) :
    (block.IsLabelled table ∧
      ∃ grid, block.regions sheet table = .ok grid ∧ IsShownBy block table grid) ∨
    (¬block.IsLabelled table ∧
      block.regions sheet table = .error (.regionBlanks sheet)) := by
  obtain ⟨state, known, placed, hnumbered, ⟨hlabelled, hmap⟩ | ⟨hnot, hmap⟩⟩ :=
    regionMap_cases htable sheet
  · obtain ⟨grid, hgrid, hsize, hmapped, hregion⟩ :=
      hnumbered.exists_grid htable hlabelled (Int.pos_iff_toNat_pos.1 hrows)
        (Int.pos_iff_toNat_pos.1 hcols)
    rw [Int.toNat_of_nonneg hrows.le, Int.toNat_of_nonneg hcols.le] at hgrid
    exact .inl ⟨hlabelled, grid, by rw [regions, hmap, ok_bind, hgrid],
      hnumbered.isShownBy htable hlabelled hsize hmapped hregion⟩
  · exact .inr ⟨hnot, by rw [regions, hmap, error_bind]⟩

end

/-! ## Blocks that are given by integers -/

def readGrid (block : Block) (sheet : String) (table : Table) : Except Error Grid :=
  readRegions sheet (.int block.firstRow) (.int block.firstCol) (.int block.rows)
    (.int block.cols) table

variable {block : Block} {table : Table}

/-- A block of integers is read if its columns can be counted. -/
theorem readGrid_eq (hrows : 0 < block.rows) (hcols : 0 < block.cols) (sheet : String)
    (table : Table) : block.readGrid sheet table =
      Grid.checkWidth block.rows block.cols >>= fun _ ↦ block.regions sheet table := by
  obtain ⟨firstRow, firstCol, rows, cols⟩ := block
  lift rows to ℕ using hrows.le
  lift cols to ℕ using hcols.le
  obtain ⟨frame, hframe, hblock⟩ := toBlock?_read firstRow firstCol rows cols
  unfold readGrid readRegions
  rw [Grid.readCounts_int, ok_bind]
  dsimp only
  congr 1
  funext _
  rw [hframe, ok_bind, hblock]
  dsimp only
  rw [regions]
  congr 1
  funext map
  rw [Grid.readSide_natCast (Int.natCast_pos.1 hrows),
    Grid.readSide_natCast (Int.natCast_pos.1 hcols)]
  rfl

/-! ## Other labels -/

def shownLabels (block : Block) (table : Table) : Set Label :=
  {label | ∃ cell ∈ rectangle block.rows.toNat block.cols.toNat,
    block.labelAt? table cell = some label}

/-- Another table shows renamed labels in place of those of a block, and blanks where it does. -/
def IsRelabelled (block : Block) (rename : Label → Label) (table other : Table) : Prop :=
  ∀ cell ∈ rectangle block.rows.toNat block.cols.toNat,
    block.labelAt? other cell = (block.labelAt? table cell).map rename

/-- Another table shows the numbers of the regions of a grid. -/
def ShowsIds (place : Block) (other : Table) (grid : Grid) : Prop :=
  ∀ cell id, grid.regionOf? cell = some id → place.contentAt? other cell = some (.int id)

/-- Blocks that join the same cells show one grid. -/
theorem IsShownBy.unique {place : Block} {other : Table} {grid made : Grid}
    (h : IsShownBy block table grid) (hmade : IsShownBy place other made)
    (hrows : place.rows = block.rows) (hcols : place.cols = block.cols)
    (hjoined : ∀ cell ∈ grid.cells, ∀ cell' ∈ grid.cells,
      grid.regionOf? cell = grid.regionOf? cell' ↔
        place.labelAt? other cell = place.labelAt? other cell') : grid = made := by
  have hsize : grid.rows = made.rows ∧ grid.cols = made.cols := by
    rw [h.rows_eq, h.cols_eq, hmade.rows_eq, hmade.cols_eq, hrows, hcols]
    exact ⟨rfl, rfl⟩
  have hcells : made.cells = grid.cells := by rw [Grid.cells, Grid.cells, hsize.1, hsize.2]
  refine Grid.eq_of_isNumberedInOrder h.mapped hmade.mapped hsize.1 hsize.2 h.inOrder
    hmade.inOrder fun cell hcell cell' hcell' ↦ ?_
  rw [hjoined cell hcell cell' hcell']
  exact (hmade.joined cell (hcells ▸ hcell) cell' (hcells ▸ hcell')).symm

theorem IsRelabelled.regions_eq {rename : Label → Label} {other : Table}
    (h : block.IsRelabelled rename table other) (htable : IsSheetTable table)
    (hother : IsSheetTable other) (hinj : Set.InjOn rename (block.shownLabels table))
    (hrows : 0 < block.rows) (hcols : 0 < block.cols) (sheet : String) :
    block.regions sheet other = block.regions sheet table := by
  have hlabelled : block.IsLabelled other ↔ block.IsLabelled table := by
    refine forall₂_congr fun cell hcell ↦ ?_
    rw [h cell hcell, Option.isSome_map]
  obtain ⟨hall, grid, hgrid, hshown⟩ | ⟨hnot, hblank⟩ := regions_cases htable sheet hrows hcols
  · obtain ⟨-, made, hmade, hmadeShown⟩ | ⟨hblank, -⟩ := regions_cases hother sheet hrows hcols
    · rw [hgrid, hmade]
      congr 1
      refine (hshown.unique hmadeShown rfl rfl fun cell hcell cell' hcell' ↦ ?_).symm
      rw [hshown.joined cell hcell cell' hcell']
      rw [Grid.cells, hshown.rows_eq, hshown.cols_eq] at hcell hcell'
      obtain ⟨label, hlabel⟩ := Option.isSome_iff_exists.1 (hall cell hcell)
      obtain ⟨label', hlabel'⟩ := Option.isSome_iff_exists.1 (hall cell' hcell')
      rw [h cell hcell, h cell' hcell', hlabel, hlabel', Option.map_some, Option.map_some,
        Option.some.injEq, Option.some.injEq]
      exact (hinj.eq_iff ⟨cell, hcell, hlabel⟩ ⟨cell', hcell', hlabel'⟩).symm
    · exact absurd (hlabelled.2 hall) hblank
  · obtain ⟨hall, -⟩ | ⟨-, hmade⟩ := regions_cases hother sheet hrows hcols
    · exact absurd (hlabelled.1 hall) hnot
    · rw [hblank, hmade]

theorem ShowsIds.labelAt? {place : Block} {other : Table} {grid : Grid}
    (h : place.ShowsIds other grid) {cell : Cell} {id : Int} (hid : grid.regionOf? cell = some id) :
    place.labelAt? other cell = some (.number (.finite id)) := by
  rw [Block.labelAt?, h cell id hid]
  rfl

/-- The numbers of the regions of a grid as a table. -/
def idTable (grid : Grid) : Table :=
  match grid.regions with
  | none => []
  | some map => map.ids.map (·.map .int)

theorem isSheetTable_idTable (grid : Grid) : IsSheetTable (idTable grid) := by
  intro row hrow content hcontent
  unfold idTable at hrow
  split at hrow
  next => cases hrow
  next map _ =>
    obtain ⟨ids, -, rfl⟩ := List.mem_map.1 hrow
    obtain ⟨id, -, rfl⟩ := List.mem_map.1 hcontent
    trivial

theorem showsIds_idTable (grid : Grid) :
    ShowsIds ⟨1, 1, grid.rows, grid.cols⟩ (idTable grid) grid := by
  intro cell id hid
  have hentry : entryAt? (idTable grid) cell = some (.int id) := by
    cases hmap : grid.regions with
    | none => simp [Grid.regionOf?, hmap] at hid
    | some map =>
      rw [idTable, hmap, entryAt?_map, ← Grid.regionOf?_eq hmap, hid]
      rfl
  exact contentAt?_eq_some.2 ⟨cell.row, cell.col, (add_sub_cancel_left 1 _).symm,
    (add_sub_cancel_left 1 _).symm, hentry⟩

/-- The numbers of the regions of a grid give the grid again. -/
theorem IsShownBy.regions_of_showsIds {grid : Grid} (h : IsShownBy block table grid)
    {place : Block} {other : Table} (hother : IsSheetTable other)
    (hrows : place.rows = block.rows) (hcols : place.cols = block.cols)
    (hrowsPos : 0 < block.rows) (hcolsPos : 0 < block.cols) (hids : place.ShowsIds other grid)
    (sheet : String) : place.regions sheet other = .ok grid := by
  have hregion (cell : Cell) (hcell : cell ∈ grid.cells) :=
    Grid.exists_regionOf? h.mapped (Grid.mem_cells.1 hcell)
  obtain ⟨-, made, hmade, hmadeShown⟩ | ⟨hblank, -⟩ :=
    regions_cases hother sheet (hrows ▸ hrowsPos) (hcols ▸ hcolsPos)
  · rw [hmade]
    congr 1
    refine (h.unique hmadeShown hrows hcols fun cell hcell cell' hcell' ↦ ?_).symm
    obtain ⟨id, hid⟩ := hregion cell hcell
    obtain ⟨id', hid'⟩ := hregion cell' hcell'
    rw [hid, hid', hids.labelAt? hid, hids.labelAt? hid']
    simp
  · refine absurd (fun cell hcell ↦ ?_) hblank
    rw [hrows, hcols, ← h.rows_eq, ← h.cols_eq] at hcell
    obtain ⟨id, hid⟩ := hregion cell hcell
    rw [hids.labelAt? hid]
    rfl

/-- A block of a sheet is read as regions just if every cell of it has a label, and is refused
because of its blanks otherwise. The grid then has one region for each label, and row by row each
region that is met first is numbered one above all before. So an injective renaming of the labels
changes nothing, and the numbers of the regions are read as the same grid. All this holds as far as
columns can be counted; there is no map of more. -/
theorem readGrid_of_sheet {table : Table} (htable : IsSheetTable table) (sheet : String)
    {block : Block} (hrows : 0 < block.rows) (hcols : 0 < block.cols) :
    (Grid.leastUncountable ≤ block.cols →
      block.readGrid sheet table = .error (.misuse .overflow)) ∧
    (block.cols < Grid.leastUncountable →
      ((∃ grid, block.readGrid sheet table = .ok grid) ↔ block.IsLabelled table) ∧
      ∀ e, block.readGrid sheet table = .error e →
        e = .regionBlanks sheet ∧ e.settled.category = .configuration) ∧
    (∀ grid, block.readGrid sheet table = .ok grid → IsShownBy block table grid ∧
      ∀ (place : Block) (other : Table), place.rows = block.rows → place.cols = block.cols →
        IsSheetTable other → place.ShowsIds other grid → place.readGrid sheet other = .ok grid) ∧
    ∀ (rename : Label → Label) (other : Table), IsSheetTable other →
      Set.InjOn rename (block.shownLabels table) → block.IsRelabelled rename table other →
        block.readGrid sheet other = block.readGrid sheet table := by
  have hread := readGrid_eq hrows hcols sheet
  refine ⟨fun hwide ↦ ?_, fun hwidth ↦ ?_, fun grid hgrid ↦ ?_,
    fun rename other hother hinj hrenamed ↦ ?_⟩
  · rw [hread, Grid.checkWidth_of_le hrows hwide, error_bind]
  · rw [hread, Grid.checkWidth_of_lt hcols hwidth, ok_bind]
    obtain ⟨hlabelled, grid, hgrid, -⟩ | ⟨hnot, hblank⟩ := regions_cases htable sheet hrows hcols
    · rw [hgrid]
      exact ⟨⟨fun _ ↦ hlabelled, fun _ ↦ ⟨grid, rfl⟩⟩, nofun⟩
    · rw [hblank]
      refine ⟨⟨nofun, fun h ↦ absurd h hnot⟩, fun e he ↦ ?_⟩
      obtain rfl := Except.error.inj he
      exact ⟨rfl, rfl⟩
  · rw [hread] at hgrid
    obtain ⟨_, hwidth, hgrid⟩ := bind_eq_ok.1 hgrid
    obtain ⟨-, made, hmade, hshown⟩ | ⟨-, hblank⟩ := regions_cases htable sheet hrows hcols
    · obtain rfl := Except.ok.inj (hmade.symm.trans hgrid)
      refine ⟨hshown, fun place other hplaceRows hplaceCols hother hids ↦ ?_⟩
      rw [readGrid_eq (hplaceRows ▸ hrows) (hplaceCols ▸ hcols), hplaceRows, hplaceCols, hwidth,
        ok_bind]
      exact hshown.regions_of_showsIds hother hplaceRows hplaceCols hrows hcols hids sheet
    · rw [hblank] at hgrid
      cases hgrid
  · rw [hread, hread, hrenamed.regions_eq htable hother hinj hrows hcols sheet]

/-- A block with a cell that the sheet does not have is refused for its width, which cannot be
counted, and not for this blank. -/
theorem readGrid_uncountable : ¬IsLabelled ⟨1, 1, 1, 2 ^ 63⟩ [[.text "a"]] ∧
    readGrid ⟨1, 1, 1, 2 ^ 63⟩ "s" [[.text "a"]] = .error (.misuse .overflow) ∧
    (Error.misuse .overflow).settled.category ≠ .configuration := by
  have hwide : Grid.checkWidth 1 (2 ^ 63) = .error (.misuse .overflow) := rfl
  refine ⟨fun h ↦ ?_, ?_, by decide⟩
  · have hcell : (⟨0, 1⟩ : Cell) ∈ rectangle (1 : Int).toNat ((2 : Int) ^ 63).toNat :=
      mem_rectangle.2 ⟨by decide, by decide⟩
    have hlabel := h ⟨0, 1⟩ hcell
    cases hlabel
  · rw [readGrid_eq (by decide) (by decide), hwide, error_bind]

/-- A number between two texts that differ in the white space around them. -/
def numberBetween (left : String) (n : Int) (right : String) : Table :=
  [[.text left, .int n, .text right]]

theorem mem_rectangle_one_three {cell : Cell} :
    cell ∈ rectangle 1 3 ↔ cell = ⟨0, 0⟩ ∨ cell = ⟨0, 1⟩ ∨ cell = ⟨0, 2⟩ := by
  have hcells : rectangle 1 3 = [⟨0, 0⟩, ⟨0, 1⟩, ⟨0, 2⟩] := rfl
  simp [hcells]

theorem isShownBy_splitRow :
    IsShownBy ⟨1, 1, 1, 3⟩ (numberBetween " a" 1 "a") Grid.splitRow where
  rows_eq := rfl
  cols_eq := rfl
  mapped := rfl
  joined := by
    have hcells : Grid.splitRow.cells = [⟨0, 0⟩, ⟨0, 1⟩, ⟨0, 2⟩] := rfl
    have hleft : labelAt? ⟨1, 1, 1, 3⟩ (numberBetween " a" 1 "a") ⟨0, 0⟩ = some (.text "a") := rfl
    have hright : labelAt? ⟨1, 1, 1, 3⟩ (numberBetween " a" 1 "a") ⟨0, 2⟩ = some (.text "a") := rfl
    have hmiddle : labelAt? ⟨1, 1, 1, 3⟩ (numberBetween " a" 1 "a") ⟨0, 1⟩ =
      some (.number (.finite (1 : Int))) := rfl
    simp only [hcells, List.forall_mem_cons, hleft, hright, hmiddle]
    simp [Grid.regionOf?, Grid.splitRow]
  inOrder := by
    have hids : Grid.splitRow.regionIds = (([] ++ [0]) ++ [1]) ++ [0] := rfl
    rw [hids]
    simp only [isNumberedInOrder_concat]
    exact ⟨⟨⟨isNumberedInOrder_nil, .inr rfl⟩, .inr rfl⟩, .inl (by decide)⟩

/-- One text for all texts and one number for all other labels. -/
def textOrNumber (s : String) (n : Int) : Label → Label
  | .text _ => .text s
  | _ => .number (.finite n)

theorem injOn_textOrNumber (s : String) (n : Int) : Set.InjOn (textOrNumber s n)
    (shownLabels ⟨1, 1, 1, 3⟩ (numberBetween " a" 1 "a")) := by
  have hlabel {label : Label} (h : label ∈ shownLabels ⟨1, 1, 1, 3⟩ (numberBetween " a" 1 "a")) :
      label = .text "a" ∨ label = .number (.finite (1 : Int)) := by
    obtain ⟨cell, hcell, h⟩ := h
    obtain rfl | rfl | rfl := mem_rectangle_one_three.1 hcell
    · exact .inl (Option.some.inj h).symm
    · exact .inr (Option.some.inj h).symm
    · exact .inl (Option.some.inj h).symm
  intro a ha b hb heq
  obtain rfl | rfl := hlabel ha <;> obtain rfl | rfl := hlabel hb <;> first | rfl | cases heq

/-- A number between two equal texts gives a row with the outer cells in one region. So do other
labels and the numbers of the regions, but a blank in place of a text is refused. -/
theorem readGrid_numberBetween :
    readGrid ⟨1, 1, 1, 3⟩ "s" (numberBetween " a" 1 "a") = .ok Grid.splitRow ∧
    readGrid ⟨1, 1, 1, 3⟩ "s" (numberBetween "b" 2 "b ") = .ok Grid.splitRow ∧
    readGrid ⟨1, 1, 1, 3⟩ "s" (idTable Grid.splitRow) = .ok Grid.splitRow ∧
    readGrid ⟨1, 1, 1, 3⟩ "s" (numberBetween " " 1 "a") = .error (.regionBlanks "s") := by
  have hsheet (left right : String) (n : Int) : IsSheetTable (numberBetween left n right) := by
    simp [IsSheetTable, numberBetween, Value.IsSheetContent]
  have hread {table : Table} (htable : IsSheetTable table) := @readGrid_of_sheet table htable "s"
    ⟨1, 1, 1, 3⟩ (by decide) (by decide)
  have hwidth : (3 : Int) < Grid.leastUncountable := by decide +kernel
  have hlabelled : IsLabelled ⟨1, 1, 1, 3⟩ (numberBetween " a" 1 "a") := by
    intro cell hcell
    obtain rfl | rfl | rfl := mem_rectangle_one_three.1 hcell <;> rfl
  obtain ⟨-, hmade, hshown, hrenamed⟩ := hread (hsheet " a" "a" 1)
  obtain ⟨grid, hgrid⟩ := (hmade hwidth).1.2 hlabelled
  obtain ⟨hrow, hids⟩ := hshown grid hgrid
  obtain rfl : grid = Grid.splitRow := hrow.unique isShownBy_splitRow rfl rfl hrow.joined
  refine ⟨hgrid, ?_, ?_, ?_⟩
  · rw [← hgrid]
    refine hrenamed (textOrNumber "b" 2) _ (hsheet "b" "b " 2) (injOn_textOrNumber "b" 2) ?_
    intro cell hcell
    obtain rfl | rfl | rfl := mem_rectangle_one_three.1 hcell <;> rfl
  · exact hids _ _ rfl rfl (isSheetTable_idTable _) (showsIds_idTable _)
  · obtain ⟨-, hblank, -, -⟩ := hread (hsheet " " "a" 1)
    obtain ⟨hiff, herror⟩ := hblank hwidth
    cases hresult : readGrid ⟨1, 1, 1, 3⟩ "s" (numberBetween " " 1 "a") with
    | ok made =>
      have hlabel := hiff.1 ⟨made, hresult⟩ ⟨0, 0⟩ (mem_rectangle_one_three.2 (.inl rfl))
      cases hlabel
    | error e => rw [(herror e hresult).1]

end Block

end GridPuzzle
