import GridPuzzle.Constraint.GridDeclaration
import GridPuzzle.Proofs.Compile.Encoding
import GridPuzzle.Proofs.Constraint.Sentence
import GridPuzzle.Proofs.Fallible
import GridPuzzle.Proofs.Grid.CellLists

/-!
# The declared region map

The section of a grid is read back as its size, the number of its regions and the map in which they
are counted from one. A loop over the declared numbers of regions therefore goes through the regions
of the grid, each of them once, and without regions it has no turn.
-/

namespace GridPuzzle

open Fallible Text Token

/-! ## Reading a matrix back -/

/-- Numerals with a comma between them. -/
def rowTokens (row : List Nat) : List Token :=
  [sign ','].intercalate (row.map fun n ↦ [word (decimal n)])

theorem notMem_rowTokens {c : Char} (hc : c ≠ ',') (row : List Nat) : sign c ∉ rowTokens row := by
  have hall : ∀ token ∈ rowTokens row, token ≠ sign c := by
    apply forall_mem_intercalate
    · simpa using hc.symm
    · intro piece hpiece
      obtain ⟨n, -, rfl⟩ := List.mem_map.1 hpiece
      simp
  exact fun hmem ↦ hall _ hmem rfl

theorem all_rowText (row : List Nat) :
    '%' ∉ (join ", " (row.map fun n : Nat ↦ intText n)).toList ∧
      all (join ", " (row.map fun n : Nat ↦ intText n)).toList = rowTokens row := by
  have hplain : ∀ p ∈ row.map fun n : Nat ↦ intText n, '%' ∉ p.toList := by
    intro p hp
    obtain ⟨n, -, rfl⟩ := List.mem_map.1 hp
    exact notMem_intText (by decide) (by decide) n
  refine ⟨notMem_join (by decide) hplain, ?_⟩
  rw [all_join [','] rfl (by decide) hplain, List.map_map]
  congr 1
  refine List.map_congr_left fun n _ ↦ ?_
  rw [Function.comp_apply, toList_intText_natCast, all_decimal]

/-- Rows with bars around each of them, in square brackets. -/
def matrixTokens (matrix : List (List Nat)) : List Token :=
  sign '[' :: sign '|' ::
    ([sign '|'].intercalate (matrix.map rowTokens) ++ [sign '|', sign ']'])

/-- The matrix of numbers as it is emitted. -/
theorem all_matrixText (matrix : List (List Nat)) :
    '%' ∉ (matrixText (matrix.map (·.map Nat.cast))).toList ∧
      all (matrixText (matrix.map (·.map Nat.cast))).toList = matrixTokens matrix := by
  set pieces := matrix.map fun row ↦ join ", " (row.map fun n : Nat ↦ intText n) with hpieces
  have htext : (matrixText (matrix.map (·.map Nat.cast))).toList =
      '[' :: '|' :: ' ' :: ((join " | " pieces).toList ++ [' ', '|', ']']) := by
    simp [matrixText, hpieces, Function.comp_def]
  have hplain : ∀ p ∈ pieces, '%' ∉ p.toList := by
    intro p hp
    obtain ⟨row, -, rfl⟩ := List.mem_map.1 hp
    exact (all_rowText row).1
  have hrows : all (join " | " pieces).toList = [sign '|'].intercalate (matrix.map rowTokens) := by
    rw [all_join [' ', '|'] rfl (by decide) hplain, hpieces, List.map_map]
    congr 1
    exact List.map_congr_left fun row _ ↦ (all_rowText row).2
  have hjoin : '%' ∉ (join " | " pieces).toList := notMem_join (by decide) hplain
  rw [htext]
  refine ⟨by simp [hjoin], ?_⟩
  rw [all_sign (by decide), all_sign (by decide), all_space, all_append_cons hjoin (by decide),
    hrows]
  rfl

theorem notMem_matrixTokens {c : Char} (hc : c ∉ ['[', '|', ',', ']'])
    (matrix : List (List Nat)) : sign c ∉ matrixTokens matrix := by
  simp only [List.mem_cons, not_or] at hc
  obtain ⟨hopen, hbar, hcomma, hclose, -⟩ := hc
  have hall : ∀ token ∈ [sign '|'].intercalate (matrix.map rowTokens), token ≠ sign c := by
    apply forall_mem_intercalate
    · simpa using Ne.symm hbar
    · intro piece hpiece token htoken heq
      obtain ⟨row, -, rfl⟩ := List.mem_map.1 hpiece
      exact notMem_rowTokens hcomma row (heq ▸ htoken)
  simpa [matrixTokens, hopen, hbar, hclose] using fun hmem ↦ hall _ hmem rfl

namespace GridDeclaration

theorem row?_rowTokens {row : List Nat} (hne : row ≠ []) : row? (rowTokens row) = some row := by
  have hsplit : (rowTokens row).splitOn (sign ',') = row.map fun n ↦ [word (decimal n)] :=
    List.splitOn_intercalate _ (by simp) (by simpa using hne)
  rw [row?, hsplit, mapM_eq_some, List.forall₂_map_left_iff, List.forall₂_same]
  exact fun n _ ↦ digits?_decimal n

/-- A matrix is read back, if it has a row and no row is empty. -/
theorem matrix?_matrixTokens {matrix : List (List Nat)} (hne : matrix ≠ [])
    (hrows : ∀ row ∈ matrix, row ≠ []) : matrix? (matrixTokens matrix) = some matrix := by
  have hsplit : ([sign '|'].intercalate (matrix.map rowTokens)).splitOn (sign '|') =
      matrix.map rowTokens := by
    apply List.splitOn_intercalate
    · intro piece hpiece
      obtain ⟨row, -, rfl⟩ := List.mem_map.1 hpiece
      exact notMem_rowTokens (by decide) row
    · simpa using hne
  have hread : (matrix.map rowTokens).mapM row? = some matrix := by
    rw [mapM_eq_some, List.forall₂_map_left_iff, List.forall₂_same]
    exact fun row hrow ↦ row?_rowTokens (hrows row hrow)
  rw [matrixTokens, matrix?, List.reverse_append]
  simp only [List.reverse_cons, List.reverse_nil, List.nil_append, List.cons_append,
    List.reverse_reverse, hsplit, hread]

end GridDeclaration

/-! ## Reading the section back -/

namespace Grid

/-- The number of the region of every cell, counted from one, and zero without regions. -/
def numberMap (grid : Grid) : List (List Nat) :=
  match grid.regions with
  | none => List.replicate grid.rows (List.replicate grid.cols 0)
  | some map => map.ids.map (·.map fun id ↦ (id + 1).toNat)

def declaration (grid : Grid) : GridDeclaration where
  rows := grid.rows
  cols := grid.cols
  regionCount := grid.regionCount
  map := grid.numberMap

variable (grid : Grid)

theorem emittedMap_eq : grid.emittedMap = grid.numberMap.map (·.map Nat.cast) := by
  unfold emittedMap numberMap
  cases hregions : grid.regions with
  | none => simp
  | some map =>
    dsimp only
    rw [List.map_map]
    refine List.map_congr_left fun row hrow ↦ ?_
    rw [Function.comp_apply, List.map_map]
    refine List.map_congr_left fun id hid ↦ ?_
    have hnonneg := ((map.dense.mem_iff id).1 (List.mem_flatten.2 ⟨row, hrow, hid⟩)).1
    rw [Function.comp_apply, Int.toNat_of_nonneg (by omega)]

theorem hasShape_numberMap : HasShape grid.rows grid.cols grid.numberMap := by
  unfold numberMap
  cases grid.regions with
  | none => simp [HasShape]
  | some map => exact (hasShape_map _).2 map.shape

end Grid

namespace GridDeclaration

def numberTokens (name : String) (n : Nat) : List Token :=
  [word "int".toList, sign ':', word name.toList, sign '=', word (decimal n)]

theorem number?_numberTokens (name : String) (n : Nat) :
    number? name.toList (numberTokens name n) = some n := by
  simp [number?, numberTokens, digits?_decimal]

def mapTokens (map : List (List Nat)) : List Token := mapHead ++ sign '=' :: matrixTokens map

theorem map?_mapTokens {map : List (List Nat)} (hne : map ≠ []) (hrows : ∀ row ∈ map, row ≠ []) :
    map? (mapTokens map) = some map := by
  rw [map?, mapTokens,
    splitOn_append_cons (by decide) (notMem_matrixTokens (by decide) map)]
  dsimp only
  rw [if_pos rfl, matrix?_matrixTokens hne hrows]

/-- The declarations of a section, without their semicolons. -/
def pieces (declaration : GridDeclaration) : List (List Token) :=
  [numberTokens "rows" declaration.rows, numberTokens "cols" declaration.cols,
    numberTokens "n_regions" declaration.regionCount, mapTokens declaration.map]

/-- The line that declares a number. -/
theorem all_numberLine (name : String) (front : List Char) {head : String}
    (hhead : head.toList = front ++ [' ']) (hfront : '%' ∉ front)
    (hall : all front = [word "int".toList, sign ':', word name.toList, sign '=']) (n : Nat) :
    all (head ++ natText n ++ ";").toList = numberTokens name n ++ [sign ';'] := by
  have htext : (head ++ natText n ++ ";").toList = front ++ ' ' :: (decimal n ++ [';']) := by
    simp [hhead, toList_natText]
  rw [htext, all_append_cons hfront (by decide), all_space,
    all_append_cons (notMem_decimal (by decide) n) (by decide), all_decimal, hall]
  rfl

/-- The line that declares a region map. -/
theorem all_mapLine (map : List (List Nat)) :
    all ("array[1..rows, 1..cols] of int: regions = " ++ matrixText (map.map (·.map Nat.cast)) ++
      ";").toList = mapTokens map ++ [sign ';'] := by
  obtain ⟨hplain, hmatrix⟩ := all_matrixText map
  have htext : ("array[1..rows, 1..cols] of int: regions = " ++
      matrixText (map.map (·.map Nat.cast)) ++ ";").toList =
        "array[1..rows, 1..cols] of int: regions".toList ++ ' ' :: '=' :: ' ' ::
          ((matrixText (map.map (·.map Nat.cast))).toList ++ [';']) := by
    simp
  rw [htext, all_operator (by decide) (by decide), all_append_cons hplain (by decide), hmatrix,
    mapTokens, mapHead, List.append_assoc, List.cons_append]
  rfl

theorem all_declareGrid (grid : Grid) :
    all (declareGrid grid).toList = grid.declaration.pieces.flatMap (· ++ [sign ';']) := by
  rw [declareGrid, all_unlines, grid.emittedMap_eq]
  simp only [List.flatMap_cons, List.flatMap_nil, all_comment, all_mapLine, List.nil_append]
  rw [all_numberLine "rows" "int: rows =".toList rfl (by decide) (by decide),
    all_numberLine "cols" "int: cols =".toList rfl (by decide) (by decide),
    all_numberLine "n_regions" "int: n_regions =".toList rfl (by decide) (by decide)]
  rfl

theorem notMem_pieces (declaration : GridDeclaration) :
    ∀ piece ∈ declaration.pieces, sign ';' ∉ piece := by
  have hmap : sign ';' ∉ mapTokens declaration.map := by
    have hhead : sign ';' ∉ mapHead := by decide
    simpa [mapTokens, hhead] using notMem_matrixTokens (by decide) declaration.map
  simpa [pieces, numberTokens] using hmap

/-- The section of a grid is read back as the values that are declared for the grid. -/
theorem read?_declareGrid (grid : Grid) : read? (declareGrid grid) = some grid.declaration := by
  have hmap : map? (mapTokens grid.numberMap) = some grid.numberMap := by
    have hshape := grid.hasShape_numberMap
    apply map?_mapTokens
    · exact List.ne_nil_of_length_pos (hshape.1 ▸ grid.rows_pos)
    · exact fun row hrow ↦ List.ne_nil_of_length_pos (hshape.2 row hrow ▸ grid.cols_pos)
  rw [read?, all_declareGrid, splitOn_flatMap grid.declaration.notMem_pieces]
  simp only [pieces, Grid.declaration, List.cons_append, List.nil_append, number?_numberTokens,
    hmap]
  rfl

end GridDeclaration

/-! ## The regions in a loop over their numbers -/

namespace GridDeclaration

/-- The cells in which the map has the given number, row by row. -/
def cellsOf (declaration : GridDeclaration) (number : Nat) : List Cell :=
  (rectangle declaration.rows declaration.cols).filter fun cell ↦
    entryAt? declaration.map cell == some number

/-- The cells that a loop over the numbers of the regions finds, turn by turn. -/
def turns (declaration : GridDeclaration) : List (List Cell) :=
  (List.range' 1 declaration.regionCount).map declaration.cellsOf

/-- What a declaration with regions has to tell of a grid. -/
structure TellsRegions (declaration : GridDeclaration) (grid : Grid) : Prop where
  within : ∀ row ∈ declaration.map, ∀ number ∈ row, 1 ≤ number ∧ number ≤ declaration.regionCount
  onto : ∀ number, 1 ≤ number → number ≤ declaration.regionCount →
    ∃ row ∈ declaration.map, number ∈ row
  same : ∀ cell other, grid.contains cell = true → grid.contains other = true →
    (entryAt? declaration.map cell = entryAt? declaration.map other ↔
      grid.regionOf? cell = grid.regionOf? other)
  turns_eq : declaration.turns = (List.range grid.regionCount).map grid.regionCells
  nonempty : ∀ turn ∈ declaration.turns, turn ≠ []
  once : declaration.turns.flatten.Perm grid.cells

end GridDeclaration

namespace Grid

variable {grid : Grid}

/-- Two cells of a region have the same number, and no others. -/
theorem entryAt?_numberMap (hregions : grid.regions.isSome = true) (cell : Cell) :
    entryAt? grid.numberMap cell = (grid.regionOf? cell).map fun id ↦ (id + 1).toNat := by
  obtain ⟨map, hmap⟩ := Option.isSome_iff_exists.1 hregions
  rw [regionOf?_eq hmap, ← entryAt?_map, numberMap, hmap]

/-- The number of a cell is one more than its region, which is none below zero. -/
theorem entryAt?_numberMap_eq_some (hregions : grid.regions.isSome = true) {cell : Cell}
    {number : Nat} : entryAt? grid.numberMap cell = some number ↔
      ∃ id : Nat, grid.regionOf? cell = some (id : Int) ∧ number = id + 1 := by
  rw [entryAt?_numberMap hregions, Option.map_eq_some_iff]
  constructor
  · rintro ⟨region, hregion, rfl⟩
    have hnonneg := ((exists_regionOf?_eq_iff hregions).1 ⟨cell, hregion⟩).1
    exact ⟨region.toNat, by rw [hregion, Int.toNat_of_nonneg hnonneg], by omega⟩
  · rintro ⟨id, hid, rfl⟩
    exact ⟨id, hid, by omega⟩

theorem cellsOf_declaration (hregions : grid.regions.isSome = true) (id : Nat) :
    grid.declaration.cellsOf (id + 1) = grid.regionCells id := by
  refine List.filter_congr fun cell _ ↦ ?_
  rw [Bool.eq_iff_iff, beq_iff_eq, beq_iff_eq]
  refine (entryAt?_numberMap_eq_some hregions).trans ⟨?_, fun h ↦ ⟨id, h, rfl⟩⟩
  rintro ⟨other, hother, heq⟩
  obtain rfl := Nat.succ.inj heq
  exact hother

theorem turns_declaration (hregions : grid.regions.isSome = true) :
    grid.declaration.turns = (List.range grid.regionCount).map grid.regionCells := by
  rw [GridDeclaration.turns, List.range'_eq_map_range, List.map_map]
  refine List.map_congr_left fun id _ ↦ ?_
  rw [Function.comp_apply, Nat.add_comm, cellsOf_declaration hregions]

theorem regionCells_ne_nil (hregions : grid.regions.isSome = true) {id : Nat}
    (hid : id < grid.regionCount) : grid.regionCells id ≠ [] := by
  obtain ⟨cell, hcell⟩ := (exists_regionOf?_eq_iff hregions).2
    ⟨Int.natCast_nonneg id, Int.ofNat_lt.2 hid⟩
  exact List.ne_nil_of_mem (mem_regionCells.2 hcell)

/-- Every cell lies in one region. -/
theorem flatten_regionCells_perm (hregions : grid.regions.isSome = true) :
    ((List.range grid.regionCount).map grid.regionCells).flatten.Perm grid.cells := by
  rw [← List.flatMap_def, List.perm_ext_iff_of_nodup]
  · intro cell
    simp only [List.mem_flatMap, List.mem_range, mem_regionCells, mem_cells]
    constructor
    · rintro ⟨id, -, hcell⟩
      exact contains_of_regionOf? hcell
    · intro hcell
      obtain ⟨region, hregion⟩ := exists_regionOf? hregions hcell
      obtain ⟨hnonneg, hlt⟩ := (exists_regionOf?_eq_iff hregions).1 ⟨cell, hregion⟩
      exact ⟨region.toNat, by omega, by rw [hregion, Int.toNat_of_nonneg hnonneg]⟩
  · refine List.nodup_flatMap.2 ⟨fun id _ ↦ (nodup_rectangle _ _).filter _, ?_⟩
    refine List.nodup_range.imp fun {id other} hne cell hcell hother ↦ hne ?_
    rw [mem_regionCells] at hcell hother
    exact Int.ofNat_inj.1 (Option.some.inj (hcell.symm.trans hother))
  · exact nodup_rectangle _ _

theorem tellsRegions_declaration (hregions : grid.regions.isSome = true) :
    grid.declaration.TellsRegions grid where
  within := by
    intro row hrow number hnumber
    obtain ⟨cell, hcell⟩ := mem_flatten_iff.1 (List.mem_flatten.2 ⟨row, hrow, hnumber⟩)
    obtain ⟨id, hid, rfl⟩ := (entryAt?_numberMap_eq_some hregions).1 hcell
    have hlt := ((exists_regionOf?_eq_iff hregions).1 ⟨cell, hid⟩).2
    exact ⟨by omega, Int.ofNat_lt.1 hlt⟩
  onto := by
    intro number hpos hle
    have hlt : number - 1 < grid.regionCount := Nat.sub_one_lt_of_le hpos hle
    obtain ⟨cell, hcell⟩ := (exists_regionOf?_eq_iff hregions).2
      ⟨Int.natCast_nonneg _, Int.ofNat_lt.2 hlt⟩
    have hentry : entryAt? grid.numberMap cell = some number :=
      (entryAt?_numberMap_eq_some hregions).2 ⟨number - 1, hcell, by omega⟩
    exact List.mem_flatten.1 (mem_flatten_iff.2 ⟨cell, hentry⟩)
  same := by
    intro cell other hcell hother
    obtain ⟨region, hregion⟩ := exists_regionOf? hregions hcell
    obtain ⟨region', hregion'⟩ := exists_regionOf? hregions hother
    have hnonneg := ((exists_regionOf?_eq_iff hregions).1 ⟨cell, hregion⟩).1
    have hnonneg' := ((exists_regionOf?_eq_iff hregions).1 ⟨other, hregion'⟩).1
    change entryAt? grid.numberMap cell = entryAt? grid.numberMap other ↔ _
    rw [entryAt?_numberMap hregions, entryAt?_numberMap hregions, hregion, hregion']
    simp only [Option.map_some, Option.some.injEq]
    omega
  turns_eq := turns_declaration hregions
  nonempty := by
    rw [turns_declaration hregions]
    intro turn hturn
    obtain ⟨id, hid, rfl⟩ := List.mem_map.1 hturn
    exact regionCells_ne_nil hregions (List.mem_range.1 hid)
  once := by
    rw [turns_declaration hregions]
    exact flatten_regionCells_perm hregions

theorem regionCount_of_none (hregions : grid.regions = none) : grid.regionCount = 0 := by
  rw [regionCount, hregions]

theorem eq_zero_of_mem_numberMap (hregions : grid.regions = none) :
    ∀ row ∈ grid.numberMap, ∀ number ∈ row, number = 0 := by
  intro row hrow number hnumber
  rw [numberMap, hregions] at hrow
  obtain rfl := List.eq_of_mem_replicate hrow
  exact List.eq_of_mem_replicate hnumber

end Grid

/-- The section of a grid is read back as values that tell the grid: with regions, every number up
to that of the regions occurs in the map and no other, cells have the same number just if they lie
in the same region, and a loop over the numbers goes through the regions, none of them empty and
every cell in one of them; without regions, the map is zero and the loop has no turn. No other grid
has this text. It is what is emitted unless the size cannot be written, or the columns of a map of
zeros not be counted. -/
theorem declareGrid_tells (grid : Grid) :
    (∃ declaration, GridDeclaration.read? (declareGrid grid) = some declaration ∧
      declaration.rows = grid.rows ∧ declaration.cols = grid.cols ∧
      declaration.regionCount = grid.regionCount ∧
      HasShape grid.rows grid.cols declaration.map ∧
      (grid.regions.isSome = true → declaration.TellsRegions grid) ∧
      (grid.regions = none → declaration.regionCount = 0 ∧
        (∀ row ∈ declaration.map, ∀ number ∈ row, number = 0) ∧ declaration.turns = [])) ∧
    (∀ other, declareGrid other = declareGrid grid → other = grid) ∧
    ∀ text, gridSection grid = .ok text ↔
      (grid.IsHeld ∧ Error.isWritableSize grid.rows grid.cols = true) ∧
        text = declareGrid grid := by
  refine ⟨⟨grid.declaration, GridDeclaration.read?_declareGrid grid, rfl, rfl, rfl,
    grid.hasShape_numberMap, Grid.tellsRegions_declaration, fun hregions ↦ ?_⟩,
    fun other heq ↦ declareGrid_injective heq, fun text ↦ gridSection_eq_ok_iff⟩
  have hcount : grid.declaration.regionCount = 0 := Grid.regionCount_of_none hregions
  refine ⟨hcount, Grid.eq_zero_of_mem_numberMap hregions, ?_⟩
  rw [GridDeclaration.turns, hcount]
  rfl

/-- The turns for a row whose outer cells form a region, and for a row without regions. -/
theorem declareGrid_tells_rows :
    (∃ declaration, GridDeclaration.read? (declareGrid Grid.splitRow) = some declaration ∧
      declaration.turns = [[⟨0, 0⟩, ⟨0, 2⟩], [⟨0, 1⟩]]) ∧
    (∃ declaration, GridDeclaration.read? (declareGrid ⟨1, 3, none, by decide, by decide⟩) =
      some declaration ∧ declaration.turns = []) ∧
    gridSection Grid.splitRow = .ok (declareGrid Grid.splitRow) := by
  obtain ⟨⟨declaration, hread, -, -, -, -, htells, -⟩, -, hsection⟩ :=
    declareGrid_tells Grid.splitRow
  obtain ⟨⟨bare, hbare, -, -, -, -, -, hnone⟩, -, -⟩ :=
    declareGrid_tells ⟨1, 3, none, by decide, by decide⟩
  refine ⟨⟨declaration, hread, ?_⟩, ⟨bare, hbare, (hnone rfl).2.2⟩, (hsection _).2 ⟨⟨?_, ?_⟩, rfl⟩⟩
  · rw [(htells rfl).turns_eq]
    decide
  · exact .inl rfl
  · exact Bool.and_eq_true_iff.2 ⟨isWritable_of_lt (by decide), isWritable_of_lt (by decide)⟩

end GridPuzzle
