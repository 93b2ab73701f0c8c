import GridPuzzle.Grid.Basic
import GridPuzzle.Proofs.Ordered

/-!
# The regions of a grid

The cells of a grid are listed row by row. In a grid with a region map every cell has one region,
the regions are those from zero up to their number, and none of them is empty. A grid is known from
its size and the regions of its cells.
-/

namespace GridPuzzle

/-- The cells of a rectangle, row by row. -/
def rectangle (rows cols : Nat) : List Cell :=
  (List.range rows).flatMap fun row ↦ (List.range cols).map fun col ↦ ⟨row, col⟩

theorem mem_rectangle {rows cols : Nat} {cell : Cell} :
    cell ∈ rectangle rows cols ↔ cell.row < rows ∧ cell.col < cols := by
  simp only [rectangle, List.mem_flatMap, List.mem_map, List.mem_range]
  constructor
  · rintro ⟨row, hrow, col, hcol, rfl⟩
    exact ⟨hrow, hcol⟩
  · intro hcell
    exact ⟨cell.row, hcell.1, cell.col, hcell.2, rfl⟩

theorem nodup_rectangle (rows cols : Nat) : (rectangle rows cols).Nodup := by
  refine List.nodup_flatMap.2 ⟨fun row _ ↦ ?_, ?_⟩
  · exact List.nodup_range.map fun col other heq ↦ (Cell.mk.inj heq).2
  · refine List.nodup_range.imp fun {row other} hne cell hcell hother ↦ ?_
    obtain ⟨col, -, rfl⟩ := List.mem_map.1 hcell
    obtain ⟨_, -, heq⟩ := List.mem_map.1 hother
    exact hne (Cell.mk.inj heq).1.symm

/-! ## Matrices -/

section Matrix

variable {α β : Type} {rows cols : Nat} {matrix : List (List α)}

def entryAt? (matrix : List (List α)) (cell : Cell) : Option α :=
  matrix[cell.row]?.bind (·[cell.col]?)

theorem entryAt?_map (f : α → β) (matrix : List (List α)) (cell : Cell) :
    entryAt? (matrix.map (·.map f)) cell = (entryAt? matrix cell).map f := by
  unfold entryAt?
  rw [List.getElem?_map]
  cases matrix[cell.row]? with
  | none => rfl
  | some row => rw [Option.map_some, Option.bind_some, Option.bind_some, List.getElem?_map]

theorem mem_flatten_iff {a : α} : a ∈ matrix.flatten ↔ ∃ cell, entryAt? matrix cell = some a := by
  rw [List.mem_flatten]
  constructor
  · rintro ⟨row, hrow, ha⟩
    obtain ⟨i, hi, rfl⟩ := List.getElem_of_mem hrow
    obtain ⟨j, hj, rfl⟩ := List.getElem_of_mem ha
    exact ⟨⟨i, j⟩, by simp [entryAt?, hi, hj]⟩
  · rintro ⟨cell, hcell⟩
    obtain ⟨row, hrow, ha⟩ := Option.bind_eq_some_iff.1 hcell
    exact ⟨row, List.mem_of_getElem? hrow, List.mem_of_getElem? ha⟩

theorem hasShape_map (f : α → β) :
    HasShape rows cols (matrix.map (·.map f)) ↔ HasShape rows cols matrix := by
  simp [HasShape]

/-- A matrix has an entry for each cell of its rectangle and for no other. -/
theorem HasShape.isSome_entryAt?_iff (h : HasShape rows cols matrix) {cell : Cell} :
    (entryAt? matrix cell).isSome = true ↔ cell.row < rows ∧ cell.col < cols := by
  rw [← h.1]
  unfold entryAt?
  by_cases hrow : cell.row < matrix.length
  · have hcols : matrix[cell.row].length = cols := h.2 _ (List.getElem_mem hrow)
    simp [hrow, ← hcols]
  · simp [hrow]

/-- A matrix is known from its shape and its entries. -/
theorem HasShape.ext {other : List (List α)} (h : HasShape rows cols matrix)
    (hother : HasShape rows cols other)
    (hentry : ∀ cell : Cell, cell.row < rows ∧ cell.col < cols →
      entryAt? matrix cell = entryAt? other cell) : matrix = other := by
  refine List.ext_getElem (h.1.trans hother.1.symm) fun i hi hi' ↦ ?_
  have hwidth := h.2 _ (List.getElem_mem hi)
  refine List.ext_getElem (hwidth.trans (hother.2 _ (List.getElem_mem hi')).symm) fun j hj hj' ↦ ?_
  have hcell := hentry ⟨i, j⟩ ⟨h.1 ▸ hi, hwidth ▸ hj⟩
  simpa [entryAt?, hi, hi', hj, hj'] using hcell

end Matrix

/-! ## Numbers from zero up to a bound -/

theorem foldl_max_le_iff {ids : List Int} {start bound : Int} :
    ids.foldl max start ≤ bound ↔ start ≤ bound ∧ ∀ id ∈ ids, id ≤ bound := by
  induction ids generalizing start with
  | nil => simp
  | cons id ids ih =>
    rw [List.foldl_cons, ih, List.forall_mem_cons, max_le_iff, and_assoc]

/-- The greatest of the numbers below a bound is the one in front of the bound. -/
theorem foldl_max_eq {ids : List Int} {n : Nat} (h : ∀ id, id ∈ ids ↔ 0 ≤ id ∧ id < n) :
    ids.foldl max (-1) = n - 1 := by
  obtain ⟨hstart, hall⟩ := foldl_max_le_iff.1 (le_refl (ids.foldl max (-1)))
  apply le_antisymm
  · refine foldl_max_le_iff.2 ⟨by omega, fun id hid ↦ ?_⟩
    have hlt := ((h id).1 hid).2
    omega
  · cases n with
    | zero => exact hstart
    | succ n =>
      have hlast := hall n ((h n).2 (by omega))
      omega

/-- Dense numbers are all those from zero up to their count. -/
theorem IsDense.mem_iff {ids : List Int} (h : IsDense ids) (id : Int) :
    id ∈ ids ↔ 0 ≤ id ∧ id < (sortedDistinct ids).length := by
  rw [← mem_sortedDistinct, h, List.mem_map, List.length_map, List.length_range]
  constructor
  · rintro ⟨k, hk, rfl⟩
    exact ⟨Int.natCast_nonneg k, Int.ofNat_lt.2 (List.mem_range.1 hk)⟩
  · rintro ⟨hnonneg, hlt⟩
    exact ⟨id.toNat, List.mem_range.2 (by omega), Int.toNat_of_nonneg hnonneg⟩

namespace Grid

variable {grid : Grid}

/-- The cells of a grid, row by row. -/
def cells (grid : Grid) : List Cell := rectangle grid.rows grid.cols

def regionCells (grid : Grid) (id : Nat) : List Cell :=
  grid.cells.filter fun cell ↦ grid.regionOf? cell == some (id : Int)

theorem contains_iff {cell : Cell} :
    grid.contains cell = true ↔ cell.row < grid.rows ∧ cell.col < grid.cols := by
  simp [contains, containsAt]

theorem mem_cells {cell : Cell} : cell ∈ grid.cells ↔ grid.contains cell = true :=
  mem_rectangle.trans contains_iff.symm

theorem regionOf?_eq {map : RegionMap grid.rows grid.cols} (h : grid.regions = some map)
    (cell : Cell) : grid.regionOf? cell = entryAt? map.ids cell := by
  rw [regionOf?, h, Option.bind_some, entryAt?]

/-- Every cell of a grid with a region map has a region, and no other cell has one. -/
theorem isSome_regionOf?_iff (hregions : grid.regions.isSome = true) {cell : Cell} :
    (grid.regionOf? cell).isSome = true ↔ grid.contains cell = true := by
  obtain ⟨map, hmap⟩ := Option.isSome_iff_exists.1 hregions
  rw [contains_iff, regionOf?_eq hmap, map.shape.isSome_entryAt?_iff]

theorem exists_regionOf? (hregions : grid.regions.isSome = true) {cell : Cell}
    (hcell : grid.contains cell = true) : ∃ region, grid.regionOf? cell = some region :=
  Option.isSome_iff_exists.1 ((isSome_regionOf?_iff hregions).2 hcell)

theorem contains_of_regionOf? {cell : Cell} {region : Int}
    (h : grid.regionOf? cell = some region) : grid.contains cell = true := by
  have hregions : grid.regions.isSome = true := by
    cases hmap : grid.regions with
    | none => simp [regionOf?, hmap] at h
    | some map => rfl
  exact (isSome_regionOf?_iff hregions).1 (by rw [h]; rfl)

/-- The regions that cells have are those below their number. -/
theorem exists_regionOf?_eq_iff (hregions : grid.regions.isSome = true) {id : Int} :
    (∃ cell, grid.regionOf? cell = some id) ↔ 0 ≤ id ∧ id < grid.regionCount := by
  obtain ⟨map, hmap⟩ := Option.isSome_iff_exists.1 hregions
  have hcount : (grid.regionCount : Int) = (sortedDistinct map.ids.flatten).length := by
    unfold regionCount
    rw [hmap]
    dsimp only
    rw [foldl_max_eq map.dense.mem_iff]
    omega
  rw [hcount, ← map.dense.mem_iff, mem_flatten_iff]
  simp only [regionOf?_eq hmap]

theorem mem_regionCells {id : Nat} {cell : Cell} :
    cell ∈ grid.regionCells id ↔ grid.regionOf? cell = some (id : Int) := by
  rw [regionCells, List.mem_filter, beq_iff_eq, and_iff_right_iff_imp, mem_cells]
  exact contains_of_regionOf?

/-- A matrix of the right shape is a region map if its numbers are dense. -/
theorem ofMatrix_of_hasShape {rows cols : Nat} (hrows : 0 < rows) (hcols : 0 < cols)
    {ids : List (List Int)} (hshape : HasShape rows cols ids) : ofMatrix rows cols (some ids) =
      if hdense : IsDense ids.flatten then
        .ok ⟨rows, cols, some ⟨ids, hshape, hdense⟩, hrows, hcols⟩
      else .error (.regionIdsNotDense (sortedDistinct ids.flatten)) := by
  unfold ofMatrix
  rw [dif_pos (show 0 < ((rows : Nat) : Int).toNat from hrows),
    dif_pos (show 0 < ((cols : Nat) : Int).toNat from hcols)]
  dsimp only
  rw [dif_pos (show HasShape ((rows : Nat) : Int).toNat ((cols : Nat) : Int).toNat ids from hshape)]
  rfl

/-! ## Maps that are made -/

/-- The region map of the grid is given, or a map of zeros can be made in its place, because its
columns can be counted. -/
def IsHeld (grid : Grid) : Prop :=
  grid.regions.isSome = true ∨ (grid.cols : Int) < leastUncountable

theorem checkWidth_of_lt {cols : Int} (hcols : 0 < cols) (h : cols < leastUncountable)
    (rows : Int) : checkWidth rows cols = .ok () := by
  have hpos : 0 < leastUncountable := by decide +kernel
  apply if_neg
  omega

theorem checkWidth_of_le {rows cols : Int} (hrows : 0 < rows) (h : leastUncountable ≤ cols) :
    checkWidth rows cols = .error (.misuse .overflow) := if_pos ⟨hrows, .inl h⟩

end Grid

end GridPuzzle
