import GridPuzzle.Error

/-!
# Grids

A grid has rows and columns, at least one of each, and may be partitioned into regions. A region map
gives the region of every cell, the regions being numbered from zero without gaps. A partition can
be given as such a map, by boxes of equal size, or by listing the cells of every region.
-/

namespace GridPuzzle

/-- The distinct numbers of a list in ascending order. -/
def sortedDistinct (ids : List Int) : List Int := (ids.mergeSort fun a b ↦ decide (a ≤ b)).eraseReps

/-- Numbers that are, without regard to repetition, all numbers from zero up to the greatest. -/
def IsDense (ids : List Int) : Prop :=
  sortedDistinct ids = (List.range (sortedDistinct ids).length).map Int.ofNat

instance (ids : List Int) : Decidable (IsDense ids) := inferInstanceAs (Decidable (_ = _))

def HasShape {α : Type} (rows cols : Nat) (matrix : List (List α)) : Prop :=
  matrix.length = rows ∧ ∀ row ∈ matrix, row.length = cols

instance {α : Type} (rows cols : Nat) (matrix : List (List α)) :
    Decidable (HasShape rows cols matrix) := inferInstanceAs (Decidable (_ ∧ _))

/-- The regions of the cells, row by row: one for every cell, numbered from zero without gaps. -/
structure RegionMap (rows cols : Nat) where
  ids : List (List Int)
  shape : HasShape rows cols ids
  dense : IsDense ids.flatten

/-- A rectangle of cells, possibly partitioned into regions. -/
structure Grid where
  rows : Nat
  cols : Nat
  regions : Option (RegionMap rows cols)
  rows_pos : 0 < rows
  cols_pos : 0 < cols

namespace Grid

def ofMatrix (rows cols : Int) (matrix : Option (List (List Int))) : Except Error Grid :=
  if hrows : 0 < rows.toNat then
    if hcols : 0 < cols.toNat then
      match matrix with
      | none => .ok ⟨rows.toNat, cols.toNat, none, hrows, hcols⟩
      | some ids =>
        if hshape : HasShape rows.toNat cols.toNat ids then
          if hdense : IsDense ids.flatten then
            .ok ⟨rows.toNat, cols.toNat, some ⟨ids, hshape, hdense⟩, hrows, hcols⟩
          else .error (.regionIdsNotDense (sortedDistinct ids.flatten))
        else .error (.regionShape rows.toNat cols.toNat)
    else .error .gridCols
  else .error .gridRows

/-! ## Partitions -/

/-- The box of a cell, the boxes being numbered row by row. -/
def boxOf (boxesPerRow boxRows boxCols : Nat) (row col : Nat) : Nat :=
  row / boxRows * boxesPerRow + col / boxCols

def boxes (rows cols boxRows boxCols : Int) : Except Error Grid :=
  if boxRows < 1 ∨ boxCols < 1 ∨ rows % boxRows ≠ 0 ∨ cols % boxCols ≠ 0 then
    .error (.untileable (.int rows) (.int cols) (.int boxRows) (.int boxCols))
  else
    let boxId := boxOf (cols / boxCols).toNat boxRows.toNat boxCols.toNat
    let ids := (List.range rows.toNat).map fun row ↦
      (List.range cols.toNat).map fun col ↦ Int.ofNat (boxId row col)
    ofMatrix rows cols (some ids)

/-- A region map in which cells may be open. -/
abbrev OpenMap := List (List (Option Nat))

def OpenMap.get? (map : OpenMap) (cell : Cell) : Option Nat :=
  (map[cell.row]?.bind (·[cell.col]?)).join

def OpenMap.set (map : OpenMap) (cell : Cell) (id : Nat) : OpenMap :=
  map.modify cell.row (·.set cell.col (some id))

/-- Puts a cell into a region; it must lie in the grid and be open. -/
def OpenMap.place (rows cols : Int) (id : Nat) (map : OpenMap) (cell : Cell) :
    Except Error OpenMap :=
  if rows ≤ cell.row ∨ cols ≤ cell.col then .error (.regionCellOutside cell)
  else if (map.get? cell).isSome then .error (.regionCellShared cell)
  else .ok (map.set cell id)

/-- Puts the cells of regions into a map, the first region being number `id`. Cells are read as they
are reached, so the first fault in reading order is the one reported. -/
def OpenMap.placeAll {ρ κ : Type} (regionCells : ρ → Except Error (List κ))
    (toCell : κ → Except Error Cell) (rows cols : Int) (id : Nat) (map : OpenMap) :
    List ρ → Except Error OpenMap
  | [] => .ok map
  | region :: rest => do
    let raws ← regionCells region
    let map ← raws.foldlM (fun map raw ↦ (toCell raw).bind (map.place rows cols id)) map
    placeAll regionCells toCell rows cols (id + 1) map rest

def OpenMap.empty (rows cols : Int) : OpenMap :=
  List.replicate rows.toNat (List.replicate cols.toNat none)

/-- The least number of columns that cannot be counted. -/
def leastUncountable : Int := Nat.pow 2 63

/-- A row of a map can be made, if there is one: its cells can be counted. -/
def checkWidth (rows cols : Int) : Except Error Unit :=
  if 0 < rows ∧ (leastUncountable ≤ cols ∨ cols < -leastUncountable) then
    .error (.misuse .overflow)
  else .ok ()

/-- The grid of a map in which no cell is left open. -/
def ofOpenMap (rows cols : Int) (map : OpenMap) : Except Error Grid :=
  match map.mapM (·.mapM id) with
  | none => .error .regionsIncomplete
  | some ids => ofMatrix rows cols (some (ids.map (·.map Int.ofNat)))

/-- The grid partitioned by the lists of the cells of every region. -/
def ofCellLists (rows cols : Int) (regions : List (List Cell)) : Except Error Grid := do
  let map ← OpenMap.placeAll .ok .ok rows cols 0 (OpenMap.empty rows cols) regions
  ofOpenMap rows cols map

/-! ## Reading a grid -/

/-- The number of regions, zero when the grid has no region map. -/
def regionCount (grid : Grid) : Nat :=
  match grid.regions with
  | none => 0
  | some map => (map.ids.flatten.foldl max (-1) + 1).toNat

def containsAt (grid : Grid) (row col : Int) : Bool :=
  0 ≤ row && row < grid.rows && 0 ≤ col && col < grid.cols

def contains (grid : Grid) (cell : Cell) : Bool := grid.containsAt cell.row cell.col

/-- The region of a cell of the grid, if there is a region map. -/
def regionOf? (grid : Grid) (cell : Cell) : Option Int :=
  grid.regions.bind fun map ↦ map.ids[cell.row]?.bind (·[cell.col]?)

def checkCell (grid : Grid) (holder : Holder) (cell : Cell) : Except Error Unit :=
  if grid.contains cell then .ok ()
  else .error (.cellOutside cell holder grid.rows grid.cols)

end Grid

end GridPuzzle
