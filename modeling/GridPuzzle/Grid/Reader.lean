import GridPuzzle.Grid.Basic
import GridPuzzle.Number

/-!
# Reading cells and grids

A cell is read from a pair of numbers that are not negative. A grid is read from its size and one of
three descriptions of its regions. Each check is made in a fixed order, so of several faults the
first is reported.
-/

namespace GridPuzzle

/-- A sequence other than a text or bytes, its role being named in the fault. -/
def readSequence (role : String) (given : Value) : Except Error (List Value) :=
  match given with
  | .text _ | .bytes _ => .error (.notSequence role given)
  | _ =>
    match given.items? with
    | some items => .ok items
    | none => .error (.notSequence role given)

/-- Anything that has items. -/
def readItems (given : Value) : Except Error (List Value) :=
  match given.items? with
  | some items => .ok items
  | none => .error .wrongType

def readPair (given : Value) : Except Error (Value × Value) := do
  match ← readItems given with
  | [first, second] => return (first, second)
  | _ => throw .wrongValue

/-- A coordinate: an integer that is not negative. -/
def coordinate? : Value → Option Nat
  | .int (.ofNat n) => some n
  | _ => none

def Cell.read (given : Value) : Except Error Cell :=
  match given.items? with
  | some [row, col] =>
    match coordinate? row, coordinate? col with
    | some r, some c => .ok ⟨r, c⟩
    | _, _ => .error (.cellCoordinates given)
  | _ => .error (.cellNotPair given)

namespace Grid

/-- The number of rows or columns: an integer above zero. -/
def readSide (fault : Error) : Value → Except Error Nat
  | .int (.ofNat (n + 1)) => .ok (n + 1)
  | _ => .error fault

/-- A region map given row by row. -/
def readMatrix (rows cols : Nat) (given : Value) : Except Error (List (List Int)) := do
  let matrix ← (← readItems given).mapM readItems
  if ¬ HasShape rows cols matrix then throw (.regionShape rows cols)
  match matrix.mapM (·.mapM Value.asInt?) with
  | some ids => return ids
  | none => throw .regionIdType

/-- A grid from its size and a region map, or null for a grid without regions. -/
def read (rows cols regions : Value) : Except Error Grid := do
  let rows ← readSide .gridRows rows
  let cols ← readSide .gridCols cols
  match regions with
  | .null => ofMatrix rows cols none
  | _ => ofMatrix rows cols (some (← readMatrix rows cols regions))

def readBoxes (rows cols boxRows boxCols : Value) : Except Error Grid :=
  match rows, cols, boxRows, boxCols with
  | .int r, .int c, .int br, .int bc => boxes r c br bc
  | _, _, _, _ => .error (.untileable rows cols boxRows boxCols)

/-- A number that serves as a count; a truth value counts as zero or one. -/
def readCount : Value → Except Error Int
  | .int n => .ok n
  | .bool b => .ok b.toNat
  | _ => .error .wrongType

/-- The two numbers of a map to be filled. The number of columns is looked at only when there is a
row to fill. -/
def readCounts (rows cols : Value) : Except Error (Int × Int) := do
  let r ← readCount rows
  if r ≤ 0 then return (r, (cols.asInt?).getD 0)
  return (r, ← readCount cols)

def readCellLists (rows cols regions : Value) : Except Error Grid := do
  let (r, c) ← readCounts rows cols
  checkWidth r c
  let regions ← readItems regions
  let map ← OpenMap.placeAll readItems Cell.read r c 0 (OpenMap.empty r c) regions
  if map.any (·.any Option.isNone) then throw .regionsIncomplete
  let _ ← readSide .gridRows rows
  let _ ← readSide .gridCols cols
  ofOpenMap r c map

/-! ## Asking about untyped coordinates -/

/-- Whether coordinates lie in a grid. The column is looked at only where the row lies in it. -/
def containsGiven (grid : Grid) (row col : Value) : Except Error Bool := do
  if !(← (Value.int 0).isAtMost row) then return false
  if !(← row.isBelow (.int grid.rows)) then return false
  if !(← (Value.int 0).isAtMost col) then return false
  col.isBelow (.int grid.cols)

/-- An index of a row or a column; a truth value counts as zero or one. -/
def readIndex : Value → Except Error Nat
  | .int n => .ok n.toNat
  | .bool b => .ok b.toNat
  | _ => .error .wrongType

/-- The region at coordinates that lie in the grid, if there is a region map. -/
def regionGiven (grid : Grid) (row col : Value) : Except Error (Option Int) := do
  if grid.regions.isNone then return none
  return grid.regionOf? ⟨← readIndex row, ← readIndex col⟩

end Grid

end GridPuzzle
