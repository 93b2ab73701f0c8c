import GridPuzzle.Number
import GridPuzzle.Sheet.Import

/-!
# Blocks that are given untyped

Where a block starts and how large it is may be given as numbers of any kind. Positions of a sheet
are compared with its bounds whatever they are; but a cell of a grid is at whole coordinates, and a
grid has a whole size, so a block that starts at a floating-point number has nothing to give.
-/

namespace GridPuzzle

/-- Whether a position lies within bounds that are given untyped, both ends included. The column is
looked at only where the row lies within its bounds. -/
def isWithinGiven (row col rowBounds colBounds : Value) : Except Error Bool := do
  let (top, bottom) ← readPair rowBounds
  let (left, right) ← readPair colBounds
  if !(← top.isAtMost row) then return false
  if !(← row.isAtMost bottom) then return false
  if !(← left.isAtMost col) then return false
  col.isAtMost right

/-- The bounds of a block by numbers of any kind. -/
structure Frame where
  top : Number
  bottom : Number
  left : Number
  right : Number
deriving DecidableEq, Inhabited

namespace Frame

/-- The last row or column of a block, counted from zero like the first one. -/
def lastOf (size : Value) (first : Number) : Except Error Number := do
  (← (← Number.read size).add first).sub (.int 1)

/-- The bounds of a block from its first row and column, counted from one, and its size. -/
def read (firstRow firstCol rows cols : Value) : Except Error Frame := do
  let top ← (← Number.read firstRow).sub (.int 1)
  let left ← (← Number.read firstCol).sub (.int 1)
  return ⟨top, ← lastOf rows top, left, ← lastOf cols left⟩

/-- The block, if its bounds are integers. -/
def toBlock? (frame : Frame) : Option Block := do
  let top ← frame.top.asInt?
  let bottom ← frame.bottom.asInt?
  let left ← frame.left.asInt?
  let right ← frame.right.asInt?
  return ⟨top + 1, left + 1, bottom - top + 1, right - left + 1⟩

/-- The coordinates of a position of the sheet within the block, if it lies there. -/
def placeAt? (frame : Frame) (row col : Nat) : Except Error (Option (Number × Number)) := do
  let bounds (first last : Number) : Value := .tuple [first.toValue, last.toValue]
  if ← isWithinGiven (.int row) (.int col) (bounds frame.top frame.bottom)
      (bounds frame.left frame.right) then
    return some (← (Number.int row).sub frame.top, ← (Number.int col).sub frame.left)
  else return none

/-- The positions of a sheet that have content, row by row. -/
def filledPositions (table : Table) : List ((Nat × Nat) × Value) :=
  (table.zipIdx.flatMap fun (row, rowIndex) ↦
    row.zipIdx.map fun (content, colIndex) ↦ ((rowIndex, colIndex), content)).filter
      (!Block.isBlankCell ·.2)

/-- The clue of a position, if it lies in the block. Its coordinates have to be integers. -/
def clueAt? (frame : Frame) (sheet : String) (kind : Value) (filled : (Nat × Nat) × Value) :
    Except Error (Option Clue) := do
  match ← frame.placeAt? filled.1.1 filled.1.2 with
  | none => return none
  | some (row, col) =>
    let n ← Block.readDigit sheet (.tuple [row.toValue, col.toValue]) filled.2
    return some (← Clue.read row.toValue col.toValue kind (.int n))

end Frame

namespace Block

def readClues (sheet : String) (kind firstRow firstCol rows cols : Value) (table : Table) :
    Except Error (List Clue) := do
  let frame ← Frame.read firstRow firstCol rows cols
  match frame.toBlock? with
  | some block => block.clues sheet kind table
  | none =>
    return (← (Frame.filledPositions table).mapM (frame.clueAt? sheet kind)).filterMap id

/-- The grid whose regions a block shows. A size that is no integer is a fault of the grid, and a
start that is none is a fault of the first cell with content. -/
def readRegions (sheet : String) (firstRow firstCol rows cols : Value) (table : Table) :
    Except Error Grid := do
  let (r, c) ← Grid.readCounts rows cols
  Grid.checkWidth r c
  let frame ← Frame.read firstRow firstCol rows cols
  let map ←
    match frame.toBlock? with
    | some block => block.regionMap sheet table
    | none =>
      let places ← (Frame.filledPositions table).mapM fun filled ↦
        frame.placeAt? filled.1.1 filled.1.2
      if places.any Option.isSome then throw .wrongType
      if 0 < r ∧ 0 < c then throw (.regionBlanks sheet)
      pure (Grid.OpenMap.empty r c)
  let _ ← Grid.readSide .gridRows rows
  let _ ← Grid.readSide .gridCols cols
  Grid.ofOpenMap r c map

end Block

end GridPuzzle
