import GridPuzzle.Grid.Basic
import GridPuzzle.Placement

/-!
# Clues and regions from tables

A puzzle drawn on a sheet: a block that holds digits gives clues, and a block that holds labels
gives a region map. Labels can be texts, of which the white space around does not count, or numbers;
regions are numbered in the order in which their labels appear.
-/

namespace GridPuzzle

/-!
## Tables and blocks

A table is the content of a sheet, row by row. A block is a rectangle of it, whose first row and
column are counted from one as on the sheet. The cells of a block are counted from zero, and those
that lie outside the table are not among them.
-/

/-- The cells of a sheet, row by row; rows may differ in length. -/
abbrev Table := List (List Value)

/-- Whether a position lies within bounds, both ends included. -/
def isWithin (row col : Int) (rowBounds colBounds : Int × Int) : Bool :=
  rowBounds.1 ≤ row && row ≤ rowBounds.2 && colBounds.1 ≤ col && col ≤ colBounds.2

/-- A rectangle of a sheet: its first row and column, counted from one, and its size. -/
structure Block where
  firstRow : Int
  firstCol : Int
  rows : Int
  cols : Int
deriving DecidableEq, Inhabited

namespace Block

/-- The first and the last row, counted from zero. -/
def rowBounds (block : Block) : Int × Int :=
  (block.firstRow - 1, block.rows + (block.firstRow - 1) - 1)

/-- The first and the last column, counted from zero. -/
def colBounds (block : Block) : Int × Int :=
  (block.firstCol - 1, block.cols + (block.firstCol - 1) - 1)

/-- A position of the sheet, counted from zero, as a cell of the block. -/
def cellAt? (block : Block) (row col : Nat) : Option Cell :=
  if isWithin row col block.rowBounds block.colBounds then
    some ⟨(row - block.rowBounds.1).toNat, (col - block.colBounds.1).toNat⟩
  else none

/-- The cells of a block with their content, row by row. -/
def cells (block : Block) (table : Table) : List (Cell × Value) :=
  table.zipIdx.flatMap fun (row, rowIndex) ↦
    row.zipIdx.filterMap fun (content, colIndex) ↦
      (block.cellAt? rowIndex colIndex).map (·, content)

end Block

/-! ## What is read from a block -/

namespace Block

mutual

/-- The values that a list holds at any depth; what is no sequence holds itself. -/
def leaves : Value → List Value
  | .list items => itemLeaves items
  | .tuple items => itemLeaves items
  | v => [v]

def itemLeaves : List Value → List Value
  | [] => []
  | v :: rest => leaves v ++ itemLeaves rest

end

/-- Whether a value is null or a non-number. -/
def isMissing (v : Value) : Bool :=
  match v with
  | .null => true
  | _ => v.isNonNumber

/-- A cell without content: a missing value, a list of one missing value, or a text of white space.
-/
def isBlankCell (content : Value) : Bool :=
  match content with
  | .text s => Text.isBlankText s
  | .list items =>
    match itemLeaves items with
    | [v] => isMissing v
    | _ => false
  | _ => isMissing content

/-- The place of a cell as messages give it. -/
def placeOf (cell : Cell) : Value := .tuple [.int cell.row, .int cell.col]

/-- The cells of a block that have content. -/
def filledCells (block : Block) (table : Table) : List (Cell × Value) :=
  (block.cells table).filter (!isBlankCell ·.2)

/-- The fault of a cell that holds several values: whether it is blank cannot be told. -/
def checkSingle : Value → Except Error Unit
  | .list items => if (itemLeaves items).length ≤ 1 then .ok () else .error .wrongValue
  | _ => .ok ()

/-! ## Clues -/

/-- The number that a cell gives. A number with a fraction is cut at the point. -/
def readDigit (sheet : String) (place content : Value) : Except Error Int :=
  match content with
  | .int n => .ok n
  | .bool b => .ok b.toNat
  | .float x =>
    match x.truncate? with
    | some n => .ok n
    | none => .error (.misuse .overflow)
  | .text s =>
    match Text.readInt s with
    | .ok n => .ok n
    | .error _ => .error (.sheetDigit place sheet content)
  | _ => do
    checkSingle content
    throw (.sheetDigit place sheet content)

def clues (block : Block) (sheet : String) (kind : Value) (table : Table) :
    Except Error (List Clue) :=
  (block.filledCells table).mapM fun (cell, content) ↦
    (readDigit sheet (placeOf cell) content).map fun n ↦ ⟨cell, kind, .int n⟩

/-! ## Regions -/

/-- The label of a cell: its content without white space around it. -/
def labelOf : Value → Value
  | .text s => .text (Text.strip s)
  | content => content

/-- The number of a label among the labels met so far, to which it is added if it is new. -/
def numberOf (labels : List Value) (label : Value) : Nat × List Value :=
  match labels.findIdx? (·.same label) with
  | some n => (n, labels)
  | none => (labels.length, labels ++ [label])

def addLabel (state : Grid.OpenMap × List Value) (filled : Cell × Value) :
    Except Error (Grid.OpenMap × List Value) := do
  let (map, labels) := state
  let (cell, content) := filled
  checkSingle content
  let label := labelOf content
  if label.isKey then
    let (id, labels) := numberOf labels label
    return (map.set cell id, labels)
  else throw .wrongType

/-- The regions that a block shows, none of its cells being blank. -/
def regionMap (block : Block) (sheet : String) (table : Table) : Except Error Grid.OpenMap := do
  let blank := Grid.OpenMap.empty block.rows block.cols
  let (map, _) ← (block.filledCells table).foldlM addLabel (blank, [])
  if map.any (·.any Option.isNone) then throw (.regionBlanks sheet)
  return map

def regions (block : Block) (sheet : String) (table : Table) : Except Error Grid := do
  Grid.ofOpenMap block.rows block.cols (← block.regionMap sheet table)

end Block

end GridPuzzle
