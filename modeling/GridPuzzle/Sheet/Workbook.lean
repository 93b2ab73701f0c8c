import GridPuzzle.Catalog.Basic
import GridPuzzle.Sheet.Reader

/-!
# Workbooks

A directory holds workbooks under file names, a workbook holds sheets under titles, and a sheet
holds values at positions that are counted from one. A solution is written into a copy of the
workbook that the puzzle was drawn in, so that the puzzle itself stays as it is. A step that fails
changes nothing.
-/

namespace GridPuzzle

/-- A row and a column of a sheet, counted from one. -/
abbrev Position := Nat × Nat

/-- The values of a sheet at their positions; other positions are empty. -/
abbrev Sheet := List (Position × Value)

namespace Sheet

def get? (sheet : Sheet) (position : Position) : Option Value := List.lookup position sheet

def put (position : Position) (value : Value) : Sheet → Sheet
  | [] => [(position, value)]
  | entry :: rest =>
    if entry.1 == position then (position, value) :: rest else entry :: put position value rest

/-- The sheet with a value at a position, which null leaves as it is. -/
def write (sheet : Sheet) (position : Position) : Value → Sheet
  | .null => sheet
  | value => sheet.put position value

/-- The values of a table at the positions from the first one on; null stands for no value. -/
def ofTable (table : Table) : Sheet :=
  table.zipIdx.flatMap fun (row, rowIndex) ↦
    row.zipIdx.filterMap fun (value, colIndex) ↦
      match value with
      | .null => none
      | _ => some ((rowIndex + 1, colIndex + 1), value)

def lastRow (sheet : Sheet) : Nat := (sheet.map (·.1.1)).foldl max 0

def lastCol (sheet : Sheet) : Nat := (sheet.map (·.1.2)).foldl max 0

/-- The words that stand for no value where a sheet is read as a table. -/
def blankWords : List String :=
  ["#N/A", "#N/A N/A", "#NA", "-1.#IND", "-1.#QNAN", "-NaN", "-nan", "1.#IND", "1.#QNAN", "<NA>",
    "N/A", "NA", "NULL", "NaN", "None", "n/a", "nan", "null"]

def readable : Value → Value
  | .text s => if blankWords.contains s then .null else .text s
  | value => value

/-- The content of a row of a sheet up to its last value, null standing for an empty position. -/
def rowValues (sheet : Sheet) (row : Nat) : List Value :=
  let cells := sheet.filter (·.1.1 == row)
  (List.range (lastCol cells)).map fun col ↦
    readable ((get? cells (row, col + 1)).getD .null)

def toTable (sheet : Sheet) : Table :=
  (List.range sheet.lastRow).map fun row ↦ sheet.rowValues (row + 1)

/-- The values with their positions, row by row. -/
def inOrder (sheet : Sheet) : List (Position × Value) :=
  sheet.mergeSort fun a b ↦ a.1.1 < b.1.1 || (a.1.1 == b.1.1 && a.1.2 ≤ b.1.2)

end Sheet

abbrev Workbook := List (String × Sheet)

abbrev Directory := List (String × Workbook)

/-- A list of named things with one of them replaced, or added at the end. -/
def putNamed {α : Type} (name : String) (thing : α) : List (String × α) → List (String × α)
  | [] => [(name, thing)]
  | entry :: rest =>
    if entry.1 == name then (name, thing) :: rest else entry :: putNamed name thing rest

namespace Directory

def fileNames (directory : Directory) : List String := sortNames (directory.map Prod.fst)

def isTitle (title : String) : Bool :=
  !title.isEmpty && !title.toList.any (['\\', '*', '?', ':', '/', '[', ']'].contains ·)

def create (directory : Directory) (file title : String) (table : Table) : Except Error Directory :=
  if !isTitle title then .error .wrongValue
  else if file.toList.contains '/' then .error (.misuse .missingFile)
  else .ok (putNamed file [(title, Sheet.ofTable table)] directory)

def workbook (directory : Directory) (file : String) : Except Error Workbook :=
  match List.lookup file directory with
  | some workbook => .ok workbook
  | none => .error (.misuse .missingFile)

def table (directory : Directory) (file title : String) : Except Error Table := do
  let workbook ← directory.workbook file
  match List.lookup title workbook with
  | some sheet => return sheet.toTable
  | none => throw .wrongValue

/-! ## Copies -/

/-- The stem and the suffix of a file name. The suffix starts at the last point, which is neither
the first nor the last character. -/
def splitName (name : String) : String × String :=
  let chars := name.toList.reverse
  let suffix := chars.takeWhile (· != '.')
  match chars.dropWhile (· != '.') with
  | _ :: stem =>
    if suffix.isEmpty || stem.isEmpty then (name, "")
    else (String.ofList stem.reverse, String.ofList ('.' :: suffix.reverse))
  | [] => (name, "")

/-- The name of a copy: the addition stands between the stem and the suffix. -/
def copyName (file addition : String) : String :=
  let (stem, suffix) := splitName file
  stem ++ addition ++ suffix

def copy (directory : Directory) (file addition : String) : Except Error (Directory × String) := do
  let name := copyName file addition
  if name.toList.contains '/' then throw .wrongValue
  let workbook ← directory.workbook file
  if name == file then throw (.misuse .sameFile)
  return (putNamed name workbook directory, name)

/-! ## Solutions -/

/-- Writes a value to a row and a column, which are counted from one. -/
def writeAt (row col : Int) (sheet : Sheet) (value : Value) : Except Error Sheet :=
  if 1 ≤ row ∧ 1 ≤ col then .ok (sheet.write (row.toNat, col.toNat) value) else .error .wrongValue

/-- A row or a column so far behind the first one, which has to be a number. There is none between
two rows or two columns. -/
def lineAt (first : Value) (offset : Nat) : Except Error Int := do
  let line ← (← Number.read first).add (.int offset)
  match line.toValue.toInt? with
  | some n => return n
  | none => throw .wrongValue

/-- Writes the rows of a solution that is given untyped. Rows, and the position to start at, are
looked at as they are reached. -/
def writeGiven (firstRow firstCol : Value) (sheet : Sheet) (solution : Value) :
    Except Error Sheet := do
  (← readItems solution).zipIdx.foldlM (fun sheet (values, i) ↦ do
    (← readItems values).zipIdx.foldlM (fun sheet (value, j) ↦ do
      writeAt (← lineAt firstRow i) (← lineAt firstCol j) sheet value) sheet) sheet

def saveGiven (directory : Directory) (file title : String) (solution firstRow firstCol : Value) :
    Except Error Directory := do
  let workbook ← directory.workbook file
  match List.lookup title workbook with
  | none => throw (.sheetMissing title)
  | some sheet =>
    let sheet ← writeGiven firstRow firstCol sheet solution
    return putNamed file (putNamed title sheet workbook) directory

/-! ## Puzzles on sheets -/

def readClues (directory : Directory) (file title : String)
    (kind firstRow firstCol rows cols : Value) : Except Error (List Clue) := do
  Block.readClues title kind firstRow firstCol rows cols (← directory.table file title)

def readRegions (directory : Directory) (file title : String)
    (firstRow firstCol rows cols : Value) : Except Error Grid := do
  Block.readRegions title firstRow firstCol rows cols (← directory.table file title)

end Directory

end GridPuzzle
