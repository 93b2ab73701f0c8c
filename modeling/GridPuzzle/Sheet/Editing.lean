import GridPuzzle.Sheet.Workbook

/-!
# Editing in place

A workbook is edited in memory: a file is opened, values are put into the cells of a sheet one after
another, and at the end the workbook is written to a file. A fault ends the editing; what is open
may then be changed in part, and files are as they were written until then.
-/

namespace GridPuzzle

/-- The files of a directory, and the workbook that is open. -/
structure Desk where
  files : Directory
  opened : Workbook := []

abbrev Editing := ExceptT Error (StateM Desk)

namespace Editing

/-- The answer of an operation and the desk that it leaves. -/
def runOn {α : Type} (operation : Editing α) (desk : Desk) : Except Error α × Desk :=
  operation.run desk

/-- A computation that may fail and does not write. -/
def attempt {α : Type} (x : Except Error α) : Editing α := ExceptT.mk (pure x)

def openFile (file : String) : Editing Unit := do
  let workbook ← attempt ((← get).files.workbook file)
  modify fun desk ↦ { desk with opened := workbook }

def sheet (title : String) : Editing Sheet := do
  match List.lookup title (← get).opened with
  | some sheet => return sheet
  | none => throw (.sheetMissing title)

def writeCell (title : String) (row col : Int) (value : Value) : Editing Unit := do
  let written ← attempt (Directory.writeAt row col (← sheet title) value)
  modify fun desk ↦ { desk with opened := putNamed title written desk.opened }

def saveFile (file : String) : Editing Unit :=
  modify fun desk ↦ { desk with files := putNamed file desk.opened desk.files }

/-- Puts a solution into a sheet of the open workbook, cell by cell from a position on. Rows and the
position are looked at as they are reached. -/
def writeSolution (title : String) (solution firstRow firstCol : Value) : Editing Unit := do
  let lines ← attempt (readItems solution)
  lines.zipIdx.forM fun (line, i) ↦ do
    let values ← attempt (readItems line)
    values.zipIdx.forM fun (value, j) ↦ do
      let row ← attempt (Directory.lineAt firstRow i)
      let col ← attempt (Directory.lineAt firstCol j)
      writeCell title row col value

def saveSolution (file title : String) (solution firstRow firstCol : Value) : Editing Unit := do
  openFile file
  let _ ← sheet title
  writeSolution title solution firstRow firstCol
  saveFile file

/-- Copies a file under a new name and returns that name. -/
def copyFile (file addition : String) : Editing String := do
  let name := Directory.copyName file addition
  if name.toList.contains '/' then throw .wrongValue
  let workbook ← attempt ((← get).files.workbook file)
  if name == file then throw (.misuse .sameFile)
  modify fun desk ↦ { desk with files := putNamed name workbook desk.files }
  return name

end Editing

end GridPuzzle
