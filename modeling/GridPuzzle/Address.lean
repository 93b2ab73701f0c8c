import GridPuzzle.Document.CellReference
import GridPuzzle.Grid.Reader
import GridPuzzle.Naming
import GridPuzzle.Number

/-!
# Addressing cells in emitted text

Puzzle data counts rows and columns from zero, emitted text from one, and the shift happens here and
nowhere else. A cell of a variable kind is written as an element of the kind's array; lists, sums
and multi-digit numerals of cells are written from such elements. Where a number would be too long
to be written or read, nothing is.

Where a cell is given untyped, its kind has to be a text and its coordinates have to be numbers, but
not integers: they are shifted and written whatever number they are. The coordinates are shifted
before the kind is looked at, and cells are read one by one, so of several faults the first is
reported.
-/

namespace GridPuzzle

/-- Coordinates as emitted text counts them. -/
def toEmitted (row col : Int) : Int × Int := (row + 1, col + 1)

/-- Coordinates as puzzle data counts them. -/
def fromEmitted (row col : Int) : Int × Int := (row - 1, col - 1)

/-- The element of an array at coordinates counted from zero. -/
def elementText (array : String) (row col : Int) : String :=
  let (r, c) := toEmitted row col
  array ++ "[" ++ Text.intText r ++ ", " ++ Text.intText c ++ "]"

/-- Whether coordinates counted from zero can be written counted from one. -/
def isWritablePlace (row col : Int) : Bool :=
  let (r, c) := toEmitted row col
  Text.isWritable r && Text.isWritable c

/-- The reference to a cell of a variable kind, its coordinates counted from zero. -/
def cellRef (kind : String) (row col : Int) : Except Error String := do
  let array ← arrayName kind
  if isWritablePlace row col then return elementText array row col
  else throw .wrongValue

def cellRefs (kind : String) (cells : List (Int × Int)) : Except Error (List String) :=
  cells.mapM fun cell ↦ cellRef kind cell.1 cell.2

def cellList (kind : String) (cells : List (Int × Int)) : Except Error String := do
  let refs ← cellRefs kind cells
  return "[" ++ Text.join ", " refs ++ "]"

def cellSum (kind : String) (cells : List (Int × Int)) : Except Error String := do
  let refs ← cellRefs kind cells
  return Text.join " + " refs

/-- A power of ten: a one with as many zeros as the exponent says. -/
def powerText (exponent : Nat) : String := String.ofList ('1' :: List.replicate exponent '0')

/-- The terms of a numeral: each reference with the power of ten of its place. -/
def numeralTerms : List String → List String
  | [] => []
  | [ref] => [ref]
  | ref :: next :: rest =>
    (powerText (rest.length + 1) ++ " * " ++ ref) :: numeralTerms (next :: rest)

/-- The multi-digit number read from references, most significant first. -/
def numeralText : List String → String
  | [ref] => ref
  | refs => "(" ++ Text.join " + " (numeralTerms refs) ++ ")"

/-- The multi-digit number read from references, if the powers of ten in it can be written. -/
def numeralOf (refs : List String) : Except Error String :=
  if refs.length ≤ Text.maxDigits then .ok (numeralText refs) else .error .wrongValue

/-- The multi-digit number read from the cells of a variable kind, most significant first. -/
def numeral (kind : String) (cells : List (Int × Int)) : Except Error String := do
  if cells.isEmpty then throw .emptyNumeral
  numeralOf (← cellRefs kind cells)

/-- The array and the coordinates, counted from zero, that a reference names. -/
def parseCellRef (text : String) : Except Error (String × Nat × Nat) :=
  match CellReference.ofText? (Text.trim text.toList) with
  | none => .error (.notCellReference text)
  | some reference =>
    if !reference.isReadable then .error .wrongValue
    else if reference.row < 1 || reference.col < 1 then .error (.cellReferenceBase text)
    else
      .ok (reference.array, Prod.map Int.toNat Int.toNat (fromEmitted reference.row reference.col))

/-! ## Cells that are given untyped -/

def readText (given : Value) : Except Error String :=
  match given with
  | .text s => .ok s
  | _ => .error (.misuse .missingAttribute)

/-- Coordinates moved by a distance in both directions. -/
def readShifted (distance : Int) (row col : Value) : Except Error (Number × Number) := do
  let r ← (← Number.read row).add (.int distance)
  let c ← (← Number.read col).add (.int distance)
  return (r, c)

def readToEmitted (row col : Value) : Except Error (Number × Number) := readShifted 1 row col

def readFromEmitted (row col : Value) : Except Error (Number × Number) := readShifted (-1) row col

def readCellRef (kind row col : Value) : Except Error String := do
  let (r, c) ← readToEmitted row col
  let array ← arrayName (← readText kind)
  if r.isWritable && c.isWritable then
    return array ++ "[" ++ r.text ++ ", " ++ c.text ++ "]"
  else throw .wrongValue

def readCellRefs (kind cells : Value) : Except Error (List String) := do
  (← readItems cells).mapM fun cell ↦ do
    let (row, col) ← readPair cell
    readCellRef kind row col

def readCellList (kind cells : Value) : Except Error String := do
  return "[" ++ Text.join ", " (← readCellRefs kind cells) ++ "]"

def readCellSum (kind cells : Value) : Except Error String := do
  return Text.join " + " (← readCellRefs kind cells)

def readNumeral (kind cells : Value) : Except Error String := do
  if !cells.isTruthy then throw .emptyNumeral
  numeralOf (← readCellRefs kind cells)

end GridPuzzle
