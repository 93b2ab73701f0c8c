import GridPuzzle.Document.CellReference
import GridPuzzle.Document.Code
import GridPuzzle.Error
import GridPuzzle.Grid.Reader
import GridPuzzle.Number

/-!
# The check of an emitted document

No name is declared twice, and every reference with literal coordinates meets its array: the
references to an array in the shape of the grid lie within that shape, and any other array is one
that the document declares. A reference whose numbers are too long to be read meets nothing.

Where shapes are given untyped, they are looked at only where a reference is found: the shape of its
array has to be a pair of values that numbers can be compared with.
-/

namespace GridPuzzle.Document

/-- The rows and columns of the arrays that have one element for every cell. -/
abbrev Shapes := List (String × (Nat × Nat))

abbrev Found := CellReference × String

def firstRepeated? (seen : List String) : List String → Option String
  | [] => none
  | name :: rest =>
    if seen.contains name then some name else firstRepeated? (name :: seen) rest

/-- Accepts a reference that lies within a shape. -/
def checkWithin (rows cols : Nat) (found : Found) : Except Error Unit :=
  let (reference, text) := found
  if 1 ≤ reference.row && reference.row ≤ rows && 1 ≤ reference.col && reference.col ≤ cols then
    .ok ()
  else .error (.referenceOutside text (.int rows) (.int cols))

/-- Accepts a reference that passes the check of its array, or, if its array has none, one whose
array is declared. -/
def checkReference (checkOf : String → Option (Found → Except Error Unit)) (declared : List String)
    (found : Found) : Except Error Unit :=
  let (reference, text) := found
  if !reference.isReadable then .error .wrongValue
  else
    match checkOf reference.array with
    | some check => check found
    | none =>
      if declared.contains reference.array then .ok ()
      else .error (.referenceUndeclared text reference.array)

/-- Accepts a document in which names are declared once and references pass the checks of their
arrays. -/
def checkWith (checkOf : String → Option (Found → Except Error Unit)) (text : String) :
    Except Error Unit :=
  match firstRepeated? [] (declaredNames text) with
  | some name => .error (.declaredTwice name)
  | none =>
    let code := codeOf text
    (CellReference.allIn code).forM (checkReference checkOf (declaredArrays code))

def check (text : String) (shapes : Shapes) : Except Error Unit :=
  checkWith (fun array ↦ (shapes.lookup array).map fun (rows, cols) ↦ checkWithin rows cols) text

/-! ## Untyped shapes -/

/-- Accepts a reference that lies within a shape. The columns are looked at only where the row lies
within the shape. -/
def checkWithinGiven (shape : Value) (found : Found) : Except Error Unit := do
  let (reference, text) := found
  let (rows, cols) ← readPair shape
  let isRow ← if reference.row < 1 then pure false else (Value.int reference.row).isAtMost rows
  let isPlace ←
    if !isRow || reference.col < 1 then pure false else (Value.int reference.col).isAtMost cols
  if isPlace then return () else throw (.referenceOutside text rows cols)

/-- The check of an array that is given a shape. -/
def givenCheck? (shapes : Value) (array : String) : Option (Found → Except Error Unit) :=
  match shapes.entries? with
  | some entries => (Entries.find? entries array).map checkWithinGiven
  | none =>
    if (shapes.items?.getD [.text array]).any (Value.same (.text array)) then
      some fun _ ↦ .error .wrongType
    else none

def checkGiven (text : String) (shapes : Value) : Except Error Unit :=
  checkWith (givenCheck? shapes) text

end GridPuzzle.Document
