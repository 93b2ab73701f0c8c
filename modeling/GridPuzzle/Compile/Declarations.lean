import GridPuzzle.Grid.Basic
import GridPuzzle.Naming
import GridPuzzle.VariableKind

/-!
# Declarations

The first sections of an emitted model: the size of the grid with its region map, and one array for
every variable kind. Regions are counted from one. A grid without regions has a map of zeros and no
region, so that what is said of every region is then said of none. There is no section for a grid or
a kind with a number too long to be written, nor for a grid of which the columns are too many to be
counted.
-/

namespace GridPuzzle

/-- The region map as it is emitted. -/
def Grid.emittedMap (grid : Grid) : List (List Int) :=
  match grid.regions with
  | none => List.replicate grid.rows (List.replicate grid.cols 0)
  | some map => map.ids.map (·.map (· + 1))

/-- The rows of a matrix between bars. -/
def matrixText (matrix : List (List Int)) : String :=
  "[| " ++ Text.join " | " (matrix.map fun row ↦ Text.join ", " (row.map Text.intText)) ++ " |]"

def declareGrid (grid : Grid) : String :=
  Text.unlines
    [comment (if grid.regions.isSome then "grid" else "grid (no regions defined)"),
      "int: rows = " ++ Text.natText grid.rows ++ ";",
      "int: cols = " ++ Text.natText grid.cols ++ ";",
      "int: n_regions = " ++ Text.natText grid.regionCount ++ ";",
      "array[1..rows, 1..cols] of int: regions = " ++ matrixText grid.emittedMap ++ ";"]

def Domain.text : Domain → String
  | int min max _ => Text.intText min ++ ".." ++ Text.intText max
  | bool => "bool"

def declareKind (kind : VariableKind) : String :=
  Text.unlines
    [comment ("variable kind: " ++ kind.name),
      "array[1..rows, 1..cols] of var " ++ kind.domain.text ++ ": " ++ kind.array ++ ";"]

/-! ## Sections -/

def gridSection (grid : Grid) : Except Error String := do
  if grid.regions.isNone then Grid.checkWidth grid.rows grid.cols
  if Error.isWritableSize grid.rows grid.cols then return declareGrid grid
  else throw .wrongValue

def Domain.isWritable : Domain → Bool
  | int min max _ => Text.isWritable min && Text.isWritable max
  | bool => true

def kindSection (kind : VariableKind) : Except Error String :=
  if kind.domain.isWritable then .ok (declareKind kind) else .error .wrongValue

end GridPuzzle
