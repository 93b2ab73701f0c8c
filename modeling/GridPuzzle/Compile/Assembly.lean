import GridPuzzle.Compile.Blocks
import GridPuzzle.Compile.Declarations
import GridPuzzle.Compile.Selection
import GridPuzzle.Document.Check

/-!
# Compiling a puzzle

A puzzle is compiled into one document: the checked puzzle's declarations, clues, selected rules and
placements, in this order, with blank lines between the sections. The finished document is checked
once more as text.
-/

namespace GridPuzzle

/-- The section that includes the solver's library of constraints. -/
def prelude : String := "include \"globals.mzn\";"

/-- The section that asks for a solution. -/
def solveItem : String := "solve satisfy;"

def selectedBlocks (puzzle : Puzzle) (grid : Grid) (selection : Selection) :
    Except Error (List Emission) := do
  let rules ← puzzle.selected.mapM selection.get
  rules.mapM (selectedBlock puzzle.placements grid)

/-- The blocks of the placements, which are counted from one. -/
def allPlacementBlocks (puzzle : Puzzle) (grid : Grid) (selection : Selection) :
    Except Error (List Emission) := do
  let blocks ← (puzzle.placements.zipIdx 1).mapM fun (placement, position) ↦ do
    let rule ← selection.get (.text placement.rule)
    placementBlocks puzzle.placements grid rule position placement
  return blocks.flatten

def sections (puzzle : Puzzle) (grid : Grid) (selection : Selection) :
    Except Error (List Emission) := do
  let size ← gridSection grid
  let kinds ← puzzle.kinds.mapM kindSection
  let clues ← if puzzle.clues.isEmpty then pure [] else (clueBlock puzzle).map ([·])
  let selected ← selectedBlocks puzzle grid selection
  let placed ← allPlacementBlocks puzzle grid selection
  let opening := prelude :: size :: kinds ++ clues
  return opening.map Emission.plain ++ selected ++ placed ++ [.plain solveItem]

/-- Sections with a blank line between each two, and a line break at the end. -/
def documentText (sections : List Emission) : String :=
  Text.join "\n\n" (sections.map Emission.text) ++ "\n"

def shapes (puzzle : Puzzle) (grid : Grid) : Document.Shapes :=
  ("regions", (grid.rows, grid.cols))
    :: puzzle.kinds.map fun kind ↦ (kind.array, (grid.rows, grid.cols))

/-- The document of a puzzle, with the warnings raised on the way. -/
def compile (catalog : Catalog) (puzzle : Puzzle) : Except Error Emission := do
  let (grid, selection) ← Selection.ofPuzzle catalog puzzle
  let sections ← sections puzzle grid selection
  let text := documentText sections
  Document.check text (shapes puzzle grid)
  return ⟨text, sections.flatMap Emission.warnings⟩

def Puzzle.withoutRules (puzzle : Puzzle) : Puzzle :=
  { puzzle with selected := [], placements := [] }

/-- The document of a puzzle where there may be no catalog. A puzzle that uses no rule needs none;
where a rule has to be looked up and there is no catalog, the puzzle has otherwise been checked. -/
def compileWith (catalog : Option Catalog) (puzzle : Puzzle) : Except Error Emission :=
  match catalog with
  | some catalog => compile catalog puzzle
  | none => do
    let _ ← Selection.ofPuzzle .empty puzzle.withoutRules
    if puzzle.selected.isEmpty && puzzle.placements.isEmpty then compile .empty puzzle
    else throw (.misuse .missingAttribute)

end GridPuzzle
