import GridPuzzle.Catalog.Basic
import GridPuzzle.VariableKind

/-!
# Puzzles

A puzzle is built step by step: a grid, variable kinds, selected rules, placed rules and clues, in
any order. A step either gives the puzzle with the addition or fails, and then there is no new
puzzle. Rule ids are checked against a catalog where one is given, and cells against the grid as
soon as there is one.
-/

namespace GridPuzzle

/-- A puzzle as far as it has been authored. -/
structure Puzzle where
  grid : Option Grid := none
  kinds : List VariableKind := []
  selected : List Value := []
  placements : List Placement := []
  clues : List Clue := []

namespace Puzzle

def empty : Puzzle := {}

instance : Inhabited Puzzle := ⟨empty⟩

/-! ## Checks -/

/-- A rule id that a step names: the rule is in the catalog, if there is one, and has the scope. -/
def checkRule (catalog : Option Catalog) (id : Value) (scope : Scope) : Except Error Unit :=
  match catalog with
  | none => .ok ()
  | some catalog => do
    let rule ← catalog.get id
    if rule.scope ≠ scope then throw (.ruleScope rule.id rule.scope scope)

def checkPlacement (grid : Grid) (placement : Placement) : Except Error Unit :=
  placement.cells.forM (grid.checkCell (.placement placement.rule))

def checkClue (grid : Grid) (clue : Clue) : Except Error Unit := grid.checkCell .clue clue.cell

/-- Variable kinds in order: no two have one name, and no two have one array. -/
def checkKinds (seen : List VariableKind) : List VariableKind → Except Error Unit
  | [] => .ok ()
  | kind :: rest => do
    if seen.any (·.name == kind.name) then throw (.kindGivenTwice kind.name)
    match seen.find? (·.array == kind.array) with
    | some earlier => throw (.kindsShareArray earlier.name kind.name kind.array)
    | none => checkKinds (seen ++ [kind]) rest

/-! ## Steps -/

def setGrid (puzzle : Puzzle) (grid : Grid) : Except Error Puzzle := do
  puzzle.placements.forM (checkPlacement grid)
  puzzle.clues.forM (checkClue grid)
  return { puzzle with grid := some grid }

def setKinds (puzzle : Puzzle) (kinds : List VariableKind) : Except Error Puzzle := do
  checkKinds [] kinds
  return { puzzle with kinds := kinds }

def selectRule (puzzle : Puzzle) (catalog : Option Catalog) (id : Value) :
    Except Error Puzzle := do
  checkRule catalog id .wholeGrid
  if puzzle.selected.any (·.same id) then throw (.ruleSelectedTwice id)
  return { puzzle with selected := puzzle.selected ++ [id] }

/-- Adds a placement of which the rule has been checked. -/
def insertPlacement (puzzle : Puzzle) (placement : Placement) : Except Error Puzzle := do
  puzzle.grid.forM (checkPlacement · placement)
  return { puzzle with placements := puzzle.placements ++ [placement] }

def addPlacement (puzzle : Puzzle) (catalog : Option Catalog) (placement : Placement) :
    Except Error Puzzle := do
  checkRule catalog (.text placement.rule) .placed
  puzzle.insertPlacement placement

/-- Places a rule on groups that are yet to be read. The rule is checked first. -/
def placeRule (puzzle : Puzzle) (catalog : Option Catalog) (rule groups : Value) :
    Except Error (Puzzle × Placement) := do
  checkRule catalog rule .placed
  let placement ← Placement.read rule groups
  return (← puzzle.insertPlacement placement, placement)

def addClue (puzzle : Puzzle) (clue : Clue) : Except Error Puzzle := do
  puzzle.grid.forM (checkClue · clue)
  return { puzzle with clues := puzzle.clues ++ [clue] }

/-! ## Views -/

/-- The variable kind that a value names. -/
def kind? (puzzle : Puzzle) (name : Value) : Except Error (Option VariableKind) :=
  if name.isKey then .ok (puzzle.kinds.find? fun kind ↦ name.same (.text kind.name))
  else .error .wrongType

def kind (puzzle : Puzzle) (name : Value) : Except Error VariableKind := do
  match ← puzzle.kind? name with
  | some kind => return kind
  | none => throw (.unknownKind name)

def text (puzzle : Puzzle) : String :=
  let size :=
    match puzzle.grid with
    | some grid => Error.size grid.rows grid.cols
    | none => "no grid"
  "PuzzleModel(" ++ size ++ ", variables=" ++ Value.nameList (puzzle.kinds.map VariableKind.name)
    ++ ", global_rules=" ++ (Value.list puzzle.selected).literal
    ++ ", instances=" ++ Text.natText puzzle.placements.length
    ++ ", clues=" ++ Text.natText puzzle.clues.length ++ ")"

/-- The puzzle in short, if its size can be written. -/
def summary (puzzle : Puzzle) : Except Error String :=
  if puzzle.grid.all fun grid ↦ Error.isWritableSize grid.rows grid.cols then .ok puzzle.text
  else .error .wrongValue

end Puzzle

/-!
## Authoring in place

A puzzle under construction is one object that operations change. An operation checks its arguments
against the puzzle and writes to it; a fault ends it, and what it has written until then stays
written.
-/

/-- An operation on a puzzle in place, with an answer or a fault. -/
abbrev Authoring := ExceptT Error (StateM Puzzle)

namespace Authoring

/-- The answer of an operation and the puzzle that it leaves. -/
def runOn {α : Type} (operation : Authoring α) (puzzle : Puzzle) : Except Error α × Puzzle :=
  operation.run puzzle

/-- A computation that may fail and does not write. -/
def attempt {α : Type} (x : Except Error α) : Authoring α := ExceptT.mk (pure x)

def reset : Authoring Unit := set Puzzle.empty

/-- Sets the grid, in which all cells of placements and clues have to lie. -/
def setGrid (grid : Grid) : Authoring Unit := do
  attempt ((← get).placements.forM (Puzzle.checkPlacement grid))
  attempt ((← get).clues.forM (Puzzle.checkClue grid))
  modify fun puzzle ↦ { puzzle with grid := some grid }

def setKinds (kinds : List VariableKind) : Authoring Unit := do
  attempt (Puzzle.checkKinds [] kinds)
  modify fun puzzle ↦ { puzzle with kinds }

/-- Selects a rule of the whole grid, which must not be selected yet. -/
def selectRule (catalog : Option Catalog) (id : Value) : Authoring Unit := do
  attempt (Puzzle.checkRule catalog id .wholeGrid)
  if (← get).selected.any (·.same id) then throw (.ruleSelectedTwice id)
  modify fun puzzle ↦ { puzzle with selected := puzzle.selected ++ [id] }

def insertPlacement (placement : Placement) : Authoring Unit := do
  attempt ((← get).grid.forM (Puzzle.checkPlacement · placement))
  modify fun puzzle ↦ { puzzle with placements := puzzle.placements ++ [placement] }

def addPlacement (catalog : Option Catalog) (placement : Placement) : Authoring Unit := do
  attempt (Puzzle.checkRule catalog (.text placement.rule) .placed)
  insertPlacement placement

def placeRule (catalog : Option Catalog) (rule groups : Value) : Authoring Placement := do
  attempt (Puzzle.checkRule catalog rule .placed)
  let placement ← attempt (Placement.read rule groups)
  insertPlacement placement
  return placement

def addClue (clue : Clue) : Authoring Unit := do
  attempt ((← get).grid.forM (Puzzle.checkClue · clue))
  modify fun puzzle ↦ { puzzle with clues := puzzle.clues ++ [clue] }

/-- Starts a new puzzle on a grid with variable kinds. -/
def configure (grid : Grid) (kinds : List VariableKind) : Authoring Unit := do
  reset
  setGrid grid
  setKinds kinds

end Authoring

end GridPuzzle
