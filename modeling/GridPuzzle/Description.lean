import GridPuzzle.Grid.Reader
import GridPuzzle.Puzzle
import GridPuzzle.Value.Order
import GridPuzzle.Yaml.Reader

/-!
# Descriptions of puzzles

A description is a mapping with a grid and maybe variable kinds, rules, constraints and clues. It is
read part by part in this order, and the first fault is reported with its place. Only the keys of
the mapping itself have to be known ones.
-/

namespace GridPuzzle.Description

def knownKeys : List String := ["clues", "constraints", "grid", "rules", "variables"]

def entriesOf (place : String) (given : Value) : Except Error Entries :=
  match given.entries? with
  | some entries => .ok entries
  | none => .error (.notMapping place)

/-- The items of a list; null stands for a list without items. -/
def itemsOf (place : String) : Value → Except Error (List Value)
  | .null => .ok []
  | given =>
    match given.list? with
    | some items => .ok items
    | none => .error (.notList place)

/-- A place within a list. -/
def numbered (place : String) (index : Nat) : String := place ++ "[" ++ Text.natText index ++ "]"

/-! ## Parts -/

def readRegions (given : Value) : Except Error Value := do
  let rows ← itemsOf "grid.regions" given
  let rows ← rows.zipIdx.mapM fun (row, index) ↦ itemsOf (numbered "grid.regions" index) row
  return .tuple (rows.map Value.tuple)

def readGrid (given : Value) : Except Error Grid := do
  let entries ← entriesOf "grid" given
  let rows := Entries.get entries "rows"
  let cols := Entries.get entries "cols"
  let regions := Entries.get entries "regions"
  match Entries.find? entries "boxes", regions with
  | some boxes, .null =>
    match boxes.list? with
    | some [boxRows, boxCols] => Grid.readBoxes rows cols boxRows boxCols
    | _ => throw .boxesShape
  | some _, _ => throw .boxesAndRegions
  | none, .null => Grid.read rows cols .null
  | none, _ => Grid.read rows cols (← readRegions regions)

/-- One variable kind from its name and its settings, which may be left out. Its place is made up of
the name, whether it is needed or not, so the name has to be one that can be written. -/
def readKind (name settings : Value) : Except Error VariableKind := do
  if !name.isWritable then throw .wrongValue
  let place := "variables." ++ name.shown
  let entries ← if settings.isTruthy then entriesOf place settings else pure []
  let type := (Entries.find? entries "type").getD (.text "int")
  VariableKind.read name type (Entries.get entries "min") (Entries.get entries "max")

def readKinds (given : Value) : Except Error (List VariableKind) := do
  let entries ← entriesOf "variables" given
  entries.mapM fun (name, settings) ↦ readKind name settings

/-- A rule id, which is a text that is not blank; the white space around it is dropped. -/
def readRuleId (fault : Error) : Value → Except Error String
  | .text s => if Text.isBlankText s then .error fault else .ok (Text.strip s)
  | _ => .error fault

def addRule (catalog : Option Catalog) (puzzle : Puzzle) (item : Value × Nat) :
    Except Error Puzzle := do
  let (given, index) := item
  let id ← readRuleId (.ruleEntry index) given
  puzzle.selectRule catalog (.text id)

def addConstraint (catalog : Option Catalog) (puzzle : Puzzle) (item : Value × Nat) :
    Except Error Puzzle := do
  let (given, index) := item
  let place := numbered "constraints" index
  let entries ← entriesOf place given
  let id ← readRuleId (.constraintRule index) (Entries.get entries "rule")
  let groups ← itemsOf (place ++ ".groups") (Entries.get entries "groups")
  let (puzzle, _) ← puzzle.placeRule catalog (.text id) (.list groups)
  return puzzle

/-- The keys of a clue, all of which are needed, in ascending order. -/
def clueKeys : List String := ["col", "row", "value", "variable"]

def addClue (puzzle : Puzzle) (item : Value × Nat) : Except Error Puzzle := do
  let (given, index) := item
  let entries ← entriesOf (numbered "clues" index) given
  let missing := clueKeys.filter fun key ↦ !Entries.has entries key
  if !missing.isEmpty then throw (.clueKeys index missing)
  let get := Entries.get entries
  puzzle.addClue (← Clue.read (get "row") (get "col") (get "variable") (get "value"))

/-! ## Whole descriptions -/

/-- The keys of a description are known ones, and the grid is among them. -/
def checkKeys (entries : Entries) : Except Error Unit := do
  let isKnown (key : Value) : Bool := knownKeys.any fun known ↦ key.same (.text known)
  let unknown := (entries.map Prod.fst).filter (!isKnown ·)
  if !unknown.isEmpty then
    match Value.sortKeys? unknown with
    | some keys => throw (.unknownKeys keys (knownKeys.map Value.text))
    | none => throw .wrongType
  if !Entries.has entries "grid" then throw .gridMissing

def addKinds (puzzle : Puzzle) : Value → Except Error Puzzle
  | .null => .ok puzzle
  | given => do puzzle.setKinds (← readKinds given)

/-- The puzzle of a description. Rules are checked against a catalog if one is given. -/
def toPuzzle (catalog : Option Catalog) (description : Value) : Except Error Puzzle := do
  let entries ← entriesOf "puzzle" description
  checkKeys entries
  let grid ← readGrid (Entries.get entries "grid")
  let puzzle ← Puzzle.empty.setGrid grid
  let puzzle ← addKinds puzzle (Entries.get entries "variables")
  let rules ← itemsOf "rules" (Entries.get entries "rules")
  let puzzle ← rules.zipIdx.foldlM (addRule catalog) puzzle
  let constraints ← itemsOf "constraints" (Entries.get entries "constraints")
  let puzzle ← constraints.zipIdx.foldlM (addConstraint catalog) puzzle
  let clues ← itemsOf "clues" (Entries.get entries "clues")
  clues.zipIdx.foldlM addClue puzzle

/-- The puzzle that the text of a file describes. -/
def load (catalog : Option Catalog) (path text : String) : Except Error Puzzle := do
  match ← Yaml.readFile path text with
  | .null => throw (.emptyDescription path)
  | description => toPuzzle catalog description

end GridPuzzle.Description
