import GridPuzzle.Document.Code
import GridPuzzle.Puzzle

/-!
# The selection of rules

Before anything is emitted, a puzzle is checked against a catalog: it has a grid, the arrays of its
variable kinds are distinct, its clues fit, every rule it names exists and has the right scope, its
cells lie in the grid, and every rule that it uses can be emitted for it. The result is the
selection, the rules in use in the order of their first use.
-/

namespace GridPuzzle

/-- The rules that a puzzle uses, each once, in the order of their first use. -/
abbrev Selection := List Rule

namespace Selection

/-- Adds a rule that is not in use yet. -/
def add (selection : Selection) (rule : Rule) : Selection :=
  if selection.any (·.id == rule.id) then selection else selection ++ [rule]

def find? (selection : Selection) (id : Value) : Option Rule :=
  List.find? (fun rule ↦ id.same (.text rule.id)) selection

/-- The rule of an id, which has to be in use. -/
def get (selection : Selection) (id : Value) : Except Error Rule :=
  match selection.find? id with
  | some rule => .ok rule
  | none => .error (if id.isKey then .missingKey else .wrongType)

/-! ## Checks -/

/-- The rule of an id that is used in a place for rules of a scope. -/
def resolve (catalog : Catalog) (reference : Reference) (scope : Scope) (id : Value) :
    Except Error Rule := do
  let rule ← catalog.get id
  if rule.scope ≠ scope then throw (.ruleUse reference rule.id rule.scope scope)
  return rule

/-- A clue names a kind of the puzzle, lies in the grid and has a value of the kind's domain. -/
def checkClue (puzzle : Puzzle) (grid : Grid) (clue : Clue) : Except Error Unit := do
  match ← puzzle.kind? clue.kind with
  | none => throw (.clueKind clue.cell clue.kind)
  | some kind =>
    grid.checkCell .clue clue.cell
    if !kind.accepts clue.value.toValue then
      throw (.clueDomain clue.value.toValue clue.cell kind.name)

def resolveSelected (catalog : Catalog) (selection : Selection) (ids : List Value) :
    Except Error Selection :=
  ids.foldlM (fun selection id ↦
    (resolve catalog .selection .wholeGrid id).map selection.add) selection

/-- The rule of a placement, whose cells lie in the grid. -/
def resolvePlacement (catalog : Catalog) (grid : Grid) (position : Nat) (placement : Placement) :
    Except Error Rule := do
  let rule ← resolve catalog (.placement position) .placed (.text placement.rule)
  placement.cells.forM (grid.checkCell (.numbered position placement.rule))
  return rule

/-- The rules that are placed, the placements being counted from one. -/
def resolvePlacements (catalog : Catalog) (grid : Grid) (selection : Selection)
    (placements : List Placement) : Except Error Selection :=
  (placements.zipIdx 1).foldlM (fun selection (placement, position) ↦
    (resolvePlacement catalog grid position placement).map selection.add) selection

/-- No array of the puzzle bears a name that the rule's fragment declares. -/
def checkNames (kinds : List VariableKind) (rule : Rule) : Except Error Unit :=
  ((rule.fragment.map Document.declaredNames).getD []).forM fun name ↦
    match kinds.find? (·.array == name) with
    | some kind => .error (.nameClash kind.name name rule.id)
    | none => .ok ()

/-- A rule in use reads kinds of the puzzle, can be emitted, consumes placed rules, and declares no
name of an array. -/
def checkRule (catalog : Catalog) (kinds : List VariableKind) (rule : Rule) :
    Except Error Unit := do
  let names := kinds.map VariableKind.name
  let missing := rule.missingKinds names
  if !missing.isEmpty then throw (.missingKinds rule.id missing names)
  if !rule.isEmittable then throw (.unemittable rule.id)
  rule.consumes.forM fun dependency ↦
    (resolve catalog (.dependency rule.id) .placed (.text dependency)).map fun _ ↦ ()
  checkNames kinds rule

def checkArrays (kinds : List VariableKind) : Except Error Unit :=
  let arrays := kinds.map VariableKind.array
  if arrays.Nodup then .ok () else .error (.clashingArrays arrays)

/-- The rules a puzzle uses, if all of it can be emitted. The grid comes with them. -/
def ofPuzzle (catalog : Catalog) (puzzle : Puzzle) : Except Error (Grid × Selection) :=
  match puzzle.grid with
  | none => .error .noGrid
  | some grid => do
    checkArrays puzzle.kinds
    puzzle.clues.forM (checkClue puzzle grid)
    let selection ← resolveSelected catalog [] puzzle.selected
    let selection ← resolvePlacements catalog grid selection puzzle.placements
    selection.forM (checkRule catalog puzzle.kinds)
    return (grid, selection)

end Selection

end GridPuzzle
