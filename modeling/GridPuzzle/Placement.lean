import GridPuzzle.Grid.Reader

/-!
# Groups, placements and clues

A group is a sequence of cells with an optional value; rules read its cells in order. A placement
binds a rule to groups. A clue pins the value of one cell of one variable kind. Cells may repeat,
and whether they lie in a grid is not looked at here.
-/

namespace GridPuzzle

inductive GroupValue where
  | absent
  | int (n : Int)
  | float (x : Double)
  | text (s : String)
deriving DecidableEq, Inhabited

def GroupValue.toValue : GroupValue → Value
  | absent => .null
  | int n => .int n
  | float x => .float x
  | text s => .text s

structure Group where
  cells : List Cell
  value : GroupValue := .absent
deriving DecidableEq, Inhabited

structure Placement where
  rule : String
  groups : List Group
deriving DecidableEq, Inhabited

def Placement.cells (placement : Placement) : List Cell := placement.groups.flatMap Group.cells

inductive ClueValue where
  | int (n : Int)
  | bool (b : Bool)
deriving DecidableEq, Inhabited

def ClueValue.toValue : ClueValue → Value
  | int n => .int n
  | bool b => .bool b

/-- A pinned value for one cell. What stands for the variable kind is looked up only when the puzzle
is compiled, and may be anything until then. -/
structure Clue where
  cell : Cell
  kind : Value
  value : ClueValue
deriving Inhabited

/-! ## Reading -/

def GroupValue.read : Value → Except Error GroupValue
  | .null => .ok .absent
  | .int n => .ok (.int n)
  | .float x => .ok (.float x)
  | .text s => .ok (.text s)
  | given => .error (.groupValue given)

/-- A group from a mapping with `cells` and maybe a `value`, or from a bare sequence of cells. -/
def Group.read (given : Value) : Except Error Group := do
  match given.entries? with
  | some entries =>
    match Entries.find? entries "cells" with
    | none => throw (.groupWithoutCells given)
    | some cells =>
      let cells ← (← readSequence "Group cells" cells).mapM Cell.read
      return ⟨cells, ← GroupValue.read (Entries.get entries "value")⟩
  | none => return ⟨← (← readSequence "A group" given).mapM Cell.read, .absent⟩

def Placement.read (rule groups : Value) : Except Error Placement := do
  match rule with
  | .text id =>
    if id.isEmpty then throw .placementWithoutRule
    return ⟨id, ← (← readSequence "Instance groups" groups).mapM Group.read⟩
  | _ => throw .placementWithoutRule

def ClueValue.read : Value → Except Error ClueValue
  | .int n => .ok (.int n)
  | .bool b => .ok (.bool b)
  | given => .error (.clueValue given)

def Clue.read (row col kind value : Value) : Except Error Clue := do
  let cell ← Cell.read (.tuple [row, col])
  return ⟨cell, kind, ← ClueValue.read value⟩

end GridPuzzle
