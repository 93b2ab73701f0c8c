import GridPuzzle.Naming
import GridPuzzle.Puzzle

/-!
# Blocks of an emitted model

The clues are one block. Every selected rule is a block, and so is every placement, and the fragment
of a placed rule is a block of its own before the first placement. A block starts with a comment
that says where it comes from. A rule that needs regions is replaced by a neutral constraint on a
grid that has none.
-/

namespace GridPuzzle

namespace Emission

def plain (text : String) : Emission := ⟨text, []⟩

/-- The lines of several emissions, one below the other. -/
def stack (parts : List Emission) : Emission :=
  ⟨Text.unlines (parts.map Emission.text), parts.flatMap Emission.warnings⟩

end Emission

/-! ## Clues -/

def ClueValue.emitted : ClueValue → String
  | int n => Text.intText n
  | bool true => "true"
  | bool false => "false"

/-- The constraint that pins a clue of a variable kind. -/
def clueLine (kind : VariableKind) (clue : Clue) : String :=
  "constraint " ++ elementText kind.array clue.cell.row clue.cell.col ++ " = "
    ++ clue.value.emitted ++ ";"

/-- The kind of a clue, which the puzzle has to have. -/
def Puzzle.kindOf (puzzle : Puzzle) (clue : Clue) : Except Error VariableKind := do
  match ← puzzle.kind? clue.kind with
  | some kind => return kind
  | none => throw .missingKey

def clueBlock (puzzle : Puzzle) : Except Error String := do
  let lines ← puzzle.clues.mapM fun clue ↦ (puzzle.kindOf clue).map (clueLine · clue)
  return Text.unlines (comment "clues" :: lines)

/-! ## Rules -/

/-- Whether a rule means nothing on a grid. -/
def Rule.isSkipped (rule : Rule) (grid : Grid) : Bool :=
  rule.requiresRegions && grid.regions.isNone

/-- The neutral constraint that stands for a rule that means nothing on a grid. -/
def skipped (rule : Rule) : Emission :=
  ⟨neutral (rule.id ++ " skipped: no regions defined"), [.regionsNeeded rule.id]⟩

/-- Generated text without the white space around it; where there is none, a neutral constraint. -/
def tidy (emission : Emission) : Emission :=
  let text := Text.strip emission.text
  ⟨if text.isEmpty then neutral "generator produced no constraints" else text, emission.warnings⟩

/-- What a rule's generator produces for groups, if the rule has a generator. -/
def generated (rule : Rule) (groups : List Group) (placements : List Placement) (grid : Grid)
    (position : Option Nat) : Except Error (List Emission) :=
  match rule.generator with
  | none => .ok []
  | some generator =>
    match generator groups placements grid with
    | .ok emission => .ok [tidy emission]
    | .error fault => .error (.generatorFailed rule.id position fault.reason)

/-- A selected rule: its fragment, then what its generator produces. -/
def selectedBlock (placements : List Placement) (grid : Grid) (rule : Rule) :
    Except Error Emission := do
  let header := Emission.plain (comment ("global rule: " ++ rule.id))
  if rule.isSkipped grid then return .stack [header, skipped rule]
  let fragment := rule.fragment.toList.map fun text ↦ Emission.plain (Text.strip text)
  return .stack (header :: fragment ++ (← generated rule [] placements grid none))

/-- The fragment that all placements of a rule share. -/
def sharedBlock (rule : Rule) (fragment : String) : Emission :=
  .stack [.plain (comment ("local rule: " ++ rule.id ++ " (shared definitions)")),
    .plain (Text.strip fragment)]

/-- The cells of a group in the words of the rule's first variable kind, or as pairs. -/
def groupCells (rule : Rule) (group : Group) : Except Error String := do
  let coordinates := group.cells.map fun cell ↦ (Int.ofNat cell.row, Int.ofNat cell.col)
  match rule.primaryKind? with
  | none =>
    return Text.join ", " (coordinates.map fun (row, col) ↦
      "(" ++ Text.intText (row + 1) ++ ", " ++ Text.intText (col + 1) ++ ")")
  | some kind => return Text.join ", " (← cellRefs kind coordinates)

/-- The comment on a group, the groups being counted from one. -/
def groupLine (rule : Rule) (index : Nat) (group : Group) : Except Error String := do
  let cells ← groupCells rule group
  if !group.value.toValue.isWritable then throw .wrongValue
  let suffix :=
    match group.value with
    | .absent => ""
    | value => " (value=" ++ value.toValue.shown ++ ")"
  return comment ("group " ++ Text.natText index ++ ": "
    ++ (if cells.isEmpty then "(empty)" else cells) ++ suffix)

/-- A placement: comments on its groups, then what the generator of its rule produces. -/
def placementBlock (placements : List Placement) (grid : Grid) (rule : Rule) (position : Nat)
    (placement : Placement) : Except Error Emission := do
  let header := comment ("local rule: " ++ rule.id ++ " (instance " ++ Text.natText position ++ ")")
  let groups ← (placement.groups.zipIdx 1).mapM fun (group, index) ↦ groupLine rule index group
  let body ←
    if rule.isSkipped grid then pure [skipped rule]
    else generated rule placement.groups placements grid (some position)
  return .stack ((header :: groups).map Emission.plain ++ body)

/-- The blocks of a placement: before the first of a rule stands the fragment, if it has one. -/
def placementBlocks (placements : List Placement) (grid : Grid) (rule : Rule) (position : Nat)
    (placement : Placement) : Except Error (List Emission) := do
  let isFirst := (placements.take (position - 1)).all (·.rule != placement.rule)
  let shared :=
    match rule.fragment with
    | some fragment => if isFirst && !rule.isSkipped grid then [sharedBlock rule fragment] else []
    | none => []
  return shared ++ [← placementBlock placements grid rule position placement]

end GridPuzzle
