import GridPuzzle.Generator.Basic

/-!
# The library of generators

The generators that belong to rules of the standard catalog, and the table of them under the ids of
these rules.
-/

/-!
## Lines and dots

Rules on each two neighbours of a group: along a thermometer the digits increase, along a whisper
they differ by at least five, across a white dot they are consecutive and across a black dot one is
the double of the other.
-/

namespace GridPuzzle.Line

/-- One item for each two neighbours of every group, in order. -/
def items (demand : Cell → Cell → Item) (groups : List Group) : List Item :=
  groups.flatMap fun group ↦ (neighbours group.cells).map fun (a, b) ↦ demand a b

def draft (demand : Cell → Cell → Item) : Drafter := fun groups _ _ ↦ .ok ⟨items demand groups, []⟩

/-- Digits strictly increase from the first cell of a group. -/
def thermometer : Drafter := draft .less

/-- Neighbouring digits differ by at least five. -/
def germanWhisper : Drafter := draft .farApart

/-- Neighbouring digits are consecutive. -/
def whiteDot : Drafter := draft (.dotted .consecutive)

/-- Of neighbouring digits one is the double of the other. -/
def blackDot : Drafter := draft (.dotted .double)

end GridPuzzle.Line

/-!
## Arrows

The first group of an arrow is its pill, read as a multi-digit number, most significant digit first.
The digits along every further group sum to that number. Without a pill or without a further group
nothing is demanded. The number is written even where no further group has a digit.
-/

namespace GridPuzzle.Arrow

/-- The demand of one arrow shaft, the shafts being counted from one. -/
def shaftItems (pill : List Cell) (index : Nat) (shaft : Group) : List Item :=
  if shaft.cells.isEmpty then []
  else
    [.note ("arrow " ++ Text.natText index ++ ": sum equals pill value"),
      .equal (.sum shaft.cells) (.numeral pill)]

def items : List Group → List Item
  | pill :: shafts =>
    if pill.cells.isEmpty then []
    else (shafts.zipIdx 1).flatMap fun (shaft, index) ↦ shaftItems pill.cells index shaft
  | [] => []

/-- Whether the number of the pill can be written, if it is read at all. -/
def isWritablePill : List Group → Bool
  | pill :: _ :: _ => (Term.numeral pill.cells).isWritable
  | _ => true

def draft : Drafter := fun groups _ _ ↦
  if isWritablePill groups then .ok ⟨items groups, []⟩ else .error .unwritable

end GridPuzzle.Arrow

/-!
## Cages

The digits in a cage are all different, and they sum to the cage's total if the group carries an
integer. A value that is not an integer is reported and otherwise ignored.
-/

namespace GridPuzzle

/-- A text that looks like an integer: digit-like characters with minus signs before them. -/
def looksLikeInteger (s : List Char) : Bool :=
  let digits := s.dropWhile (· == '-')
  !digits.isEmpty && digits.all Text.isDigitLike

/-- The integer that the value of a group stands for, if it stands for one. -/
def GroupValue.toInt? : GroupValue → Except Fault (Option Int)
  | absent => .ok none
  | int n => .ok (some n)
  | float x => .ok x.toInt?
  | text s =>
    if looksLikeInteger (Text.trim s.toList) then
      match Text.readInt (Text.strip s) with
      | .ok n => .ok (some n)
      | .error fault => .error (.ofNumeral s fault)
    else .ok none

/-- A value that is there to be read: neither absent nor a text of white space. -/
def GroupValue.isGiven : GroupValue → Bool
  | absent => false
  | text s => !Text.isBlankText s
  | _ => true

namespace Cage

def ignoredTotal (value : GroupValue) : Item :=
  .note ("cage total " ++ value.toValue.literal ++ " ignored: not an integer")

/-- What the value of a cage adds to the demand that its digits differ. -/
def totalDraft (group : Group) : Except Fault Draft := do
  match ← group.value.toInt? with
  | some total => return ⟨[.equal (.sum group.cells) (.constant total)], []⟩
  | none =>
    if group.value.isGiven then
      return ⟨[ignoredTotal group.value], [.totalIgnored group.value]⟩
    else return ⟨[], []⟩

def groupDraft (group : Group) : Except Fault Draft := do
  if group.cells.isEmpty then return ⟨[], []⟩
  let total ← totalDraft group
  return ⟨[.note "all different in killer cage", .allDifferent group.cells] ++ total.items,
    total.warnings⟩

def draft : Drafter := fun groups _ _ ↦ do
  let drafts ← groups.mapM groupDraft
  return ⟨drafts.flatMap Draft.items, drafts.flatMap Draft.warnings⟩

end Cage

end GridPuzzle

/-!
## Region sum lines

A line that passes through several regions is cut into segments, one for each region, and the digits
of its segments have equal sums. A rule of the whole grid demands more: one sum for all segments of
all lines of the puzzle.
-/

namespace GridPuzzle.RegionSum

/-- The rule whose placements the rule of the whole grid reads. -/
def lineRule : String := "region-sum-line"

/-- The cells of a line with the region of each. -/
def labelled (grid : Grid) (cells : List Cell) : Except Fault (List (Int × Cell)) :=
  cells.mapM fun cell ↦
    match grid.regionOf? cell with
    | some region => .ok (region, cell)
    | none => .error .outsideRegionMap

def cellsOf (region : Int) (cells : List (Int × Cell)) : List Cell :=
  (cells.filter (·.1 == region)).map Prod.snd

/-- The cells of a line by region, the regions in ascending order. -/
def segments (grid : Grid) (line : List Cell) : Except Fault (List (List Cell)) := do
  let cells ← labelled grid line
  return (sortedDistinct (cells.map Prod.fst)).map (cellsOf · cells)

/-- The demand of one line, the lines being counted from one: the sum of the first segment equals
that of every other. -/
def lineItems (grid : Grid) (index : Nat) (line : Group) : Except Fault (List Item) := do
  match ← segments grid line.cells with
  | first :: second :: rest =>
    return .note ("region sum line " ++ Text.natText index ++ ": equal sums in each region")
      :: (second :: rest).map fun other ↦ .equal (.segmentSum first) (.segmentSum other)
  | _ => return []

/-- Equal sums of the segments of every line. -/
def lineDraft : Drafter := fun groups _ grid ↦ do
  if grid.regions.isNone then
    return Draft.neutral "region sum line skipped: no regions defined"
  let items ← (groups.zipIdx 1).mapM fun (line, index) ↦ lineItems grid index line
  return ⟨items.flatten, []⟩

/-- The nonempty lines that are placed in a puzzle. -/
def placedLines (placements : List Placement) : List Group :=
  (placements.filter (·.rule == lineRule)).flatMap fun placement ↦
    placement.groups.filter (!·.cells.isEmpty)

/-- The demand that all segments have the sum of the first. -/
def sharedItems : List (List Cell) → List Item
  | [] => []
  | first :: rest =>
    [.note "common total of every region-sum-line segment", .defineTotal (.segmentSum first)]
      ++ rest.map fun other ↦ .equal (.segmentSum other) .sharedTotal

/-- One sum for all segments of all lines of the puzzle. -/
def sharedDraft : Drafter := fun _ placements grid ↦ do
  let lines := placedLines placements
  if lines.isEmpty then
    return Draft.neutral "no region-sum-line instances to aggregate"
  if grid.regions.isNone then
    return Draft.neutral "global region sum lines skipped: no regions defined"
  let found ← lines.mapM fun line ↦ segments grid line.cells
  return ⟨sharedItems found.flatten, []⟩

end GridPuzzle.RegionSum

/-! ## The table of generators -/

namespace GridPuzzle

abbrev GeneratorTable := List (String × Generator)

def libraryDrafters : List (String × Drafter) :=
  [("global-region-sum-lines", RegionSum.sharedDraft),
    ("killer-cage", Cage.draft),
    ("arrow", Arrow.draft),
    ("thermometer", Line.thermometer),
    ("german-whisper", Line.germanWhisper),
    ("white-dot", Line.whiteDot),
    ("black-dot", Line.blackDot),
    ("region-sum-line", RegionSum.lineDraft)]

def libraryGenerators : GeneratorTable :=
  libraryDrafters.map fun (id, draft) ↦ (id, draft.toGenerator)

end GridPuzzle
