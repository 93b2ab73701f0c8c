import GridPuzzle.Catalog.Basic
import GridPuzzle.Generator.Library

/-!
# The standard catalog

The rules that come with the library: five for the whole grid and seven to be placed.
-/

namespace GridPuzzle

namespace Standard

/-- Lines of constraint text, each with its line break. -/
def fragmentText (lines : List String) : String := String.join (lines.map (· ++ "\n"))

def rowsDiffer : String :=
  "constraint forall(r in 1..rows)(all_different([numbers[r, c] | c in 1..cols]));"

def colsDiffer : String :=
  "constraint forall(c in 1..cols)(all_different([numbers[r, c] | r in 1..rows]));"

/-! ## Rules of the whole grid -/

def evenShaded : Rule where
  id := "even-shaded"
  name := "Even shaded"
  scope := .wholeGrid
  description := "Shaded cells contain even digits."
  requiredKinds := ["numbers-all", "shading"]
  categories := ["shading", "parity"]
  fragment := some (fragmentText
    ["% shaded cells hold even digits",
      "constraint forall(r in 1..rows, c in 1..cols)"
        ++ "(shading[r, c] -> numbers[r, c] mod 2 = 0);"])

def globalRegionSumLines : Rule where
  id := "global-region-sum-lines"
  name := "Shared region sum"
  scope := .wholeGrid
  description := "Every region-sum-line in the puzzle uses the same segment total."
  requiredKinds := ["numbers-all"]
  categories := ["lines", "regions", "sum"]
  generator := some RegionSum.sharedDraft.toGenerator
  requiresRegions := true
  consumes := ["region-sum-line"]

def latinSquare : Rule where
  id := "latin-square"
  name := "Latin square"
  scope := .wholeGrid
  description := "Each row and column contains every digit at most once."
  requiredKinds := ["numbers-all"]
  categories := ["classic"]
  fragment := some (fragmentText
    ["% rows and columns hold different digits", rowsDiffer, colsDiffer])

def noAdjacentShading : Rule where
  id := "no-adjacent-shading"
  name := "No adjacent shading"
  scope := .wholeGrid
  description := "Shaded cells never share an edge."
  requiredKinds := ["shading"]
  categories := ["shading"]
  fragment := some (fragmentText
    ["% shaded cells are never orthogonally adjacent",
      "constraint forall(r in 1..rows, c in 1..cols - 1)"
        ++ "(not (shading[r, c] /\\ shading[r, c + 1]));",
      "constraint forall(r in 1..rows - 1, c in 1..cols)"
        ++ "(not (shading[r, c] /\\ shading[r + 1, c]));"])

def sudoku : Rule where
  id := "sudoku-standard"
  name := "Sudoku"
  scope := .wholeGrid
  description := "Each row, column and region contains every digit at most once."
  requiredKinds := ["numbers-all"]
  categories := ["classic", "sudoku"]
  fragment := some (fragmentText
    ["% rows, columns and regions hold different digits", rowsDiffer, colsDiffer,
      "constraint forall(g in 1..n_regions)(",
      "  all_different([numbers[r, c] | r in 1..rows, c in 1..cols where regions[r, c] = g])",
      ");"])

/-! ## Placed rules -/

def arrow : Rule where
  id := "arrow"
  name := "Arrow"
  scope := .placed
  description := "Digits along each arrow sum to the number formed by the pill."
  requiredKinds := ["numbers-all"]
  categories := ["sum", "lines"]
  generator := some Arrow.draft.toGenerator
  render := .record [("shape", .text "arrow"), ("color", .text "#999")]

def blackDot : Rule where
  id := "black-dot"
  name := "Black dot"
  scope := .placed
  description := "One digit separated by a black dot is double the other."
  requiredKinds := ["numbers-all"]
  categories := ["dots", "ratio"]
  fragment := some (fragmentText
    ["predicate kropki_ratio(var int: a, var int: b) = a = 2 * b \\/ b = 2 * a;"])
  generator := some Line.blackDot.toGenerator
  render := .record
    [("shape", .text "dot"), ("fillColor", .text "#000"), ("outlineColor", .text "#000")]

def germanWhisper : Rule where
  id := "german-whisper"
  name := "German whisper"
  scope := .placed
  description := "Adjacent digits along the line differ by at least 5."
  requiredKinds := ["numbers-all"]
  categories := ["lines", "difference"]
  generator := some Line.germanWhisper.toGenerator
  render := .record [("shape", .text "line"), ("color", .text "#81C784")]

def killerCage : Rule where
  id := "killer-cage"
  name := "Killer cage"
  scope := .placed
  description := "Digits in a cage do not repeat and sum to the cage total, when given."
  requiredKinds := ["numbers-all"]
  categories := ["sum", "cages"]
  generator := some Cage.draft.toGenerator
  render := .record
    [("shape", .text "cage"), ("color", .text "#666"), ("dash", .list [.int 5, .int 3])]

def regionSumLine : Rule where
  id := "region-sum-line"
  name := "Region sum line"
  scope := .placed
  description := "Each region the line passes through holds the same sum of digits on the line."
  requiredKinds := ["numbers-all"]
  categories := ["lines", "regions", "sum"]
  generator := some RegionSum.lineDraft.toGenerator
  requiresRegions := true
  render := .record [("shape", .text "line"), ("color", .text "#64B5F6")]

def thermometer : Rule where
  id := "thermometer"
  name := "Thermometer"
  scope := .placed
  description := "Digits strictly increase from the bulb."
  requiredKinds := ["numbers-all"]
  categories := ["lines", "inequality"]
  generator := some Line.thermometer.toGenerator
  render := .record
    [("shape", .text "pill"), ("fillColor", .text "#bbb"), ("outlineColor", .text "#fff"),
      ("bulb", .bool true)]

def whiteDot : Rule where
  id := "white-dot"
  name := "White dot"
  scope := .placed
  description := "Digits separated by a white dot are consecutive."
  requiredKinds := ["numbers-all"]
  categories := ["dots", "difference"]
  fragment := some (fragmentText
    ["predicate kropki_consecutive(var int: a, var int: b) = abs(a - b) = 1;"])
  generator := some Line.whiteDot.toGenerator
  render := .record
    [("shape", .text "dot"), ("fillColor", .text "#fff"), ("outlineColor", .text "#000")]

def rules : List Rule :=
  [evenShaded, globalRegionSumLines, latinSquare, noAdjacentShading, sudoku, arrow, blackDot,
    germanWhisper, killerCage, regionSumLine, thermometer, whiteDot]

end Standard

/-- The catalog that comes with the library. -/
def Catalog.standard : Catalog := ⟨Standard.rules, by decide⟩

end GridPuzzle
