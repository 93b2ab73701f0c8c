import GridPuzzle.Text.Integer
import GridPuzzle.Value.Text

/-!
# Errors

Every way in which building, loading, compiling or saving a puzzle can fail, as a cause with its
data. `Error.category` sorts the causes, and `Error.message` words them. A cell is addressed by its
row and its column, both counted from zero, in errors as everywhere else; only the emitted text
counts from one. A `Misuse` is an argument that no puzzle is concerned with, such as a list where a
name is looked up; it has a category and no wording of its own. A wording that would hold a number
too long to be written does not exist either: `Error.settled` puts a misuse in its place.
-/

namespace GridPuzzle

/-! ## What errors are about -/

structure Cell where
  row : Nat
  col : Nat
deriving DecidableEq, Inhabited

/-- The cell as messages give it. -/
def Cell.text (cell : Cell) : String :=
  "(" ++ Text.natText cell.row ++ ", " ++ Text.natText cell.col ++ ")"

inductive Scope where
  | wholeGrid
  | placed
deriving DecidableEq, Inhabited

namespace Scope

def name : Scope → String
  | wholeGrid => "global"
  | placed => "local"

def ofName? (s : String) : Option Scope :=
  if s == wholeGrid.name then some wholeGrid
  else if s == placed.name then some placed
  else none

end Scope

/-- What a cell that lies outside its grid belongs to. -/
inductive Holder where
  | clue
  | placement (rule : String)
  | numbered (position : Nat) (rule : String)
deriving DecidableEq

/-- Where a compiled puzzle refers to a rule. -/
inductive Reference where
  | selection
  | placement (position : Nat)
  | dependency (rule : String)
deriving DecidableEq

/-- An argument that has no meaning where it stands. -/
inductive Misuse where
  | wrongType
  | wrongValue
  | overflow
  | tooDeep
  | missingAttribute
  | missingKey
  | missingItem
  | missingFile
  | sameFile
  | fileInTheWay
  | notDirectory
  | isDirectory
  | longName
  | unencodable
deriving DecidableEq

/-- The sorts of failure that a caller tells apart. -/
inductive Category where
  | configuration
  | notFound
  | unemittable
  | generatorFailure
  | assembly
  | value
  | misuse (kind : Misuse)
deriving DecidableEq

inductive Error where
  -- sequences, cells, groups, clues
  | notSequence (role : String) (given : Value)
  | cellNotPair (given : Value)
  | cellCoordinates (given : Value)
  | groupValue (given : Value)
  | groupWithoutCells (given : Value)
  | placementWithoutRule
  | clueValue (given : Value)
  -- grids
  | gridRows
  | gridCols
  | regionShape (rows cols : Nat)
  | regionIdType
  | regionIdsNotDense (ids : List Int)
  | untileable (rows cols boxRows boxCols : Value)
  | regionCellOutside (cell : Cell)
  | regionCellShared (cell : Cell)
  | regionsIncomplete
  -- variable kinds
  | kindName (given : Value)
  | kindReserved (kind array : String)
  | kindBounds (kind : String)
  | kindEmptyRange (kind : String) (min max : Int)
  | kindBoolBounds (kind : String)
  | kindType (given : Value)
  -- addresses and documents
  | arrayIdentifier (kind : String)
  | arrayReserved (kind array : String)
  | notCellReference (text : String)
  | cellReferenceBase (text : String)
  | emptyNumeral
  | declaredTwice (name : String)
  | referenceOutside (reference : String) (rows cols : Value)
  | referenceUndeclared (reference array : String)
  -- authoring
  | kindGivenTwice (kind : String)
  | kindsShareArray (first second array : String)
  | ruleScope (rule : String) (actual expected : Scope)
  | ruleSelectedTwice (rule : Value)
  | cellOutside (cell : Cell) (holder : Holder) (rows cols : Nat)
  | unknownKind (name : Value)
  -- catalogs
  | unknownRule (id : Value) (known : List String)
  | ruleIdTaken (id : String)
  | unknownDependency (rule dependency : String)
  | catalogMissing (root : String)
  | bundleWithoutMetadata (bundle : String)
  | invalidYaml (path : String)
  | metadataNotMapping (path : String)
  | metadataId (path : String) (given : Value) (bundle : String)
  | metadataType (path : String) (given : Value) (scope : Scope)
  | metadataName (path : String)
  | metadataList (path key : String)
  | metadataCapabilities (path : String) (unknown : List String)
  | capabilityMismatch (rule : String) (declared present : List String)
  | metadataRender (path : String)
  -- compilation
  | noGrid
  | clashingArrays (arrays : List String)
  | clueKind (cell : Cell) (kind : Value)
  | clueDomain (given : Value) (cell : Cell) (kind : String)
  | ruleUse (reference : Reference) (rule : String) (actual expected : Scope)
  | missingKinds (rule : String) (missing present : List String)
  | unemittable (rule : String)
  | nameClash (kind name rule : String)
  | generatorFailed (rule : String) (position : Option Nat) (reason : String)
  -- descriptions
  | notMapping (place : String)
  | notList (place : String)
  | unknownKeys (keys known : List Value)
  | gridMissing
  | boxesAndRegions
  | boxesShape
  | ruleEntry (index : Nat)
  | constraintRule (index : Nat)
  | clueKeys (index : Nat) (missing : List String)
  | emptyDescription (path : String)
  -- tables and workbooks
  | sheetDigit (place : Value) (sheet : String) (given : Value)
  | regionBlanks (sheet : String)
  | sheetMissing (sheet : String)
  | misuse (kind : Misuse)

namespace Error

abbrev wrongType : Error := .misuse .wrongType

abbrev wrongValue : Error := .misuse .wrongValue

abbrev missingKey : Error := .misuse .missingKey

def category : Error → Category
  | arrayIdentifier .. | arrayReserved .. | notCellReference .. | cellReferenceBase ..
  | declaredTwice .. | referenceOutside .. | referenceUndeclared .. => .assembly
  | emptyNumeral | sheetMissing .. => .value
  | unknownRule .. => .notFound
  | unemittable .. => .unemittable
  | generatorFailed .. => .generatorFailure
  | misuse kind => .misuse kind
  | _ => .configuration

/-! ## Wording -/

/-- A name between single quotes, unchanged. -/
def inQuotes (s : String) : String := "'" ++ s ++ "'"

def size (rows cols : Nat) : String := Text.natText rows ++ "x" ++ Text.natText cols

end Error

def Holder.text : Holder → String
  | clue => "clue"
  | placement rule => "constraint instance " ++ Error.inQuotes rule
  | numbered position rule =>
    "Constraint instance " ++ Text.natText position ++ " (" ++ Error.inQuotes rule ++ ")"

def Reference.text : Reference → String
  | selection => "Global selection"
  | placement position => "Constraint instance " ++ Text.natText position
  | dependency rule => "Rule " ++ Error.inQuotes rule

namespace Error

def message : Error → String
  | notSequence role given => role ++ " must be a sequence, got " ++ given.literal
  | cellNotPair given => "A cell must be a (row, col) pair, got " ++ given.literal
  | cellCoordinates given =>
    "Cell coordinates must be non-negative integers, got " ++ given.literal
  | groupValue given => "Group value must be a number, a string or None, got " ++ given.literal
  | groupWithoutCells given => "Group mapping needs 'cells': " ++ given.literal
  | placementWithoutRule => "Constraint instance needs a non-empty rule id"
  | clueValue given => "Clue value must be an integer or a boolean, got " ++ given.literal
  | gridRows => "Grid rows must be a positive integer"
  | gridCols => "Grid cols must be a positive integer"
  | regionShape rows cols => "Region map must be " ++ size rows cols ++ " to match the grid"
  | regionIdType => "Region ids must be integers"
  | regionIdsNotDense ids =>
    "Region ids must be dense from 0, got " ++ Value.bracketed "[" "]" (ids.map Text.intText)
  | untileable rows cols boxRows boxCols =>
    "A " ++ rows.shown ++ "x" ++ cols.shown ++ " grid cannot be tiled by " ++ boxRows.shown ++ "x"
      ++ boxCols.shown ++ " boxes"
  | regionCellOutside cell => "Region cell " ++ cell.text ++ " outside the grid"
  | regionCellShared cell => "Cell " ++ cell.text ++ " belongs to two regions"
  | regionsIncomplete => "Regions must cover every cell of the grid"
  | kindName given => "Invalid variable kind name: " ++ given.literal
  | kindReserved kind array =>
    "Variable kind " ++ inQuotes kind ++ " would declare the reserved name " ++ inQuotes array
  | kindBounds kind =>
    "Numeric variable kind " ++ inQuotes kind ++ " needs integer min and max"
  | kindEmptyRange kind min max =>
    "Variable kind " ++ inQuotes kind ++ " has min " ++ Text.intText min ++ " > max "
      ++ Text.intText max
  | kindBoolBounds kind => "Boolean variable kind " ++ inQuotes kind ++ " takes no bounds"
  | kindType given => "Variable kind type must be 'int' or 'bool', got " ++ given.literal
  | arrayIdentifier kind =>
    "Variable kind " ++ inQuotes kind ++ " does not map to a valid array identifier"
  | arrayReserved kind array =>
    "Variable kind " ++ inQuotes kind ++ " maps to the reserved name " ++ inQuotes array
  | notCellReference text => "Not a cell reference: " ++ inQuotes text
  | cellReferenceBase text => "Cell reference " ++ inQuotes text ++ " is not 1-based"
  | emptyNumeral => "A numeral needs at least one cell"
  | declaredTwice name => "Name " ++ inQuotes name ++ " is declared twice"
  | referenceOutside reference rows cols =>
    "Reference " ++ inQuotes reference ++ " outside the " ++ rows.shown ++ "x" ++ cols.shown
      ++ " grid"
  | referenceUndeclared reference array =>
    "Reference " ++ inQuotes reference ++ " targets undeclared array " ++ inQuotes array
  | kindGivenTwice kind => "Variable kind " ++ inQuotes kind ++ " given twice"
  | kindsShareArray first second array =>
    "Variable kinds " ++ inQuotes first ++ " and " ++ inQuotes second ++ " both map to array "
      ++ inQuotes array
  | ruleScope rule actual expected =>
    "Rule " ++ inQuotes rule ++ " is a " ++ actual.name ++ " rule, expected a " ++ expected.name
      ++ " rule"
  | ruleSelectedTwice rule => "Global rule " ++ inQuotes rule.shown ++ " is already selected"
  | cellOutside cell holder rows cols =>
    "Cell " ++ cell.text ++ " of " ++ holder.text ++ " lies outside the " ++ size rows cols
      ++ " grid"
  | unknownKind name => "Unknown variable kind " ++ inQuotes name.shown
  | unknownRule id known =>
    "Unknown rule id " ++ inQuotes id.shown ++ ". Known: " ++ Text.join ", " known
  | ruleIdTaken id => "Duplicate rule id " ++ inQuotes id
  | unknownDependency rule dependency =>
    "Rule " ++ inQuotes rule ++ " consumes " ++ inQuotes dependency
      ++ ", which is not a known local rule"
  | catalogMissing root => "Rule catalog not found: " ++ root
  | bundleWithoutMetadata bundle => "Rule bundle " ++ bundle ++ " has no metadata.yaml"
  | invalidYaml path => path ++ ": invalid YAML"
  | metadataNotMapping path => path ++ ": metadata must be a mapping"
  | metadataId path given bundle =>
    path ++ ": id " ++ given.literal ++ " must match the bundle name " ++ inQuotes bundle
  | metadataType path given scope =>
    path ++ ": type " ++ given.literal ++ " does not match " ++ inQuotes scope.name ++ " catalog"
  | metadataName path => path ++ ": 'name' must be a non-empty string"
  | metadataList path key => path ++ ": " ++ inQuotes key ++ " must be a list of strings"
  | metadataCapabilities path unknown =>
    path ++ ": unknown capabilities " ++ Value.nameList unknown
      ++ "; known: ['fragment', 'generator']"
  | capabilityMismatch rule declared present =>
    "Rule " ++ inQuotes rule ++ " declares capabilities " ++ Value.nameList declared
      ++ " but provides " ++ Value.nameList present
  | metadataRender path => path ++ ": 'render' must be a mapping"
  | noGrid => "Puzzle has no grid"
  | clashingArrays arrays => "Variable kinds map to clashing arrays: " ++ Value.nameList arrays
  | clueKind cell kind =>
    "Clue at " ++ cell.text ++ " uses unknown variable kind " ++ inQuotes kind.shown
  | clueDomain given cell kind =>
    "Clue value " ++ given.literal ++ " at " ++ cell.text ++ " is outside the domain of "
      ++ inQuotes kind
  | ruleUse reference rule actual expected =>
    reference.text ++ " uses " ++ inQuotes rule ++ ", a " ++ actual.name ++ " rule; expected a "
      ++ expected.name ++ " rule"
  | missingKinds rule missing present =>
    "Rule " ++ inQuotes rule ++ " requires variable kinds " ++ Value.nameList missing
      ++ "; puzzle has " ++ Value.nameList present
  | unemittable rule =>
    "Rule " ++ inQuotes rule ++ " has neither a constraint fragment nor a generator"
  | nameClash kind name rule =>
    "Variable kind " ++ inQuotes kind ++ " clashes with " ++ inQuotes name ++ ", declared by rule "
      ++ inQuotes rule
  | generatorFailed rule position reason =>
    let place :=
      match position with
      | some n => "instance " ++ Text.natText n
      | none => "global selection"
    "Generator of rule " ++ inQuotes rule ++ " (" ++ place ++ ") failed: " ++ reason
  | notMapping place => inQuotes place ++ " must be a mapping"
  | notList place => inQuotes place ++ " must be a list"
  | unknownKeys keys known =>
    "Unknown puzzle keys " ++ (Value.list keys).literal ++ "; known: " ++ (Value.list known).literal
  | gridMissing => "Puzzle description must contain a 'grid' mapping."
  | boxesAndRegions => "'grid' takes either 'boxes' or 'regions', not both"
  | boxesShape => "'grid.boxes' must be [box_rows, box_cols]"
  | ruleEntry index => "rules[" ++ Text.natText index ++ "] must be a non-empty string."
  | constraintRule index =>
    "constraints[" ++ Text.natText index ++ "].rule must be a non-empty string."
  | clueKeys index missing =>
    "clues[" ++ Text.natText index ++ "] is missing " ++ Value.nameList missing
  | emptyDescription path => path ++ ": empty puzzle description"
  | sheetDigit place sheet given =>
    "Cell " ++ place.literal ++ " of sheet " ++ inQuotes sheet ++ " holds " ++ given.literal
      ++ ", not a digit"
  | regionBlanks sheet => "Region map on sheet " ++ inQuotes sheet ++ " has blank cells"
  | sheetMissing sheet => "Sheet " ++ inQuotes sheet ++ " not found in the workbook."
  | misuse _ => "an argument has no meaning where it stands"

/-! ## Wordings that do not exist -/

def isWritableSize (rows cols : Nat) : Bool := Text.isWritable rows && Text.isWritable cols

def isWritableCell (cell : Cell) : Bool := isWritableSize cell.row cell.col

/-- Whether an error can be worded: every number in its wording may be written. -/
def isWordable : Error → Bool
  | notSequence _ given | cellNotPair given | cellCoordinates given | groupValue given
  | groupWithoutCells given | clueValue given | kindName given | kindType given
  | ruleSelectedTwice given | unknownKind given | unknownRule given _ | metadataId _ given _
  | metadataType _ given _ => given.isWritable
  | regionShape rows cols => isWritableSize rows cols
  | regionIdsNotDense ids => ids.all Text.isWritable
  | untileable rows cols boxRows boxCols =>
    [rows, cols, boxRows, boxCols].all Value.isWritable
  | regionCellOutside cell | regionCellShared cell => isWritableCell cell
  | kindEmptyRange _ min max => Text.isWritable min && Text.isWritable max
  | referenceOutside _ rows cols => rows.isWritable && cols.isWritable
  | cellOutside cell _ rows cols => isWritableCell cell && isWritableSize rows cols
  | clueKind cell kind => isWritableCell cell && kind.isWritable
  | clueDomain given cell _ => given.isWritable && isWritableCell cell
  | unknownKeys keys _ => keys.all Value.isWritable
  | sheetDigit place _ given => place.isWritable && given.isWritable
  | _ => true

/-- The error itself if it can be worded. -/
def settled (fault : Error) : Error := if fault.isWordable then fault else wrongValue

end Error

end GridPuzzle
