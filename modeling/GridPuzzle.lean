import GridPuzzle.Address
import GridPuzzle.Catalog.Basic
import GridPuzzle.Catalog.Bundle
import GridPuzzle.Catalog.Standard
import GridPuzzle.Compile.Assembly
import GridPuzzle.Compile.Blocks
import GridPuzzle.Compile.Declarations
import GridPuzzle.Compile.Selection
import GridPuzzle.Constraint.GridDeclaration
import GridPuzzle.Constraint.Item
import GridPuzzle.Constraint.Predicate
import GridPuzzle.Constraint.Sentence
import GridPuzzle.Description
import GridPuzzle.Document.CellReference
import GridPuzzle.Document.Check
import GridPuzzle.Document.Code
import GridPuzzle.Double
import GridPuzzle.Error
import GridPuzzle.Generator.Basic
import GridPuzzle.Generator.Library
import GridPuzzle.Grid.Basic
import GridPuzzle.Grid.Reader
import GridPuzzle.Main
import GridPuzzle.Naming
import GridPuzzle.Number
import GridPuzzle.Placement
import GridPuzzle.Proofs.Address
import GridPuzzle.Proofs.Catalog.Bundle
import GridPuzzle.Proofs.Catalog.Compatibility
import GridPuzzle.Proofs.Catalog.Fragment
import GridPuzzle.Proofs.Catalog.Loading
import GridPuzzle.Proofs.Catalog.Standard
import GridPuzzle.Proofs.Compile.Appended
import GridPuzzle.Proofs.Compile.ArrayNames
import GridPuzzle.Proofs.Compile.BlockLines
import GridPuzzle.Proofs.Compile.Blocks
import GridPuzzle.Proofs.Compile.Calls
import GridPuzzle.Proofs.Compile.CodeLines
import GridPuzzle.Proofs.Compile.Declarations
import GridPuzzle.Proofs.Compile.Encoding
import GridPuzzle.Proofs.Compile.GeneratorFailure
import GridPuzzle.Proofs.Compile.GroupValues
import GridPuzzle.Proofs.Compile.Layout
import GridPuzzle.Proofs.Compile.Lines
import GridPuzzle.Proofs.Compile.Names
import GridPuzzle.Proofs.Compile.Outcome
import GridPuzzle.Proofs.Compile.Parts
import GridPuzzle.Proofs.Compile.Provenance
import GridPuzzle.Proofs.Compile.RegionMap
import GridPuzzle.Proofs.Compile.Regions
import GridPuzzle.Proofs.Compile.Sections
import GridPuzzle.Proofs.Compile.Skeleton
import GridPuzzle.Proofs.Compile.TopLevel
import GridPuzzle.Proofs.Constraint.Body
import GridPuzzle.Proofs.Constraint.Item
import GridPuzzle.Proofs.Constraint.Meaning
import GridPuzzle.Proofs.Constraint.Predicate
import GridPuzzle.Proofs.Constraint.Sentence
import GridPuzzle.Proofs.Constraint.Sum
import GridPuzzle.Proofs.Constraint.Token
import GridPuzzle.Proofs.Description
import GridPuzzle.Proofs.Description.Documented
import GridPuzzle.Proofs.Description.Wording
import GridPuzzle.Proofs.Document.ArrayDeclaration
import GridPuzzle.Proofs.Document.CellReference
import GridPuzzle.Proofs.Document.Check
import GridPuzzle.Proofs.Document.Code
import GridPuzzle.Proofs.Document.Emitted
import GridPuzzle.Proofs.Document.Occurrence
import GridPuzzle.Proofs.Document.Search
import GridPuzzle.Proofs.Document.Spelling
import GridPuzzle.Proofs.Document.TopLevel
import GridPuzzle.Proofs.Document.Written
import GridPuzzle.Proofs.Double
import GridPuzzle.Proofs.Double.Value
import GridPuzzle.Proofs.Fallible
import GridPuzzle.Proofs.Generator.Answer
import GridPuzzle.Proofs.Generator.Arrow
import GridPuzzle.Proofs.Generator.Cage
import GridPuzzle.Proofs.Generator.Draft
import GridPuzzle.Proofs.Generator.Line
import GridPuzzle.Proofs.Generator.RegionSum
import GridPuzzle.Proofs.Generator.SharedTotal
import GridPuzzle.Proofs.Grid
import GridPuzzle.Proofs.Grid.CellLists
import GridPuzzle.Proofs.Grid.InOrder
import GridPuzzle.Proofs.Grid.OpenMap
import GridPuzzle.Proofs.Grid.Region
import GridPuzzle.Proofs.Grid.Tiling
import GridPuzzle.Proofs.Ordered
import GridPuzzle.Proofs.Puzzle.Authoring
import GridPuzzle.Proofs.Puzzle.Session
import GridPuzzle.Proofs.Reporting
import GridPuzzle.Proofs.Selection
import GridPuzzle.Proofs.Service
import GridPuzzle.Proofs.Sheet.Block
import GridPuzzle.Proofs.Sheet.Clues
import GridPuzzle.Proofs.Sheet.Editing
import GridPuzzle.Proofs.Sheet.Label
import GridPuzzle.Proofs.Sheet.Numbering
import GridPuzzle.Proofs.Sheet.Regions
import GridPuzzle.Proofs.Sheet.Saved
import GridPuzzle.Proofs.Sheet.Shift
import GridPuzzle.Proofs.Sheet.Writing
import GridPuzzle.Proofs.Solver
import GridPuzzle.Proofs.Solver.Session
import GridPuzzle.Proofs.Text.Char
import GridPuzzle.Proofs.Text.Decimal
import GridPuzzle.Proofs.Text.IntegerText
import GridPuzzle.Proofs.Text.Line
import GridPuzzle.Proofs.Text.Literal
import GridPuzzle.Proofs.Text.Numeral
import GridPuzzle.Proofs.Text.Padded
import GridPuzzle.Proofs.Text.Paragraph
import GridPuzzle.Proofs.Text.Separated
import GridPuzzle.Proofs.Value
import GridPuzzle.Proofs.VariableKind
import GridPuzzle.Puzzle
import GridPuzzle.Rule
import GridPuzzle.Script
import GridPuzzle.Service
import GridPuzzle.Sheet.Editing
import GridPuzzle.Sheet.Import
import GridPuzzle.Sheet.Reader
import GridPuzzle.Sheet.Workbook
import GridPuzzle.Solver.Basic
import GridPuzzle.Solver.Run
import GridPuzzle.Text.Char
import GridPuzzle.Text.CodePoint
import GridPuzzle.Text.Integer
import GridPuzzle.Text.Line
import GridPuzzle.Text.Quoted
import GridPuzzle.Text.Word
import GridPuzzle.Timestamp
import GridPuzzle.Value.Basic
import GridPuzzle.Value.Order
import GridPuzzle.Value.Text
import GridPuzzle.VariableKind
import GridPuzzle.Yaml.Basic
import GridPuzzle.Yaml.Grammar
import GridPuzzle.Yaml.Graph.Basic
import GridPuzzle.Yaml.Graph.Walk
import GridPuzzle.Yaml.Implicit
import GridPuzzle.Yaml.Reader
import GridPuzzle.Yaml.Scalar
import GridPuzzle.Yaml.ScalarText
import GridPuzzle.Yaml.Stamp
import GridPuzzle.Yaml.Token.Lexer
import GridPuzzle.Yaml.Token.Tag
