import GridPuzzle.Address
import GridPuzzle.Naming

/-!
# Generated constraints

What a generator of the library says about the digits of a grid, as data: sums and numerals of
cells, and the constraints between them. `Item.text` writes an item as a line of the emitted model,
and `Items.text` writes several. An item is writable if no number in it is too long to be written.
-/

namespace GridPuzzle

/-- The variable kind whose values the library's generators constrain. -/
def digitKind : String := "numbers"

/-- The decision variable for the sum that all segments of all lines share. -/
def sharedTotal : String := "region_sum_line_total"

/-- A number that depends on the digits. -/
inductive Term where
  | sum (cells : List Cell)
  | segmentSum (cells : List Cell)
  | numeral (cells : List Cell)
  | constant (n : Int)
  | sharedTotal
deriving DecidableEq, Inhabited

/-- A relation of two digits that a rule's fragment declares as a predicate. -/
inductive DotRelation where
  | consecutive
  | double
deriving DecidableEq, Inhabited

/-- One line of a generated model. -/
inductive Item where
  | note (text : String)
  | always
  | allDifferent (cells : List Cell)
  | equal (left right : Term)
  | less (a b : Cell)
  | farApart (a b : Cell)
  | dotted (relation : DotRelation) (a b : Cell)
  | defineTotal (term : Term)
deriving DecidableEq, Inhabited

def Cell.digitText (cell : Cell) : String := elementText digitKind cell.row cell.col

def digitSum (cells : List Cell) : String := Text.join " + " (cells.map Cell.digitText)

def Term.text : Term → String
  | sum cells => digitSum cells
  | segmentSum cells => "(" ++ digitSum cells ++ ")"
  | numeral cells => numeralText (cells.map Cell.digitText)
  | constant n => Text.intText n
  | .sharedTotal => GridPuzzle.sharedTotal

def DotRelation.predicate : DotRelation → String
  | consecutive => "kropki_consecutive"
  | double => "kropki_ratio"

def constraintText (body : String) : String := "constraint " ++ body ++ ";"

def Item.text : Item → String
  | note text => comment text
  | always => neutralConstraint
  | allDifferent cells =>
    constraintText ("all_different([" ++ Text.join ", " (cells.map Cell.digitText) ++ "])")
  | equal left right => constraintText (left.text ++ " = " ++ right.text)
  | less a b => constraintText (a.digitText ++ " < " ++ b.digitText)
  | farApart a b => constraintText ("abs(" ++ a.digitText ++ " - " ++ b.digitText ++ ") >= 5")
  | dotted relation a b =>
    constraintText (relation.predicate ++ "(" ++ a.digitText ++ ", " ++ b.digitText ++ ")")
  | defineTotal term => "var int: " ++ sharedTotal ++ " = " ++ term.text ++ ";"

/-! ## Numbers too long to be written -/

def areWritableCells (cells : List Cell) : Bool :=
  cells.all fun cell ↦ isWritablePlace cell.row cell.col

def Term.isWritable : Term → Bool
  | sum cells | segmentSum cells => areWritableCells cells
  | numeral cells => areWritableCells cells && cells.length ≤ Text.maxDigits
  | constant n => Text.isWritable n
  | .sharedTotal => true

def Item.isWritable : Item → Bool
  | note _ | always => true
  | allDifferent cells => areWritableCells cells
  | equal left right => left.isWritable && right.isWritable
  | less a b | farApart a b | dotted _ a b => areWritableCells [a, b]
  | defineTotal term => term.isWritable

/-! ## Lines -/

/-- The lines of a generated model. -/
def Items.text (items : List Item) : String := Text.unlines (items.map Item.text)

end GridPuzzle
