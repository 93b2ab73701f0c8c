import GridPuzzle.Text.Integer
import GridPuzzle.Text.Word

/-!
# References to cells in emitted text

A reference is an array name with a row and a column in square brackets behind it, both counted from
one: `numbers[1, 2]`. White space may stand around the two numbers, which may be written in the
digits of any script; how many digits they have is kept, since a numeral can be too long to be read.
`CellReference.read?` reads a reference at the start of a text, and `CellReference.allIn` finds
every reference of a document; an array name starts where a word starts.
-/

namespace GridPuzzle

/-- An array element as it is written in a document, row and column counted from one. -/
structure CellReference where
  array : String
  row : Nat
  col : Nat
  /-- The count of digits of the longer of the two numbers. -/
  digits : Nat
deriving DecidableEq, Inhabited

namespace CellReference

/-- Whether the two numbers are short enough to be read. -/
def isReadable (reference : CellReference) : Bool := reference.digits ≤ Text.maxDigits

/-- The text behind a character that has to stand at the start. -/
def expect? (c : Char) : List Char → Option (List Char)
  | [] => none
  | d :: rest => if d == c then some rest else none

/-- A number at the start of a text with white space around it, the count of its digits, and the
text behind. -/
def readNumber? (s : List Char) : Option (Nat × Nat × List Char) :=
  let s := Text.trimStart s
  let digits := s.takeWhile Text.isDigit
  (Text.digits? digits).map fun n ↦
    (n, digits.length, Text.trimStart (s.dropWhile Text.isDigit))

/-- The reference to an array whose numbers are read from the text behind the opening bracket, and
the text behind the closing one. -/
def readPlace? (array : String) (s : List Char) : Option (CellReference × List Char) := do
  let (row, rowDigits, s) ← readNumber? s
  let s ← expect? ',' s
  let (col, colDigits, s) ← readNumber? s
  let s ← expect? ']' s
  return (⟨array, row, col, max rowDigits colDigits⟩, s)

/-- A reference at the start of a text, and the text behind it. -/
def read? (s : List Char) : Option (CellReference × List Char) := do
  let name := s.takeWhile Text.isIdentifierChar
  guard (name.head?.any Text.isAsciiLetter)
  let inside ← expect? '[' (s.dropWhile Text.isIdentifierChar)
  readPlace? (String.ofList name) inside

def ofText? (s : List Char) : Option CellReference :=
  match read? s with
  | some (reference, []) => some reference
  | _ => none

/-- The references of a text in order, each with its own text, where `inWord` says whether a word
character stands before the text. -/
def allFrom (inWord : Bool) : List Char → List (CellReference × String)
  | [] => []
  | c :: rest =>
    let later := allFrom (Text.isWord c) rest
    if inWord || !Text.isAsciiLetter c then later
    else
      match read? (c :: rest) with
      | some (reference, behind) =>
        (reference, String.ofList ((c :: rest).take (rest.length + 1 - behind.length))) :: later
      | none => later

def allIn (s : List Char) : List (CellReference × String) := allFrom false s

end CellReference

end GridPuzzle
