import GridPuzzle.Constraint.Sentence
import GridPuzzle.Text.Integer

/-!
# Grid declarations

The section of a grid, read back from text: three numbers by their names and the region map as a
matrix between bars, each declaration with a semicolon at its end. What is read are the values that
the fragments of rules refer to.
-/

namespace GridPuzzle

structure GridDeclaration where
  rows : Nat
  cols : Nat
  regionCount : Nat
  map : List (List Nat)
deriving DecidableEq

namespace GridDeclaration

open Token

/-- The declared value of a number with the given name. -/
def number? (name : List Char) : List Token → Option Nat
  | [word type, sign ':', word own, sign '=', word numeral] =>
    if type = "int".toList ∧ own = name then Text.digits? numeral else none
  | _ => none

def entry? : List Token → Option Nat
  | [word numeral] => Text.digits? numeral
  | _ => none

def row? (tokens : List Token) : Option (List Nat) := (tokens.splitOn (sign ',')).mapM entry?

/-- The rows of a matrix with bars around each of them. -/
def matrix? : List Token → Option (List (List Nat))
  | sign '[' :: sign '|' :: tokens =>
    match tokens.reverse with
    | sign ']' :: sign '|' :: inner => (inner.reverse.splitOn (sign '|')).mapM row?
    | _ => none
  | _ => none

/-- The type and the name of the region map. -/
def mapHead : List Token := all "array[1..rows, 1..cols] of int: regions".toList

def map? (tokens : List Token) : Option (List (List Nat)) :=
  match tokens.splitOn (sign '=') with
  | [head, matrix] => if head = mapHead then matrix? matrix else none
  | _ => none

/-- The values that a text declares, if it is the section of a grid. -/
def read? (text : String) : Option GridDeclaration :=
  match (all text.toList).splitOn (sign ';') with
  | [rows, cols, regionCount, map, []] => do
    return ⟨← number? "rows".toList rows, ← number? "cols".toList cols,
      ← number? "n_regions".toList regionCount, ← map? map⟩
  | _ => none

end GridDeclaration

end GridPuzzle
