import GridPuzzle.Error
import GridPuzzle.Text.Char
import GridPuzzle.Text.Line
import GridPuzzle.Text.Word

/-!
# Names and comments of emitted text

A variable kind is emitted as one array that bears the name of its family, which is the part of the
kind's name before the first hyphen. A name that the emitted language reserves, or that the emitted
document declares itself, cannot be the name of an array. One line feed at the end of a name is let
through by the checks, as it is by every check that looks for the end of a line.

A comment starts with a percent sign and ends with its line, so a text of several lines becomes
several comment lines. A neutral fragment is a comment with a constraint behind it that always
holds.
-/

namespace GridPuzzle

/-- The family of a variable kind: its name up to the first hyphen. -/
def family (kind : String) : String := String.ofList (kind.toList.takeWhile (· != '-'))

def keywords : List String :=
  ["ann", "annotation", "any", "array", "bool", "case", "constraint", "default", "diff", "div",
    "else", "elseif", "endif", "enum", "false", "float", "function", "if", "in", "include", "int",
    "intersect", "let", "list", "maybe", "mod", "not", "of", "op", "opt", "output", "par",
    "predicate", "record", "set", "solve", "string", "subset", "superset", "symdiff", "test",
    "then", "true", "tuple", "type", "union", "var", "where", "xor"]

/-- The names that the grid section of every document declares. -/
def gridNames : List String := ["rows", "cols", "n_regions", "regions"]

/-- The predicates and functions that emitted constraints use. -/
def usedFunctions : List String := ["abs", "all_different", "exists", "forall", "sum"]

def isReserved (name : String) : Bool :=
  keywords.contains name || gridNames.contains name || usedFunctions.contains name

/-- A letter, then letters, digits and underscores, all of ASCII. -/
def isPlainIdentifier : List Char → Bool
  | [] => false
  | c :: rest => Text.isAsciiLetter c && rest.all Text.isIdentifierChar

/-- The text without one line feed at its end. -/
def dropFinalBreak (s : List Char) : List Char :=
  if s.getLast? == some '\n' then s.dropLast else s

/-- An identifier, a line feed behind it allowed. -/
def isIdentifier (name : String) : Bool := isPlainIdentifier (dropFinalBreak name.toList)

/-- The name of a variable kind: an identifier and any number of parts, each a hyphen with letters,
digits and underscores behind it; a line feed behind it is allowed. -/
def isKindName (name : String) : Bool :=
  match (dropFinalBreak name.toList).splitOn '-' with
  | [] => false
  | first :: parts =>
    isPlainIdentifier first
      && parts.all fun part ↦ !part.isEmpty && part.all Text.isIdentifierChar

def arrayName (kind : String) : Except Error String :=
  let name := family kind
  if !isIdentifier name then .error (.arrayIdentifier kind)
  else if isReserved name then .error (.arrayReserved kind name)
  else .ok name

/-! ## Comments -/

def commentLine (line : String) : String := Text.stripEnd ("% " ++ line)

def comment (text : String) : String := Text.unlines ((Text.lines text).map commentLine)

def neutralConstraint : String := "constraint true;"

/-- A constraint that always holds, under a comment that gives the reason for it. -/
def neutral (reason : String) : String := comment reason ++ "\n" ++ neutralConstraint

end GridPuzzle
