import GridPuzzle.Catalog.Standard
import GridPuzzle.Compile.Assembly
import GridPuzzle.Description
import GridPuzzle.Error
import GridPuzzle.Text.CodePoint

/-!
# The compile command

Compiles the description in a file against the standard catalog. The model goes to standard output,
or into a file, and then standard output tells which puzzle went where. A file can only be written
where nothing is in the way, and only texts without halves of character pairs can be in a file.
-/

/-!
## Directories and files

What stands where a model is to be written. A place is given by the names that lead to it from the
root. The directories of a path are made as far as they are missing, and a file is put into the last
of them; what is in the way is told apart. Names are measured in the bytes that they are stored in.
-/

namespace GridPuzzle

abbrev Place := List String

inductive Occupant where
  | nothing
  | directory
  | file
deriving DecidableEq

/-- The directories and files of which something is known. The root is a directory. -/
structure FileTree where
  directories : List Place := []
  files : List Place := []
deriving DecidableEq, Inhabited

namespace FileTree

def occupant (tree : FileTree) (place : Place) : Occupant :=
  if place.isEmpty || tree.directories.contains place then .directory
  else if tree.files.contains place then .file
  else .nothing

/-- The place that a step leads to; two points lead back. -/
def step (place : Place) (name : String) : Place :=
  if name == ".." then place.dropLast else place ++ [name]

/-! ### Checks -/

def maxNameSize : Nat := 255

def maxPathSize : Nat := 4095

/-- The most directories that are made for one file. -/
def maxMissing : Nat := 988

def checkName (name : String) : Except Error Unit :=
  if maxNameSize < Text.nameSize name then .error (.misuse .longName) else .ok ()

/-- Whether a name ends where it seems to end. -/
def isWhole (name : String) : Bool := !name.toList.contains '\x00'

/-- The number of bytes of a path, each name standing behind a slash. -/
def pathSize (names : List String) : Nat :=
  names.foldl (fun size name ↦ size + Text.nameSize name + 1) 0

/-- A path can be stored: it has no surrogates but stray bytes, its names end where they seem to
end, and it is not too long. -/
def checkPath (names : List String) : Except Error Unit :=
  if !names.all Text.isNamable then .error (.misuse .unencodable)
  else if !names.all isWhole then .error .wrongValue
  else if maxPathSize < pathSize names then .error (.misuse .longName)
  else .ok ()

/-- The number of missing directories on the way from a place. -/
def countMissing (tree : FileTree) (place : Place) : List String → Nat
  | [] => 0
  | name :: rest =>
    match tree.occupant (step place name) with
    | .directory => countMissing tree (step place name) rest
    | .nothing => rest.length + 1
    | .file => 0

/-! ### Writing -/

/-- Makes the directories that names lead to from a place, where `isNew` says that one has been made
already. Behind a file there is no directory, and a file at the end of the way stands in it. -/
def makeDirectories (tree : FileTree) (place : Place) (isNew : Bool) :
    List String → Except Error (FileTree × Place)
  | [] => .ok (tree, place)
  | name :: rest => do
    checkName name
    let next := step place name
    match tree.occupant next with
    | .directory => makeDirectories tree next isNew rest
    | .nothing =>
      makeDirectories { tree with directories := next :: tree.directories } next true rest
    | .file =>
      throw (.misuse (if rest.isEmpty || isNew then .fileInTheWay else .notDirectory))

/-- Puts a file at a place, unless a directory stands there. -/
def putFile (tree : FileTree) (place : Place) : Except Error FileTree :=
  match tree.occupant place with
  | .directory => .error (.misuse .isDirectory)
  | _ => .ok { tree with files := place :: tree.files }

/-- Writes a file to the place that names lead to, after the directories on the way are made. -/
def write (tree : FileTree) (names : List String) : Except Error FileTree := do
  checkPath names.dropLast
  if maxMissing < tree.countMissing [] names.dropLast then throw (.misuse .tooDeep)
  let (tree, place) ← tree.makeDirectories [] false names.dropLast
  checkPath names
  match names.getLast? with
  | none => throw (.misuse .isDirectory)
  | some name =>
    checkName name
    tree.putFile (step place name)

end FileTree

end GridPuzzle

namespace GridPuzzle.Script

/-! ## Paths -/

/-- The steps of a path, without those that stay where they are. -/
def steps (path : String) : List String :=
  (path.splitOn "/").filter fun step ↦ !step.isEmpty && step != "."

def joinSteps (path : String) (steps : List String) : String :=
  let tail := Text.join "/" steps
  if path.toList.head? == some '/' then "/" ++ tail else if tail.isEmpty then "." else tail

/-- A path in its plain form: one slash between two steps and none at the end. -/
def plainPath (path : String) : String := joinSteps path (steps path)

def directoryOf (path : String) : String := joinSteps path (steps path).dropLast

/-! ## Runs -/

/-- What a run of the command leaves behind. -/
structure Report where
  output : String
  file : Option String := none
deriving DecidableEq, Inhabited

/-- The report on a puzzle and its model, which goes into a file if one is named. -/
def report (puzzle : Puzzle) (model : String) : Option String → Report
  | none => ⟨model ++ "\n", none⟩
  | some target => ⟨"[Compile] " ++ puzzle.text ++ " -> " ++ plainPath target ++ "\n", some model⟩

def run (path text : String) (target : Option String) : Except Error Report := do
  let puzzle ← Description.load Catalog.standard path text
  let emission ← compile Catalog.standard puzzle
  return report puzzle emission.text target

/-- Writes the file of a report to its path in a tree. -/
def deliver (tree : FileTree) (report : Report) (target : String) : Except Error FileTree := do
  let tree ← tree.write (steps target)
  if report.file.all Text.isEncodable then return tree else throw (.misuse .unencodable)

def runWithin (tree : FileTree) (path text : String) (target : Option String) :
    Except Error Report := do
  let report ← run path text target
  match target with
  | none => return report
  | some target =>
    let _ ← deliver tree report target
    return report

end GridPuzzle.Script
