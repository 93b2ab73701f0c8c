import GridPuzzle.Compile.Assembly
import GridPuzzle.Puzzle
import GridPuzzle.Solver.Run
import GridPuzzle.Value.Order

/-!
# Solving puzzles

A solver holds a puzzle under construction and the model that was compiled last. To solve, to
validate and to count all mean one thing: compile the puzzle and call the backend once. A puzzle
that does not compile is never handed to the backend.
-/

namespace GridPuzzle

/-- A puzzle to be solved with the rules of a catalog. Without a catalog no rule is checked when it
is added, and a puzzle with rules is never compiled. -/
structure Solver where
  catalog : Option Catalog
  puzzle : Puzzle := .empty
  currentModel : Option String := none
deriving Inhabited

namespace Solver

/-! ## Authoring -/

/-- An operation on the puzzle of a solver. -/
def author {α : Type} (solver : Solver) (operation : Authoring α) : Except Error α × Solver :=
  let (answer, puzzle) := operation.runOn solver.puzzle
  (answer, { solver with puzzle })

/-- Starts a new puzzle on a grid. The grid stays even if the variable kinds are refused. -/
def configure (solver : Solver) (grid : Grid) (kinds : List VariableKind) :
    Except Error Unit × Solver := solver.author (.configure grid kinds)

def selectRule (solver : Solver) (id : Value) : Except Error Unit × Solver :=
  solver.author (.selectRule solver.catalog id)

def placeRule (solver : Solver) (rule groups : Value) : Except Error Placement × Solver :=
  solver.author (.placeRule solver.catalog rule groups)

def addClue (solver : Solver) (clue : Clue) : Except Error Unit × Solver :=
  solver.author (.addClue clue)

/-! ## Solving -/

/-- What an operation answers, the solver after it, and what passed between it and the backend. -/
structure Outcome (α : Type) where
  answer : Except Error α
  solver : Solver
  calls : List SolveCall := []
  progress : List Value := []

def Outcome.map {α β : Type} (f : α → β) (outcome : Outcome α) : Outcome β :=
  { outcome with answer := outcome.answer.map f }

/-- The model of the puzzle, which becomes the current one. -/
def compiled (solver : Solver) : Except Error (Emission × Solver) := do
  let emission ← compileWith solver.catalog solver.puzzle
  return (emission, { solver with currentModel := some emission.text })

/-- Compiles the puzzle and hands it to a backend. -/
def solve (backend : Backend) (options : SolveOptions) (solver : Solver) : Outcome SolveResult :=
  match solver.compiled with
  | .error fault => { answer := .error fault, solver }
  | .ok (emission, solver) =>
    let call : SolveCall := ⟨emission.text, options⟩
    let run := backend call
    { answer := SolveResult.ofRun emission.text run
      solver
      calls := [call]
      progress := run.progress }

def validate (backend : Backend) (solver : Solver) : Outcome Bool :=
  (solver.solve backend { numSolutions := .int 1 }).map SolveResult.hasSolution

def countSolutions (backend : Backend) (limit : Int) (solver : Solver) : Outcome Int :=
  (solver.solve backend { allSolutions := .bool true, numSolutions := .int limit }).map
    fun result ↦ min (Int.ofNat result.solutions.length) limit

/-- The lesser of a count and a limit, which has to be a number and is given back as it is. -/
def limited (count : Nat) (limit : Value) : Except Error Value :=
  if limit.isNumber then .ok (if limit.lt (.int count) then limit else .int count)
  else .error .wrongType

/-- The number of solutions up to a limit that is given untyped. It is looked at only when the
backend has answered. -/
def countGiven (backend : Backend) (limit : Value) (solver : Solver) : Outcome Value :=
  let outcome := solver.solve backend { allSolutions := .bool true, numSolutions := limit }
  { outcome with answer := outcome.answer.bind fun result ↦ limited result.solutions.length limit }

/-- Whether exactly one solution is found when two are asked for. -/
def hasUniqueSolution (backend : Backend) (solver : Solver) : Outcome Bool :=
  (solver.countSolutions backend 2).map (· == 1)

end Solver

end GridPuzzle
