import GridPuzzle.Grid.Reader

/-!
# Runs of a solving backend

A backend is called with the text of a model and with options. While it runs it sends progress
messages and streams solutions; in the end it either fails or reports a status with further
solutions. What a backend says is untyped until a result is made of it: a status that is none of the
known ones turns the result into an error, and reported solutions count only where none was
streamed. There is no result where the error has no text, as for a status that holds a number too
long to be written.
-/

namespace GridPuzzle

/-- How a run of a backend ended. -/
inductive SolveStatus where
  | satisfied
  | allSolutions
  | unsatisfiable
  | unknown
  | error
deriving DecidableEq, Inhabited

namespace SolveStatus

def name : SolveStatus → String
  | satisfied => "SATISFIED"
  | allSolutions => "ALL_SOLUTIONS"
  | unsatisfiable => "UNSATISFIABLE"
  | unknown => "UNKNOWN"
  | error => "ERROR"

/-- The status that a value names. -/
def ofName? (given : Value) : Option SolveStatus :=
  [satisfied, allSolutions, unsatisfiable, unknown, error].find? fun status ↦
    given.same (.text status.name)

/-- Whether the status promises a solution. -/
def hasSolution : SolveStatus → Bool
  | satisfied | allSolutions => true
  | _ => false

end SolveStatus

/-- What a backend is asked for. The library passes the options on without reading them. -/
structure SolveOptions where
  solver : Value := .text "chuffed"
  allSolutions : Value := .bool false
  numSolutions : Value := .int 1
  extra : Value := .mapping []
deriving Inhabited

namespace SolveOptions

def set (options : SolveOptions) (key value : Value) : Except Error SolveOptions :=
  match key with
  | .text "solver" => .ok { options with solver := value }
  | .text "all_solutions" => .ok { options with allSolutions := value }
  | .text "num_solutions" => .ok { options with numSolutions := value }
  | .text "extra" => .ok { options with extra := value }
  | _ => .error .wrongType

/-- Options from a mapping, in which those left out have their defaults. -/
def read : Value → Except Error SolveOptions
  | .null => .ok {}
  | given =>
    match given.entries? with
    | some entries => entries.foldlM (fun options (key, value) ↦ options.set key value) {}
    | none => .error .wrongType

end SolveOptions

/-- A call of a backend: the text of the model and the options. -/
structure SolveCall where
  model : String
  options : SolveOptions
deriving Inhabited

/-- What a backend that does not fail reports in the end. -/
structure SolveReport where
  status : Value := .text "SATISFIED"
  solutions : Value := .list []
  time : Value := .null
  error : Value := .null
deriving Inhabited

/-- The end of a run. A failure gives its reason as a text, which may itself fail to be made. -/
inductive RunEnd where
  | failed (reason : Except Error String)
  | reported (report : SolveReport)
deriving Inhabited

/-- One run of a backend: its progress messages, the solutions it streamed, and its end. -/
structure SolveRun where
  progress : List Value := []
  streamed : List Value := []
  ending : RunEnd := .reported {}
deriving Inhabited

/-- A backend as the function from calls to runs. -/
abbrev Backend := SolveCall → SolveRun

structure SolveResult where
  status : SolveStatus
  solutions : List Value
  time : Value
  error : Value
  model : String
deriving Inhabited

namespace SolveResult

def hasSolution (result : SolveResult) : Bool := result.status.hasSolution

/-- The status and the error of a report. A status that is not known is named in the error. -/
def outcome (report : SolveReport) : Except Error (SolveStatus × Value) :=
  match SolveStatus.ofName? report.status with
  | some status => .ok (status, report.error)
  | none =>
    if report.status.isWritable then
      .ok (.error, .text ("Unknown solver status " ++ report.status.literal))
    else .error .wrongValue

/-- The streamed solutions if there are any, else the items of what was reported. -/
def collect (streamed : List Value) (reported : Value) : Except Error (List Value) :=
  if streamed.isEmpty then readItems reported else .ok streamed

def ofRun (model : String) (run : SolveRun) : Except Error SolveResult :=
  match run.ending with
  | .failed reason => do return ⟨.error, run.streamed, .null, .text (← reason), model⟩
  | .reported report => do
    let (status, error) ← outcome report
    return ⟨status, ← collect run.streamed report.solutions, report.time, error, model⟩

end SolveResult

end GridPuzzle
