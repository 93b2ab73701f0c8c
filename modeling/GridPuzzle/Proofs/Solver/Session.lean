import GridPuzzle.Proofs.Puzzle.Authoring
import GridPuzzle.Proofs.Solver

/-!
# Sessions of a solver

A solver is used for authoring, for compiling and for questions to a backend in any order. A
question compiles the puzzle of the moment and, if that succeeds, makes one call with the text; the
puzzle stays as it is. The current model is the text of the last compilation that succeeded, so it
may be older than the puzzle, but never older than an answer. Backends are arbitrary, and another
one may stand behind every question.
-/

namespace GridPuzzle

open Fallible

/-! ## Runs and their results -/

/-- What a backend reports besides what it streams is a list of solutions. -/
def Backend.ReportsLists (backend : Backend) : Prop :=
  ∀ call report, (backend call).ending = .reported report →
    ∃ items, report.solutions = .list items

namespace SolveRun

/-- The solutions of the report; a run that fails reports none. -/
def returned (run : SolveRun) : List Value :=
  match run.ending with
  | .failed _ => []
  | .reported report => (report.solutions.items?).getD []

/-- The streamed solutions if there are any, else those of the report. -/
def found (run : SolveRun) : List Value :=
  if run.streamed = [] then run.returned else run.streamed

/-- The backend failed, or the status that it reported is an error or none that is known. -/
def IsErroneous (run : SolveRun) : Prop :=
  match run.ending with
  | .failed _ => True
  | .reported report =>
    report.status = .text SolveStatus.error.name ∨
      ∀ status : SolveStatus, report.status ≠ .text status.name

end SolveRun

namespace SolveResult

variable {run : SolveRun} {model : String}

/-- A report is turned into an error if it is one, or if its status is not known. -/
theorem outcome_eq_error {report : SolveReport} {worded : SolveStatus × Value}
    (h : outcome report = .ok worded) :
    worded.1 = .error ↔ report.status = .text SolveStatus.error.name ∨
      ∀ status : SolveStatus, report.status ≠ .text status.name := by
  obtain ⟨status, hstatus, hknown⟩ | ⟨hunknown, ⟨_, error, herror⟩ | ⟨_, herror⟩⟩ :=
    outcome_cases report
  · obtain rfl := Except.ok.inj (hknown.symm.trans h)
    constructor
    · rintro rfl
      exact .inl hstatus
    · rintro (herror | hunknown)
      · rw [← SolveStatus.ofName?_eq_some, SolveStatus.ofName?_eq_some.2 hstatus] at herror
        exact Option.some.inj herror
      · exact absurd hstatus (hunknown status)
  · obtain rfl := Except.ok.inj (herror.symm.trans h)
    simp [hunknown]
  · simp [herror] at h

/-- Every run of which the end can be told, and which reports a list, if anything, has a result. -/
theorem exists_ofRun_found (model : String) (htold : run.IsTold)
    (hlists : ∀ report, run.ending = .reported report → ∃ items, report.solutions = .list items) :
    ∃ result, ofRun model run = .ok result ∧ result.model = model ∧
      result.solutions = run.found ∧ (result.status = .error ↔ run.IsErroneous) := by
  cases hend : run.ending with
  | failed reason =>
    obtain ⟨text, rfl⟩ := htold.exists_text hend
    refine ⟨_, ofRun_of_failed hend, rfl, ?_, ?_⟩
    · by_cases hstreamed : run.streamed = []
      · simp [SolveRun.found, SolveRun.returned, hend, hstreamed]
      · simp [SolveRun.found, hstreamed]
    · simp [SolveRun.IsErroneous, hend]
  | reported report =>
    obtain ⟨items, hitems⟩ := hlists report hend
    obtain ⟨worded, hworded⟩ := exists_outcome htold hend
    have hcollect : collect run.streamed report.solutions = .ok run.found := by
      rw [collect_eq_ok]
      by_cases hstreamed : run.streamed = []
      · refine .inr ⟨hstreamed, ?_⟩
        simp [SolveRun.found, SolveRun.returned, hend, hstreamed, hitems, Value.items?,
          Value.opened]
      · exact .inl ⟨hstreamed, by simp [SolveRun.found, hstreamed]⟩
    refine ⟨_, by rw [ofRun_of_reported hend hworded, hcollect]; rfl, rfl, rfl, ?_⟩
    rw [SolveRun.IsErroneous, hend]
    exact outcome_eq_error hworded

theorem known_of_ofRun {result : SolveResult}
    (hlists : ∀ report, run.ending = .reported report → ∃ items, report.solutions = .list items)
    (h : ofRun model run = .ok result) :
    result.model = model ∧ result.solutions = run.found ∧
      (result.status = .error ↔ run.IsErroneous) := by
  obtain ⟨other, hother, hknown⟩ := exists_ofRun_found model (isTold_of_ofRun h) hlists
  obtain rfl := Except.ok.inj (hother.symm.trans h)
  exact hknown

/-- Only what cannot be told is at fault. -/
theorem ofRun_eq_error {fault : Error}
    (hlists : ∀ report, run.ending = .reported report → ∃ items, report.solutions = .list items) :
    ofRun model run = .error fault ↔ run.Untold fault := by
  refine ⟨fun h ↦ ?_, fun h ↦ ofRun_of_untold h model⟩
  by_cases htold : run.IsTold
  · obtain ⟨result, hresult, -⟩ := exists_ofRun_found model htold hlists
    simp [hresult] at h
  · obtain ⟨other, hother⟩ := not_forall_not.1 htold
    obtain rfl := Except.error.inj ((ofRun_of_untold hother model).symm.trans h)
    exact hother

end SolveResult

namespace Solver

/-! ## Questions -/

inductive Query where
  | solve (options : SolveOptions)
  | validate
  | count (limit : Int)
  | unique

inductive Answer where
  | result (result : SolveResult)
  | verdict (holds : Bool)
  | number (n : Int)

namespace Query

def options : Query → SolveOptions
  | solve options => options
  | validate => { numSolutions := .int 1 }
  | count limit => { allSolutions := .bool true, numSolutions := .int limit }
  | unique => { allSolutions := .bool true, numSolutions := .int 2 }

/-- What the result of a call means for a question. -/
def answer (result : SolveResult) : Query → Answer
  | solve _ => .result result
  | validate => .verdict result.hasSolution
  | count limit => .number (min result.solutions.length limit)
  | unique => .verdict (result.solutions.length == 1)

def ask (backend : Backend) (solver : Solver) : Query → Outcome Answer
  | solve options => (solver.solve backend options).map .result
  | validate => (solver.validate backend).map .verdict
  | count limit => (solver.countSolutions backend limit).map .number
  | unique => (solver.hasUniqueSolution backend).map .verdict

theorem map_map {α β γ : Type} (f : α → β) (g : β → γ) (outcome : Outcome α) :
    (outcome.map f).map g = outcome.map (g ∘ f) := by
  obtain ⟨answer, _, _, _⟩ := outcome
  cases answer <;> rfl

/-- Every question is put by solving once. -/
theorem ask_eq (backend : Backend) (solver : Solver) (query : Query) :
    query.ask backend solver = (solver.solve backend query.options).map query.answer := by
  cases query with
  | solve options => rfl
  | validate => exact map_map _ _ _
  | count limit => exact map_map _ _ _
  | unique =>
    have hone (n : Nat) : (min (n : Int) 2 == 1) = (n == 1) := by
      rw [Bool.eq_iff_iff, beq_iff_eq, beq_iff_eq]
      omega
    rw [ask, hasUniqueSolution, countSolutions, map_map, map_map]
    congr 1
    funext result
    exact congrArg Answer.verdict (hone result.solutions.length)

end Query

/-! ## Operations -/

/-- An operation of a session. Behind a question stands the backend of that moment. -/
inductive Operation where
  | configure (grid : Grid) (kinds : List VariableKind)
  | selectRule (id : Value)
  | placeRule (rule groups : Value)
  | addClue (clue : Clue)
  | compile
  | ask (query : Query) (backend : Backend)

/-- The document of the puzzle of the moment, if the puzzle is compiled with success. -/
def document? (solver : Solver) : Option Emission :=
  (compileWith solver.catalog solver.puzzle).toOption

namespace Operation

def after (solver : Solver) : Operation → Solver
  | configure grid kinds => (solver.configure grid kinds).2
  | selectRule id => (solver.selectRule id).2
  | placeRule rule groups => (solver.placeRule rule groups).2
  | addClue clue => (solver.addClue clue).2
  | compile =>
    match solver.compiled with
    | .ok (_, next) => next
    | .error _ => solver
  | ask query backend => (query.ask backend solver).solver

def compilation (solver : Solver) : Operation → Option String
  | compile | ask _ _ => solver.document?.map Emission.text
  | _ => none

end Operation

def compilations (solver : Solver) : List Operation → List String
  | [] => []
  | operation :: rest =>
    (operation.compilation solver).toList ++ compilations (operation.after solver) rest

def ofSession (catalog : Option Catalog) (operations : List Operation) : Solver :=
  operations.foldl Operation.after { catalog }

/-! ## What an operation changes -/

/-- Only the current model changes when a puzzle is compiled. -/
theorem compiled_eq (solver : Solver) : solver.compiled =
    (compileWith solver.catalog solver.puzzle).map fun document ↦
      (document, { solver with currentModel := some document.text }) := by
  rw [compiled]
  cases compileWith solver.catalog solver.puzzle <;> rfl

theorem solve_of_error {solver : Solver} {fault : Error}
    (h : compileWith solver.catalog solver.puzzle = .error fault) (backend : Backend)
    (options : SolveOptions) :
    solver.solve backend options = { answer := .error fault, solver } := by
  rw [solve, compiled_eq, h]
  rfl

theorem solve_of_ok {solver : Solver} {document : Emission}
    (h : compileWith solver.catalog solver.puzzle = .ok document) (backend : Backend)
    (options : SolveOptions) : solver.solve backend options =
      { answer := SolveResult.ofRun document.text (backend ⟨document.text, options⟩)
        solver := { solver with currentModel := some document.text }
        calls := [⟨document.text, options⟩]
        progress := (backend ⟨document.text, options⟩).progress } := by
  rw [solve, compiled_eq, h]
  rfl

theorem ask_of_error {solver : Solver} {fault : Error}
    (h : compileWith solver.catalog solver.puzzle = .error fault) (backend : Backend)
    (query : Query) : query.ask backend solver = { answer := .error fault, solver } := by
  rw [query.ask_eq, solve_of_error h]
  rfl

theorem ask_of_ok {solver : Solver} {document : Emission}
    (h : compileWith solver.catalog solver.puzzle = .ok document) (backend : Backend)
    (query : Query) : query.ask backend solver =
      { answer := (SolveResult.ofRun document.text
          (backend ⟨document.text, query.options⟩)).map query.answer
        solver := { solver with currentModel := some document.text }
        calls := [⟨document.text, query.options⟩]
        progress := (backend ⟨document.text, query.options⟩).progress } := by
  rw [query.ask_eq, solve_of_ok h]
  rfl

/-- A question changes nothing but the current model, and this only if the puzzle is compiled. -/
theorem solver_ask (backend : Backend) (solver : Solver) (query : Query) :
    (query.ask backend solver).solver = { solver with
      currentModel := (solver.document?.map Emission.text).or solver.currentModel } := by
  rw [document?]
  cases h : compileWith solver.catalog solver.puzzle with
  | error fault =>
    rw [ask_of_error h]
    rfl
  | ok document =>
    rw [ask_of_ok h]
    rfl

/-- The current model after an operation is the text that it compiles, if it does. -/
theorem currentModel_after (solver : Solver) (operation : Operation) :
    (operation.after solver).currentModel =
      (operation.compilation solver).or solver.currentModel := by
  cases operation with
  | configure | selectRule | placeRule | addClue => rfl
  | compile =>
    rw [Operation.after, Operation.compilation, compiled_eq, document?]
    cases compileWith solver.catalog solver.puzzle <;> rfl
  | ask query backend =>
    rw [Operation.after, solver_ask]
    rfl

theorem catalog_after (solver : Solver) (operation : Operation) :
    (operation.after solver).catalog = solver.catalog := by
  cases operation with
  | configure | selectRule | placeRule | addClue => rfl
  | compile =>
    rw [Operation.after, compiled_eq]
    cases compileWith solver.catalog solver.puzzle <;> rfl
  | ask query backend => rw [Operation.after, solver_ask]

/-! ## Whole sessions -/

/-- The current model is the text of the last successful compilation of what was done since, if
there is one. -/
theorem currentModel_foldl (solver : Solver) (operations : List Operation) :
    (operations.foldl Operation.after solver).currentModel =
      (compilations solver operations).getLast?.or solver.currentModel := by
  induction operations generalizing solver with
  | nil => rfl
  | cons operation rest ih =>
    rw [List.foldl_cons, ih, currentModel_after, compilations, List.getLast?_append,
      Option.or_assoc]
    cases operation.compilation solver <;> rfl

theorem catalog_ofSession (catalog : Option Catalog) (operations : List Operation) :
    (ofSession catalog operations).catalog = catalog := by
  have hfold (solver : Solver) :
      (operations.foldl Operation.after solver).catalog = solver.catalog := by
    induction operations generalizing solver with
    | nil => rfl
    | cons operation rest ih => rw [List.foldl_cons, ih, catalog_after]
  exact hfold { catalog }

theorem reportsLists_brokenBackend : brokenBackend.ReportsLists := by
  intro call report h
  cases h

/-- Two cells are set up. -/
def rowSession : List Operation := [.configure .twoCells [.fourDigits]]

theorem puzzle_rowSession : (ofSession (some .standard) rowSession).puzzle = plainRow.puzzle := by
  have hkinds : Puzzle.checkKinds [] [VariableKind.fourDigits] = .ok () :=
    Puzzle.checkKinds_eq_ok_iff.2 ⟨List.nodup_singleton _, List.nodup_singleton _⟩
  change (Authoring.runOn (.configure .twoCells [.fourDigits]) .empty).2 = _
  rw [Authoring.runOn_configure, hkinds]
  rfl

end Solver

end GridPuzzle
