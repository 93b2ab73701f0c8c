import GridPuzzle.Proofs.Compile.Layout
import GridPuzzle.Proofs.Value
import GridPuzzle.Solver.Basic

/-!
# Verdicts on the number of solutions

The solutions that count are those which a run of the backend streamed, and those of its report
where it streamed none. A puzzle is found to have exactly one solution when exactly one of them
counts, be the run sound or not: neither a failure nor the reported status is looked at. The result
of the same call does tell, because it has a solution just if the run ended with a status that
promises one.
-/

namespace GridPuzzle

open Fallible

/-! ## Runs -/

namespace SolveRun

/-- The end of a run cannot be told, and why: a failure has no text, or a status that is not known
cannot be written. -/
def Untold (run : SolveRun) (fault : Error) : Prop :=
  match run.ending with
  | .failed reason => reason = .error fault
  | .reported report => (∀ status : SolveStatus, report.status ≠ .text status.name) ∧
      report.status.isWritable = false ∧ fault = .wrongValue

def IsTold (run : SolveRun) : Prop := ∀ fault, ¬run.Untold fault

theorem IsTold.exists_text {run : SolveRun} {reason : Except Error String} (htold : run.IsTold)
    (hend : run.ending = .failed reason) : ∃ text, reason = .ok text := by
  cases reason with
  | error fault => exact absurd (by rw [Untold, hend]) (htold fault)
  | ok text => exact ⟨text, rfl⟩

/-- The solutions that a run brings, of which the end can be told. -/
inductive Brings (run : SolveRun) : List Value → Prop
  | streamed : run.IsTold → run.streamed ≠ [] → Brings run run.streamed
  | reported {report : SolveReport} {items : List Value} : run.IsTold → run.streamed = [] →
      run.ending = .reported report → report.solutions.items? = some items → Brings run items
  | failed {text : String} : run.streamed = [] → run.ending = .failed (.ok text) →
      Brings run []

/-- A run is sound if the backend did not fail and reported a status that promises a solution. -/
def IsSound (run : SolveRun) : Prop :=
  ∃ report, run.ending = .reported report ∧
    (report.status = .text "SATISFIED" ∨ report.status = .text "ALL_SOLUTIONS")

end SolveRun

/-- The known statuses are told by their names. -/
theorem SolveStatus.ofName?_eq_some {given : Value} {status : SolveStatus} :
    ofName? given = some status ↔ given = .text status.name := by
  constructor
  · intro h
    unfold ofName? at h
    have hsame : given.same (.text status.name) = true := by simpa using List.find?_some h
    exact Value.same_text_iff.1 hsame
  · rintro rfl
    cases status <;> simp [ofName?, name]

theorem SolveStatus.ofName?_eq_none {given : Value} :
    ofName? given = none ↔ ∀ status : SolveStatus, given ≠ .text status.name := by
  rw [Option.eq_none_iff_forall_ne_some]
  exact forall_congr' fun status ↦ not_congr ofName?_eq_some

namespace SolveResult

variable {run : SolveRun} {model : String} {result : SolveResult}

/-- A report of a known status is passed on. Any other status is an error, if it can be written. -/
theorem outcome_cases (report : SolveReport) :
    (∃ status : SolveStatus, report.status = .text status.name ∧
      outcome report = .ok (status, report.error)) ∨
    (∀ status : SolveStatus, report.status ≠ .text status.name) ∧
      ((report.status.isWritable = true ∧ ∃ error, outcome report = .ok (.error, error)) ∨
        report.status.isWritable = false ∧ outcome report = .error .wrongValue) := by
  unfold outcome
  cases hname : SolveStatus.ofName? report.status with
  | some status => exact .inl ⟨status, SolveStatus.ofName?_eq_some.1 hname, rfl⟩
  | none =>
    refine .inr ⟨SolveStatus.ofName?_eq_none.1 hname, ?_⟩
    cases report.status.isWritable with
    | true => exact .inl ⟨rfl, _, rfl⟩
    | false => exact .inr ⟨rfl, rfl⟩

/-- The report of a run that can be told has a status and an error. -/
theorem exists_outcome {report : SolveReport} (htold : run.IsTold)
    (hend : run.ending = .reported report) : ∃ worded, outcome report = .ok worded := by
  obtain ⟨status, _, h⟩ | ⟨hunknown, ⟨_, error, h⟩ | ⟨hwritable, _⟩⟩ := outcome_cases report
  · exact ⟨_, h⟩
  · exact ⟨_, h⟩
  · have huntold : run.Untold .wrongValue := by
      rw [SolveRun.Untold, hend]
      exact ⟨hunknown, hwritable, rfl⟩
    exact absurd huntold (htold _)

theorem hasSolution_outcome {report : SolveReport} {worded : SolveStatus × Value}
    (h : outcome report = .ok worded) : worded.1.hasSolution = true ↔
      report.status = .text "SATISFIED" ∨ report.status = .text "ALL_SOLUTIONS" := by
  obtain ⟨status, hstatus, hknown⟩ | ⟨hunknown, ⟨_, error, herror⟩ | ⟨_, herror⟩⟩ :=
    outcome_cases report
  · obtain rfl := Except.ok.inj (hknown.symm.trans h)
    rw [hstatus]
    cases status <;> simp [SolveStatus.hasSolution, SolveStatus.name]
  · obtain rfl := Except.ok.inj (herror.symm.trans h)
    have hsatisfied : report.status ≠ .text "SATISFIED" := hunknown .satisfied
    have hall : report.status ≠ .text "ALL_SOLUTIONS" := hunknown .allSolutions
    simp [SolveStatus.hasSolution, hsatisfied, hall]
  · simp [herror] at h

theorem collect_eq_ok {streamed found : List Value} {reported : Value} :
    collect streamed reported = .ok found ↔
      streamed ≠ [] ∧ found = streamed ∨ streamed = [] ∧ reported.items? = some found := by
  cases streamed with
  | nil =>
    rw [collect, readItems]
    cases reported.items? with
    | none => simp
    | some items => simp
  | cons solution streamed => simp [collect, eq_comm]

/-- A run of which the end cannot be told has no result. -/
theorem ofRun_of_untold {fault : Error} (h : run.Untold fault) (model : String) :
    ofRun model run = .error fault := by
  unfold SolveRun.Untold at h
  unfold ofRun
  cases hend : run.ending with
  | failed reason =>
    rw [hend] at h
    rw [h]
    rfl
  | reported report =>
    rw [hend] at h
    obtain ⟨hunknown, hwritable, rfl⟩ := h
    have houtcome : outcome report = .error .wrongValue := by
      simp [outcome, SolveStatus.ofName?_eq_none.2 hunknown, hwritable]
    dsimp only
    rw [houtcome]
    rfl

theorem ofRun_of_failed {text : String} (hend : run.ending = .failed (.ok text)) :
    ofRun model run = .ok ⟨.error, run.streamed, .null, .text text, model⟩ := by
  rw [ofRun, hend]
  rfl

theorem ofRun_of_reported {report : SolveReport} {worded : SolveStatus × Value}
    (hend : run.ending = .reported report) (hworded : outcome report = .ok worded) :
    ofRun model run = (collect run.streamed report.solutions).map fun found ↦
      ⟨worded.1, found, report.time, worded.2, model⟩ := by
  rw [ofRun, hend]
  dsimp only
  rw [hworded]
  rfl

theorem isTold_of_ofRun (h : ofRun model run = .ok result) : run.IsTold := fun fault huntold ↦ by
  simp [ofRun_of_untold huntold] at h

/-- The result of a run holds the solutions that the run brings, and has a solution just if the run
is sound. -/
theorem ofRun_eq_ok (h : ofRun model run = .ok result) :
    run.Brings result.solutions ∧ (result.hasSolution = true ↔ run.IsSound) := by
  have htold : run.IsTold := isTold_of_ofRun h
  cases hend : run.ending with
  | failed reason =>
    obtain ⟨text, rfl⟩ := htold.exists_text hend
    rw [ofRun_of_failed hend] at h
    obtain rfl := Except.ok.inj h
    constructor
    · by_cases hstreamed : run.streamed = []
      · rw [hstreamed]
        exact .failed hstreamed hend
      · exact .streamed htold hstreamed
    · simp [SolveRun.IsSound, hend, hasSolution, SolveStatus.hasSolution]
  | reported report =>
    obtain ⟨worded, hworded⟩ := exists_outcome htold hend
    rw [ofRun_of_reported hend hworded] at h
    obtain ⟨found, hfound, rfl⟩ := map_eq_ok.1 h
    constructor
    · obtain ⟨hstreamed, rfl⟩ | ⟨hstreamed, hitems⟩ := collect_eq_ok.1 hfound
      · exact .streamed htold hstreamed
      · exact .reported htold hstreamed hend hitems
    · rw [hasSolution, hasSolution_outcome hworded, SolveRun.IsSound]
      simp [hend]

/-- A run that brings solutions has a result. -/
theorem exists_ofRun (model : String) {found : List Value} (h : run.Brings found) :
    ∃ result, ofRun model run = .ok result ∧ result.solutions = found := by
  have hreported {report : SolveReport} (htold : run.IsTold) (hend : run.ending = .reported report)
      (hfound : collect run.streamed report.solutions = .ok found) :
      ∃ result, ofRun model run = .ok result ∧ result.solutions = found := by
    obtain ⟨worded, hworded⟩ := exists_outcome htold hend
    rw [ofRun_of_reported hend hworded]
    exact ⟨_, map_eq_ok.2 ⟨found, hfound, rfl⟩, rfl⟩
  cases h with
  | streamed htold hstreamed =>
    cases hend : run.ending with
    | failed reason =>
      obtain ⟨text, rfl⟩ := htold.exists_text hend
      exact ⟨_, ofRun_of_failed hend, rfl⟩
    | reported report => exact hreported htold hend (collect_eq_ok.2 (.inl ⟨hstreamed, rfl⟩))
  | reported htold hstreamed hend hitems =>
    exact hreported htold hend (collect_eq_ok.2 (.inr ⟨hstreamed, hitems⟩))
  | failed hstreamed hend => exact ⟨_, ofRun_of_failed hend, hstreamed⟩

end SolveResult

/-! ## Verdicts -/

namespace Solver

variable {solver : Solver} {backend : Backend}

/-- The call by which solutions are counted up to a limit. -/
def countingCall (model : Emission) (limit : Int) : SolveCall :=
  ⟨model.text, { allSolutions := .bool true, numSolutions := .int limit }⟩

/-- A puzzle that is compiled is handed to the backend once. -/
theorem solve_of_compileWith {model : Emission}
    (h : compileWith solver.catalog solver.puzzle = .ok model) (backend : Backend)
    (options : SolveOptions) :
    (solver.solve backend options).answer =
        SolveResult.ofRun model.text (backend ⟨model.text, options⟩) ∧
      (solver.solve backend options).calls = [⟨model.text, options⟩] := by
  have hcompiled : solver.compiled =
      .ok (model, { solver with currentModel := some model.text }) := by
    rw [compiled, h]
    rfl
  constructor <;> rw [solve, hcompiled]

/-- An answer of the backend is one to the model of the puzzle. -/
theorem exists_compileWith {options : SolveOptions} {result : SolveResult}
    (h : (solver.solve backend options).answer = .ok result) :
    ∃ model, compileWith solver.catalog solver.puzzle = .ok model ∧
      SolveResult.ofRun model.text (backend ⟨model.text, options⟩) = .ok result := by
  cases hmodel : compileWith solver.catalog solver.puzzle with
  | error fault =>
    have hcompiled : solver.compiled = .error fault := by
      rw [compiled, hmodel]
      rfl
    rw [solve, hcompiled] at h
    cases h
  | ok model => exact ⟨model, rfl, by rw [← h, (solve_of_compileWith hmodel backend options).1]⟩

/-- Solutions are counted up to the limit. -/
theorem countSolutions_eq_ok {limit count : Int} :
    (solver.countSolutions backend limit).answer = .ok count ↔
      ∃ model found, compileWith solver.catalog solver.puzzle = .ok model ∧
        (backend (countingCall model limit)).Brings found ∧
        min (found.length : Int) limit = count := by
  constructor
  · intro h
    obtain ⟨result, hresult, hcount⟩ := map_eq_ok.1 h
    obtain ⟨model, hmodel, hrun⟩ := exists_compileWith hresult
    exact ⟨model, result.solutions, hmodel, (SolveResult.ofRun_eq_ok hrun).1, hcount⟩
  · rintro ⟨model, found, hmodel, hfound, hcount⟩
    obtain ⟨result, hrun, rfl⟩ := SolveResult.exists_ofRun model.text hfound
    apply map_eq_ok.2
    exact ⟨result, (solve_of_compileWith hmodel backend _).1.trans hrun, hcount⟩

/-- A puzzle is found to have one solution if and only if it is compiled and the run on its model
brings exactly one, whether the run is sound or not. That run is the only one, and it is sound just
if the result of its call has a solution. -/
theorem hasUniqueSolution_verdict (solver : Solver) (backend : Backend) :
    ((solver.hasUniqueSolution backend).answer = .ok true ↔
      ∃ model solution, compileWith solver.catalog solver.puzzle = .ok model ∧
        (backend (countingCall model 2)).Brings [solution]) ∧
    ∀ model, compileWith solver.catalog solver.puzzle = .ok model →
      (solver.hasUniqueSolution backend).calls = [countingCall model 2] ∧
      ∀ result, (solver.solve backend (countingCall model 2).options).answer = .ok result →
        (result.hasSolution = true ↔ (backend (countingCall model 2)).IsSound) := by
  refine ⟨⟨?_, ?_⟩, ?_⟩
  · intro h
    obtain ⟨count, hcount, hone⟩ := map_eq_ok.1 h
    obtain ⟨model, found, hmodel, hfound, hmin⟩ := countSolutions_eq_ok.1 hcount
    have hlength : found.length = 1 := by
      have : count = 1 := by simpa using hone
      omega
    obtain ⟨solution, rfl⟩ := List.length_eq_one_iff.1 hlength
    exact ⟨model, solution, hmodel, hfound⟩
  · rintro ⟨model, solution, hmodel, hfound⟩
    apply map_eq_ok.2
    exact ⟨1, countSolutions_eq_ok.2 ⟨model, [solution], hmodel, hfound, rfl⟩, rfl⟩
  · intro model hmodel
    obtain ⟨hanswer, hcalls⟩ := solve_of_compileWith hmodel backend (countingCall model 2).options
    refine ⟨hcalls, ?_⟩
    intro result hresult
    rw [hanswer] at hresult
    exact (SolveResult.ofRun_eq_ok hresult).2

/-! ## A run that breaks off -/

def plainRow : Solver where
  catalog := some .standard
  puzzle := { grid := some .twoCells, kinds := [.fourDigits] }

/-- A backend that fails when it has streamed a solution. -/
def brokenBackend : Backend := fun _ ↦
  { streamed := [.mapping [(.text "numbers", .list [])]], ending := .failed (.ok "out of memory") }

/-- After the failure a single solution is found, and the result of the same call has none. -/
theorem hasUniqueSolution_brokenBackend :
    (plainRow.hasUniqueSolution brokenBackend).answer = .ok true ∧
      ∃ model result, compileWith plainRow.catalog plainRow.puzzle = .ok model ∧
        (plainRow.solve brokenBackend (countingCall model 2).options).answer = .ok result ∧
        ¬(brokenBackend (countingCall model 2)).IsSound ∧ result.hasSolution = false := by
  obtain ⟨model, hmodel⟩ : ∃ model, compileWith plainRow.catalog plainRow.puzzle = .ok model :=
    exists_compile_twoCells rfl rfl (by simp [plainRow]) (by simp [plainRow])
  have htold : (brokenBackend (countingCall model 2)).IsTold := fun fault ↦ by
    simp [SolveRun.Untold, brokenBackend]
  have hbrings : (brokenBackend (countingCall model 2)).Brings
      [.mapping [(.text "numbers", .list [])]] := .streamed htold (List.cons_ne_nil _ _)
  have hunsound : ¬(brokenBackend (countingCall model 2)).IsSound := by
    simp [SolveRun.IsSound, brokenBackend]
  obtain ⟨hunique, hcall⟩ := hasUniqueSolution_verdict plainRow brokenBackend
  have hresult := (solve_of_compileWith hmodel brokenBackend (countingCall model 2).options).1
  refine ⟨hunique.2 ⟨model, _, hmodel, hbrings⟩, model, _, hmodel, hresult, hunsound, ?_⟩
  have hsound := (hcall model hmodel).2 _ hresult
  exact Bool.eq_false_iff.2 fun h ↦ hunsound (hsound.1 h)

end Solver

end GridPuzzle
