import GridPuzzle.Proofs.Puzzle.Session
import GridPuzzle.Proofs.VariableKind
import GridPuzzle.Solver.Basic

/-!
# Faults of authoring in place

Every operation on a puzzle makes all its checks before it writes. So a step that fails leaves the
puzzle as it was, and a session in place leads to the puzzle that its successful steps lead to. To
configure is not such an operation, because three of them follow one another: where the variable
kinds are refused, the old puzzle is gone, and the new one has its grid and nothing else.
-/

namespace GridPuzzle

open Fallible

/-- What an operation answers and leaves that writes only what a step gives it to write. -/
def Puzzle.stepped (puzzle : Puzzle) : Except Error Puzzle → Except Error Unit × Puzzle
  | .ok next => (.ok (), next)
  | .error fault => (.error fault, puzzle)

namespace Authoring

variable {α β : Type}

/-! ## Operations one after the other -/

@[simp] theorem runOn_pure (a : α) (puzzle : Puzzle) :
    runOn (pure a) puzzle = (.ok a, puzzle) := rfl

@[simp] theorem runOn_attempt (x : Except Error α) (puzzle : Puzzle) :
    runOn (attempt x) puzzle = (x, puzzle) := rfl

@[simp] theorem runOn_modify (f : Puzzle → Puzzle) (puzzle : Puzzle) :
    runOn (modify f) puzzle = (.ok (), f puzzle) := rfl

@[simp] theorem runOn_throw (fault : Error) (puzzle : Puzzle) :
    runOn (throw fault : Authoring α) puzzle = (.error fault, puzzle) := rfl

@[simp] theorem runOn_get_bind (next : Puzzle → Authoring β) (puzzle : Puzzle) :
    runOn (get >>= next) puzzle = runOn (next puzzle) puzzle := rfl

/-- The second operation goes on with the puzzle that the first one leaves. -/
theorem runOn_bind (first : Authoring α) (next : α → Authoring β) (puzzle : Puzzle) :
    runOn (first >>= next) puzzle =
      match runOn first puzzle with
      | (.ok a, left) => runOn (next a) left
      | (.error fault, left) => (.error fault, left) := by
  change ExceptT.bindCont next (first.run puzzle).1 (first.run puzzle).2 = _
  rw [runOn]
  rcases first.run puzzle with ⟨_ | _, _⟩ <;> rfl

/-- A check in front of an operation is a check in front of its step. -/
theorem runOn_attempt_bind {x : Except Error α} {next : α → Authoring Unit} {puzzle : Puzzle}
    {step : α → Except Error Puzzle} (h : ∀ a, runOn (next a) puzzle = puzzle.stepped (step a)) :
    runOn (attempt x >>= next) puzzle = puzzle.stepped (x >>= step) := by
  rw [runOn_bind, runOn_attempt]
  cases x with
  | error fault => rfl
  | ok a => exact h a

/-! ## Steps in place -/

theorem runOn_setGrid (grid : Grid) (puzzle : Puzzle) :
    runOn (setGrid grid) puzzle = puzzle.stepped (puzzle.setGrid grid) := by
  unfold setGrid Puzzle.setGrid
  rw [runOn_get_bind]
  refine runOn_attempt_bind fun _ ↦ ?_
  rw [runOn_get_bind]
  exact runOn_attempt_bind fun _ ↦ rfl

theorem runOn_setKinds (kinds : List VariableKind) (puzzle : Puzzle) :
    runOn (setKinds kinds) puzzle = puzzle.stepped (puzzle.setKinds kinds) :=
  runOn_attempt_bind fun _ ↦ rfl

theorem runOn_selectRule (catalog : Option Catalog) (id : Value) (puzzle : Puzzle) :
    runOn (selectRule catalog id) puzzle = puzzle.stepped (puzzle.selectRule catalog id) := by
  refine runOn_attempt_bind fun _ ↦ ?_
  rw [runOn_get_bind]
  split
  · rfl
  · rfl

theorem runOn_insertPlacement (placement : Placement) (puzzle : Puzzle) :
    runOn (insertPlacement placement) puzzle =
      puzzle.stepped (puzzle.insertPlacement placement) := by
  unfold insertPlacement Puzzle.insertPlacement
  rw [runOn_get_bind]
  exact runOn_attempt_bind fun _ ↦ rfl

theorem runOn_addPlacement (catalog : Option Catalog) (placement : Placement) (puzzle : Puzzle) :
    runOn (addPlacement catalog placement) puzzle =
      puzzle.stepped (puzzle.addPlacement catalog placement) :=
  runOn_attempt_bind fun _ ↦ runOn_insertPlacement placement puzzle

theorem runOn_addClue (clue : Clue) (puzzle : Puzzle) :
    runOn (addClue clue) puzzle = puzzle.stepped (puzzle.addClue clue) := by
  unfold addClue Puzzle.addClue
  rw [runOn_get_bind]
  exact runOn_attempt_bind fun _ ↦ rfl

theorem map_placeRule (catalog : Option Catalog) (rule groups : Value) (puzzle : Puzzle) :
    (puzzle.placeRule catalog rule groups).map Prod.fst =
      (Puzzle.checkRule catalog rule .placed >>= fun _ ↦
        Placement.read rule groups >>= puzzle.insertPlacement) := by
  unfold Puzzle.placeRule
  cases Puzzle.checkRule catalog rule .placed with
  | error fault => rfl
  | ok _ =>
    cases Placement.read rule groups with
    | error fault => rfl
    | ok placement => cases h : puzzle.insertPlacement placement <;> simp [Except.map, h]

theorem runOn_placeRule (catalog : Option Catalog) (rule groups : Value) (puzzle : Puzzle) :
    runOn (do let _ ← placeRule catalog rule groups) puzzle =
      puzzle.stepped ((puzzle.placeRule catalog rule groups).map Prod.fst) := by
  rw [map_placeRule]
  unfold placeRule
  simp only [bind_assoc, pure_bind]
  refine runOn_attempt_bind fun _ ↦ runOn_attempt_bind fun placement ↦ ?_
  have hunit : (insertPlacement placement >>= fun _ ↦ pure PUnit.unit) =
      insertPlacement placement := bind_pure _
  rw [hunit]
  exact runOn_insertPlacement placement puzzle

end Authoring

/-! ## Sessions in place -/

namespace Puzzle

/-- A step as an operation in place. -/
def Step.inPlace (catalog : Option Catalog) : Step → Authoring Unit
  | setGrid grid => Authoring.setGrid grid
  | setKinds kinds => Authoring.setKinds kinds
  | selectRule id => Authoring.selectRule catalog id
  | placeRule rule groups => do let _ ← Authoring.placeRule catalog rule groups
  | addPlacement placement => Authoring.addPlacement catalog placement
  | addClue clue => Authoring.addClue clue
  | reset => Authoring.reset

/-- A step in place writes the puzzle that it makes, if it makes one, and nothing else. -/
theorem Step.runOn_inPlace (catalog : Option Catalog) (step : Step) (puzzle : Puzzle) :
    (step.inPlace catalog).runOn puzzle = puzzle.stepped (step.apply catalog puzzle) := by
  cases step with
  | setGrid grid => exact Authoring.runOn_setGrid grid puzzle
  | setKinds kinds => exact Authoring.runOn_setKinds kinds puzzle
  | selectRule id => exact Authoring.runOn_selectRule catalog id puzzle
  | placeRule rule groups => exact Authoring.runOn_placeRule catalog rule groups puzzle
  | addPlacement placement => exact Authoring.runOn_addPlacement catalog placement puzzle
  | addClue clue => exact Authoring.runOn_addClue clue puzzle
  | reset => rfl

theorem stepped_eq_error {puzzle left : Puzzle} {x : Except Error Puzzle} {fault : Error}
    (h : puzzle.stepped x = (.error fault, left)) : x = .error fault ∧ left = puzzle := by
  cases x with
  | ok next => simp [stepped] at h
  | error e =>
    obtain ⟨he, rfl⟩ := Prod.mk.inj h
    exact ⟨congrArg _ (Except.error.inj he), rfl⟩

/-- The puzzle that a session leaves when its steps are made in place. -/
def leftBy (catalog : Option Catalog) (steps : List Step) : Puzzle :=
  steps.foldl (fun puzzle step ↦ ((step.inPlace catalog).runOn puzzle).2) .empty

/-- In a session in place only the steps count that succeed. -/
theorem leftBy_eq_ofSession (catalog : Option Catalog) (steps : List Step) :
    leftBy catalog steps = ofSession catalog steps := by
  have hstep (puzzle : Puzzle) (step : Step) :
      ((step.inPlace catalog).runOn puzzle).2 = puzzle.after catalog step := by
    rw [step.runOn_inPlace, after]
    cases step.apply catalog puzzle <;> rfl
  simp only [leftBy, ofSession, hstep]

/-! ## Configuring in place -/

/-- Kinds are accepted behind others if all names and all arrays are distinct. -/
theorem checkKinds_of_nodup {seen kinds : List VariableKind}
    (hnames : ((seen ++ kinds).map VariableKind.name).Nodup)
    (harrays : ((seen ++ kinds).map VariableKind.array).Nodup) :
    checkKinds seen kinds = .ok () := by
  induction kinds generalizing seen with
  | nil => rfl
  | cons kind rest ih =>
    rw [List.append_cons] at hnames harrays
    have hfresh {key : VariableKind → String}
        (h : ((seen ++ [kind] ++ rest).map key).Nodup) : ∀ other ∈ seen, key other ≠ key kind := by
      intro other hother heq
      rw [List.map_append, List.map_append, List.map_singleton] at h
      exact (List.nodup_append.1 (List.nodup_append.1 h).1).2.2 _
        (List.mem_map_of_mem hother) _ List.mem_cons_self heq
    have hname : seen.any (·.name == kind.name) = false := by
      simpa using hfresh hnames
    have harray : seen.find? (·.array == kind.array) = none := by
      simpa using hfresh harrays
    unfold checkKinds
    simp only [hname, Bool.false_eq_true, if_false, harray]
    exact ih hnames harrays

theorem checkKinds_eq_ok_iff {kinds : List VariableKind} :
    checkKinds [] kinds = .ok () ↔
      (kinds.map VariableKind.name).Nodup ∧ (kinds.map VariableKind.array).Nodup :=
  ⟨fun h ↦ by simpa using checkKinds_eq_ok (by simp) h,
    fun h ↦ checkKinds_of_nodup (by simpa using h.1) (by simpa using h.2)⟩

end Puzzle

namespace Authoring

/-- Whatever the puzzle was, it is replaced by one on the grid before the kinds are checked. -/
theorem runOn_configure (grid : Grid) (kinds : List VariableKind) (puzzle : Puzzle) :
    runOn (configure grid kinds) puzzle =
      ((Puzzle.checkKinds [] kinds).map fun _ ↦ (),
        if (Puzzle.checkKinds [] kinds).isOk then { grid := some grid, kinds }
        else { grid := some grid }) := by
  have hreset : runOn reset puzzle = (.ok (), .empty) := rfl
  have hgrid : Puzzle.empty.stepped (Puzzle.empty.setGrid grid) =
      (.ok (), { grid := some grid }) := rfl
  unfold configure
  rw [runOn_bind, hreset]
  dsimp only
  rw [runOn_bind, runOn_setGrid, hgrid]
  dsimp only
  rw [runOn_setKinds, Puzzle.setKinds]
  cases Puzzle.checkKinds [] kinds <;> rfl

end Authoring

/-! ## Operations of a solver -/

namespace Solver

variable {α : Type}

theorem author_eq_error {solver left : Solver} {operation : Authoring α} {fault : Error}
    (h : solver.author operation = (.error fault, left)) :
    ∃ puzzle, operation.runOn solver.puzzle = (.error fault, puzzle) ∧
      left = { solver with puzzle } := by
  obtain ⟨hanswer, rfl⟩ := Prod.mk.inj h
  exact ⟨_, Prod.ext hanswer rfl, rfl⟩

/-- An operation that comes to a step leaves the solver as it was when it fails. -/
theorem author_step_eq_error {solver left : Solver} {operation : Authoring α}
    (step : Puzzle.Step) (hstep : step.inPlace solver.catalog = do let _ ← operation)
    {fault : Error} (h : solver.author operation = (.error fault, left)) : left = solver := by
  obtain ⟨puzzle, hrun, rfl⟩ := author_eq_error h
  have hinPlace : (step.inPlace solver.catalog).runOn solver.puzzle = (.error fault, puzzle) := by
    rw [hstep, Authoring.runOn_bind, hrun]
  rw [step.runOn_inPlace] at hinPlace
  rw [(Puzzle.stepped_eq_error hinPlace).2]

/-- Every operation that fails leaves the puzzle as it was, be it made on a puzzle or by a solver,
but for one: to configure fails just if two of the kinds have one name or one array, and then the
puzzle is left with the new grid and nothing else. -/
theorem failed_operation_leaves (catalog : Option Catalog) (solver : Solver) :
    (∀ (puzzle left : Puzzle) (step : Puzzle.Step) (fault : Error),
      (step.inPlace catalog).runOn puzzle = (.error fault, left) → left = puzzle) ∧
    (∀ id fault left, solver.selectRule id = (.error fault, left) → left = solver) ∧
    (∀ rule groups fault left,
      solver.placeRule rule groups = (.error fault, left) → left = solver) ∧
    (∀ clue fault left, solver.addClue clue = (.error fault, left) → left = solver) ∧
    ∀ grid kinds,
      ((solver.configure grid kinds).1 = .ok () ↔
        (kinds.map VariableKind.name).Nodup ∧ (kinds.map VariableKind.array).Nodup) ∧
      ∀ fault left, solver.configure grid kinds = (.error fault, left) →
        left = { solver with puzzle := { grid := some grid } } := by
  refine ⟨fun puzzle left step fault h ↦ ?_, fun id fault left h ↦ ?_,
    fun rule groups fault left h ↦ ?_, fun clue fault left h ↦ ?_, fun grid kinds ↦ ⟨?_, ?_⟩⟩
  · rw [step.runOn_inPlace] at h
    exact (Puzzle.stepped_eq_error h).2
  · exact author_step_eq_error (.selectRule id) (bind_pure _).symm h
  · exact author_step_eq_error (.placeRule rule groups) rfl h
  · exact author_step_eq_error (.addClue clue) (bind_pure _).symm h
  · rw [← Puzzle.checkKinds_eq_ok_iff, configure, author, Authoring.runOn_configure]
    cases Puzzle.checkKinds [] kinds <;> simp [Except.map]
  · intro fault left h
    obtain ⟨puzzle, hrun, rfl⟩ := author_eq_error h
    rw [Authoring.runOn_configure] at hrun
    obtain ⟨hfault, rfl⟩ := Prod.mk.inj hrun
    obtain ⟨e, he⟩ : ∃ e, Puzzle.checkKinds [] kinds = .error e :=
      ⟨fault, map_eq_error.1 hfault⟩
    rw [he]
    rfl

/-- One cell that holds a digit, and a clue for it. -/
def givenCell : Solver where
  catalog := some .empty
  puzzle :=
    { grid := some ⟨1, 1, none, Nat.one_pos, Nat.one_pos⟩
      kinds := [.fourDigits]
      clues := [⟨⟨0, 0⟩, .text digitKind, .int 1⟩] }

/-- Two kinds of one family. -/
def sharedShades : List VariableKind :=
  [⟨"shade-a", .bool, by decide, by decide⟩, ⟨"shade-b", .bool, by decide, by decide⟩]

/-- A rule that is not known is not selected, and the clue stays; kinds that share an array are
refused, and the clue is gone. -/
theorem configure_sharedShades_loses :
    (∃ fault, givenCell.selectRule (.text "unknown") = (.error fault, givenCell)) ∧
      ∃ fault left, givenCell.configure ⟨1, 2, none, by decide, by decide⟩ sharedShades =
          (.error fault, left) ∧
        left.puzzle.clues = [] ∧ givenCell.puzzle.clues ≠ [] := by
  obtain ⟨_, hselect, _, _, hconfigure⟩ := failed_operation_leaves givenCell.catalog givenCell
  refine ⟨?_, ?_⟩
  · obtain ⟨fault, left, h⟩ : ∃ fault left,
        givenCell.selectRule (.text "unknown") = (.error fault, left) := ⟨_, _, rfl⟩
    exact ⟨fault, by rw [h, hselect _ fault left h]⟩
  · obtain ⟨haccepted, hleft⟩ := hconfigure ⟨1, 2, none, by decide, by decide⟩ sharedShades
    have hclash : ¬(sharedShades.map VariableKind.array).Nodup := by decide
    cases h : givenCell.configure ⟨1, 2, none, by decide, by decide⟩ sharedShades with
    | mk answer left =>
      cases answer with
      | ok _ => exact absurd (haccepted.1 (by rw [h])).2 hclash
      | error fault =>
        refine ⟨fault, left, rfl, ?_⟩
        rw [hleft fault left h]
        exact ⟨rfl, List.cons_ne_nil _ _⟩

end Solver

end GridPuzzle
