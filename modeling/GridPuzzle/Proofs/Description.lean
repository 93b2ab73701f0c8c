import GridPuzzle.Description
import GridPuzzle.Proofs.Puzzle.Session

/-!
# Reading descriptions

A description is read by steps of an authoring session, so its puzzle has every invariant of such
sessions. Only the first of these steps sets the grid.
-/

namespace GridPuzzle

open Fallible

namespace Puzzle

variable {catalog : Option Catalog}

/-- A puzzle to which a session of authoring leads. -/
def IsAuthored (catalog : Option Catalog) (puzzle : Puzzle) : Prop :=
  ∃ steps, puzzle = ofSession catalog steps

theorem isAuthored_empty : IsAuthored catalog .empty := ⟨[], rfl⟩

theorem IsAuthored.step {puzzle next : Puzzle} (h : puzzle.IsAuthored catalog) (step : Step)
    (hstep : step.apply catalog puzzle = .ok next) : next.IsAuthored catalog := by
  obtain ⟨steps, rfl⟩ := h
  refine ⟨steps ++ [step], ?_⟩
  have hafter : ofSession catalog (steps ++ [step]) =
      after catalog (ofSession catalog steps) step := List.foldl_append
  rw [hafter, after, hstep]

theorem placeRule_grid {puzzle next : Puzzle} {rule groups : Value} {placement : Placement}
    (h : puzzle.placeRule catalog rule groups = .ok (next, placement)) :
    next.grid = puzzle.grid := by
  obtain ⟨⟨⟩, -, h⟩ := bind_eq_ok.1 h
  obtain ⟨read, -, h⟩ := bind_eq_ok.1 h
  obtain ⟨inserted, hinserted, h⟩ := bind_eq_ok.1 h
  obtain ⟨rfl, -⟩ := Prod.mk.inj (Except.ok.inj h)
  rw [(insertPlacement_eq_ok hinserted).2]

end Puzzle

namespace Description

theorem entriesOf_eq_ok {place : String} {given : Value} {entries : Entries} :
    entriesOf place given = .ok entries ↔ given.entries? = some entries := by
  unfold entriesOf
  cases given.entries? <;> simp

/-! ## Parts of a description -/

section Parts

variable {catalog : Option Catalog} {puzzle next : Puzzle} {given : Value} {item : Value × Nat}

theorem addKinds_eq_ok (h : addKinds puzzle given = .ok next) :
    next = puzzle ∨ ∃ kinds, puzzle.setKinds kinds = .ok next := by
  unfold addKinds at h
  split at h
  · exact .inl (Except.ok.inj h).symm
  · obtain ⟨kinds, -, h⟩ := bind_eq_ok.1 h
    exact .inr ⟨kinds, h⟩

theorem addRule_eq_ok (h : addRule catalog puzzle item = .ok next) :
    ∃ id, puzzle.selectRule catalog (.text id) = .ok next := by
  obtain ⟨id, -, h⟩ := bind_eq_ok.1 h
  exact ⟨id, h⟩

theorem addConstraint_eq_ok (h : addConstraint catalog puzzle item = .ok next) :
    ∃ id groups placement, puzzle.placeRule catalog (.text id) groups = .ok (next, placement) := by
  obtain ⟨_, -, h⟩ := bind_eq_ok.1 h
  obtain ⟨id, -, h⟩ := bind_eq_ok.1 h
  obtain ⟨groups, -, h⟩ := bind_eq_ok.1 h
  obtain ⟨⟨placed, placement⟩, hplaced, h⟩ := bind_eq_ok.1 h
  obtain rfl := Except.ok.inj h
  exact ⟨id, _, placement, hplaced⟩

theorem addClue_eq_ok (h : addClue puzzle item = .ok next) :
    ∃ clue, puzzle.addClue clue = .ok next := by
  obtain ⟨_, -, h⟩ := bind_eq_ok.1 h
  dsimp only at h
  split at h
  · cases h
  · obtain ⟨clue, -, h⟩ := bind_eq_ok.1 h
    exact ⟨clue, h⟩

theorem addKinds_grid (h : addKinds puzzle given = .ok next) : next.grid = puzzle.grid := by
  obtain rfl | ⟨kinds, h⟩ := addKinds_eq_ok h
  · rfl
  · rw [(Puzzle.setKinds_eq_ok h).2.2]

theorem addRule_grid (h : addRule catalog puzzle item = .ok next) : next.grid = puzzle.grid := by
  obtain ⟨id, h⟩ := addRule_eq_ok h
  rw [(Puzzle.selectRule_eq_ok h).2.2]

theorem addConstraint_grid (h : addConstraint catalog puzzle item = .ok next) :
    next.grid = puzzle.grid := by
  obtain ⟨id, groups, placement, h⟩ := addConstraint_eq_ok h
  exact Puzzle.placeRule_grid h

theorem addClue_grid (h : addClue puzzle item = .ok next) : next.grid = puzzle.grid := by
  obtain ⟨clue, h⟩ := addClue_eq_ok h
  rw [(Puzzle.addClue_eq_ok h).2]

theorem isAuthored_addKinds (hp : puzzle.IsAuthored catalog)
    (h : addKinds puzzle given = .ok next) : next.IsAuthored catalog := by
  obtain rfl | ⟨kinds, h⟩ := addKinds_eq_ok h
  · exact hp
  · exact hp.step (.setKinds kinds) h

theorem isAuthored_addRule (hp : puzzle.IsAuthored catalog)
    (h : addRule catalog puzzle item = .ok next) : next.IsAuthored catalog := by
  obtain ⟨id, h⟩ := addRule_eq_ok h
  exact hp.step (.selectRule (.text id)) h

theorem isAuthored_addConstraint (hp : puzzle.IsAuthored catalog)
    (h : addConstraint catalog puzzle item = .ok next) : next.IsAuthored catalog := by
  obtain ⟨id, groups, placement, h⟩ := addConstraint_eq_ok h
  exact hp.step (.placeRule (.text id) groups) (map_eq_ok.2 ⟨_, h, rfl⟩)

theorem isAuthored_addClue (hp : puzzle.IsAuthored catalog)
    (h : addClue puzzle item = .ok next) : next.IsAuthored catalog := by
  obtain ⟨clue, h⟩ := addClue_eq_ok h
  exact hp.step (.addClue clue) h

end Parts

/-! ## Whole descriptions -/

/-- A description is read by steps of authoring. -/
theorem isAuthored_toPuzzle {catalog : Option Catalog} {puzzle : Puzzle} {description : Value}
    (h : toPuzzle catalog description = .ok puzzle) : puzzle.IsAuthored catalog := by
  obtain ⟨entries, _, h⟩ := bind_eq_ok.1 h
  obtain ⟨⟨⟩, _, h⟩ := bind_eq_ok.1 h
  obtain ⟨grid, _, h⟩ := bind_eq_ok.1 h
  obtain ⟨withGrid, hgrid, h⟩ := bind_eq_ok.1 h
  obtain ⟨withKinds, hkinds, h⟩ := bind_eq_ok.1 h
  obtain ⟨_, _, h⟩ := bind_eq_ok.1 h
  obtain ⟨withRules, hrules, h⟩ := bind_eq_ok.1 h
  obtain ⟨_, _, h⟩ := bind_eq_ok.1 h
  obtain ⟨withConstraints, hconstraints, h⟩ := bind_eq_ok.1 h
  obtain ⟨_, _, h⟩ := bind_eq_ok.1 h
  have hgrid : withGrid.IsAuthored catalog :=
    Puzzle.isAuthored_empty.step (.setGrid grid) hgrid
  have hkinds := isAuthored_addKinds hgrid hkinds
  have hrules := foldlM_induction hkinds (fun _ _ _ _ hc ↦ isAuthored_addRule hc) hrules
  have hconstraints :=
    foldlM_induction hrules (fun _ _ _ _ hc ↦ isAuthored_addConstraint hc) hconstraints
  exact foldlM_induction hconstraints (fun _ _ _ _ hc ↦ isAuthored_addClue hc) h

end Description

end GridPuzzle
