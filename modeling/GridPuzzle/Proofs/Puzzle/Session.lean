import GridPuzzle.Proofs.Selection

/-!
# Authoring sessions

A session starts from the empty puzzle and makes steps in any order; a step that fails leaves the
puzzle as it was. Two invariants hold after every session. A consistent puzzle has its cells inside
its grid, if there is one, variable kinds of distinct names and arrays, and no rule selected twice;
no catalog is needed for that. In a session with a catalog, moreover, every selected rule is a rule
of the whole grid and every placed rule a rule to be placed. What validation can still find fault
with after such a session is therefore a missing grid, a clue's kind or value, or a rule that does
not fit the puzzle's kinds or the catalog.
-/

namespace GridPuzzle

open Fallible

namespace Puzzle

/-! ## Steps -/

/-- A step of an authoring session with its arguments. -/
inductive Step where
  | setGrid (grid : Grid)
  | setKinds (kinds : List VariableKind)
  | selectRule (id : Value)
  | placeRule (rule groups : Value)
  | addPlacement (placement : Placement)
  | addClue (clue : Clue)
  | reset

def Step.apply (catalog : Option Catalog) (puzzle : Puzzle) : Step → Except Error Puzzle
  | setGrid grid => puzzle.setGrid grid
  | setKinds kinds => puzzle.setKinds kinds
  | selectRule id => puzzle.selectRule catalog id
  | placeRule rule groups => (puzzle.placeRule catalog rule groups).map Prod.fst
  | addPlacement placement => puzzle.addPlacement catalog placement
  | addClue clue => puzzle.addClue clue
  | reset => .ok .empty

/-- The puzzle after a step: a failed one leaves it as it was. -/
def after (catalog : Option Catalog) (puzzle : Puzzle) (step : Step) : Puzzle :=
  match step.apply catalog puzzle with
  | .ok next => next
  | .error _ => puzzle

def ofSession (catalog : Option Catalog) (steps : List Step) : Puzzle :=
  steps.foldl (after catalog) .empty

/-- What every step preserves holds after every session. -/
theorem ofSession_induction {catalog : Option Catalog} {motive : Puzzle → Prop}
    (empty : motive .empty)
    (step : ∀ puzzle next step, motive puzzle → Step.apply catalog puzzle step = .ok next →
      motive next) (steps : List Step) : motive (ofSession catalog steps) := by
  have hfold (puzzle : Puzzle) (h : motive puzzle) :
      motive (steps.foldl (after catalog) puzzle) := by
    induction steps generalizing puzzle with
    | nil => exact h
    | cons s rest ih =>
      apply ih
      unfold after
      split
      next next hnext => exact step puzzle next s h hnext
      next => exact h
  exact hfold .empty empty

/-! ## What the steps check and change -/

theorem checkPlacement_eq_ok {grid : Grid} {placement : Placement} :
    checkPlacement grid placement = .ok () ↔
      ∀ cell ∈ placement.cells, grid.contains cell = true := by
  rw [checkPlacement, forM_eq_ok]
  simp only [checkCell_eq_ok]

theorem forM_grid_eq_ok {grid : Option Grid} {check : Grid → Except Error Unit} :
    grid.forM check = .ok () ↔ ∀ g, grid = some g → check g = .ok () := by
  cases grid with
  | none => simp [Option.forM]
  | some g => simp [Option.forM]

theorem setGrid_eq_ok {puzzle next : Puzzle} {grid : Grid} (h : puzzle.setGrid grid = .ok next) :
    (∀ placement ∈ puzzle.placements, ∀ cell ∈ placement.cells, grid.contains cell = true) ∧
      (∀ clue ∈ puzzle.clues, grid.contains clue.cell = true) ∧
      next = { puzzle with grid := some grid } := by
  obtain ⟨⟨⟩, hplaced, h⟩ := bind_eq_ok.1 h
  obtain ⟨⟨⟩, hclues, h⟩ := bind_eq_ok.1 h
  refine ⟨fun placement hp ↦ checkPlacement_eq_ok.1 (forM_eq_ok.1 hplaced placement hp),
    fun clue hc ↦ checkCell_eq_ok.1 (forM_eq_ok.1 hclues clue hc), ?_⟩
  exact (Except.ok.inj h).symm

/-- Kinds are accepted behind others only if all names and all arrays are distinct. -/
theorem checkKinds_eq_ok {seen kinds : List VariableKind}
    (hseen : (seen.map VariableKind.name).Nodup ∧ (seen.map VariableKind.array).Nodup)
    (h : checkKinds seen kinds = .ok ()) :
    ((seen ++ kinds).map VariableKind.name).Nodup ∧
      ((seen ++ kinds).map VariableKind.array).Nodup := by
  induction kinds generalizing seen with
  | nil => simpa using hseen
  | cons kind rest ih =>
    unfold checkKinds at h
    by_cases hname : seen.any (·.name == kind.name) = true
    · simp [hname] at h
    cases harray : seen.find? (·.array == kind.array) with
    | some earlier => simp [hname, harray] at h
    | none =>
      have hrest : checkKinds (seen ++ [kind]) rest = .ok () := by simpa [hname, harray] using h
      have hnew : ((seen ++ [kind]).map VariableKind.name).Nodup ∧
          ((seen ++ [kind]).map VariableKind.array).Nodup := by
        constructor
        · have hfresh : kind.name ∉ seen.map VariableKind.name := fun hmem ↦ by
            obtain ⟨other, hother, heq⟩ := List.mem_map.1 hmem
            exact hname (List.any_eq_true.2 ⟨other, hother, by simp [heq]⟩)
          rw [List.map_append, List.map_singleton]
          simpa using hseen.1.concat hfresh
        · have hfresh : kind.array ∉ seen.map VariableKind.array := fun hmem ↦ by
            obtain ⟨other, hother, heq⟩ := List.mem_map.1 hmem
            have := List.find?_eq_none.1 harray other hother
            simp [heq] at this
          rw [List.map_append, List.map_singleton]
          simpa using hseen.2.concat hfresh
      simpa using ih hnew hrest

theorem setKinds_eq_ok {puzzle next : Puzzle} {kinds : List VariableKind}
    (h : puzzle.setKinds kinds = .ok next) :
    (kinds.map VariableKind.name).Nodup ∧ (kinds.map VariableKind.array).Nodup ∧
      next = { puzzle with kinds } := by
  obtain ⟨⟨⟩, hkinds, h⟩ := bind_eq_ok.1 h
  obtain ⟨hnames, harrays⟩ := @checkKinds_eq_ok [] _ (by simp) hkinds
  exact ⟨hnames, harrays, (Except.ok.inj h).symm⟩

theorem selectRule_eq_ok {puzzle next : Puzzle} {catalog : Option Catalog} {id : Value}
    (h : puzzle.selectRule catalog id = .ok next) :
    checkRule catalog id .wholeGrid = .ok () ∧ (∀ other ∈ puzzle.selected, other.same id = false) ∧
      next = { puzzle with selected := puzzle.selected ++ [id] } := by
  obtain ⟨⟨⟩, hrule, h⟩ := bind_eq_ok.1 h
  split at h
  next => simp at h
  next hnew =>
    refine ⟨hrule, fun other hother ↦ ?_, (Except.ok.inj h).symm⟩
    simpa using fun hsame ↦ hnew (List.any_eq_true.2 ⟨other, hother, hsame⟩)

theorem insertPlacement_eq_ok {puzzle next : Puzzle} {placement : Placement}
    (h : puzzle.insertPlacement placement = .ok next) :
    (∀ grid, puzzle.grid = some grid →
        ∀ cell ∈ placement.cells, grid.contains cell = true) ∧
      next = { puzzle with placements := puzzle.placements ++ [placement] } := by
  obtain ⟨⟨⟩, hcells, h⟩ := bind_eq_ok.1 h
  exact ⟨fun grid hgrid ↦ checkPlacement_eq_ok.1 (forM_grid_eq_ok.1 hcells grid hgrid),
    (Except.ok.inj h).symm⟩

theorem read_rule {rule groups : Value} {placement : Placement}
    (h : Placement.read rule groups = .ok placement) : rule = .text placement.rule := by
  unfold Placement.read at h
  split at h
  next id =>
    split at h
    · simp at h
    · obtain ⟨_, _, h⟩ := bind_eq_ok.1 h
      obtain ⟨_, _, h⟩ := bind_eq_ok.1 h
      rw [← Except.ok.inj h]
  next => simp at h

/-- Both ways of placing a rule check the rule and insert the placement. -/
theorem placed_eq_ok {puzzle next : Puzzle} {catalog : Option Catalog} {step : Step}
    (hstep : (∃ placement, step = .addPlacement placement) ∨
      ∃ rule groups, step = .placeRule rule groups)
    (h : step.apply catalog puzzle = .ok next) :
    ∃ placement : Placement, checkRule catalog (.text placement.rule) .placed = .ok () ∧
      puzzle.insertPlacement placement = .ok next := by
  obtain ⟨placement, rfl⟩ | ⟨rule, groups, rfl⟩ := hstep
  · obtain ⟨⟨⟩, hrule, h⟩ := bind_eq_ok.1 h
    exact ⟨placement, hrule, h⟩
  · obtain ⟨pair, hpair, hfst⟩ := map_eq_ok.1 h
    obtain ⟨⟨⟩, hrule, hpair⟩ := bind_eq_ok.1 hpair
    obtain ⟨read, hread, hpair⟩ := bind_eq_ok.1 hpair
    obtain ⟨inserted, hinserted, hpair⟩ := bind_eq_ok.1 hpair
    have heq : inserted = next := by rw [← hfst, ← Except.ok.inj hpair]
    exact ⟨read, read_rule hread ▸ hrule, heq ▸ hinserted⟩

theorem addClue_eq_ok {puzzle next : Puzzle} {clue : Clue} (h : puzzle.addClue clue = .ok next) :
    (∀ grid, puzzle.grid = some grid → grid.contains clue.cell = true) ∧
      next = { puzzle with clues := puzzle.clues ++ [clue] } := by
  obtain ⟨⟨⟩, hcell, h⟩ := bind_eq_ok.1 h
  exact ⟨fun grid hgrid ↦ checkCell_eq_ok.1 (forM_grid_eq_ok.1 hcell grid hgrid),
    (Except.ok.inj h).symm⟩

/-- A rule that passes the check of a step is a rule of the catalog with the step's scope. -/
theorem checkRule_eq_ok {catalog : Catalog} {id : Value} {scope : Scope}
    (h : checkRule (some catalog) id scope = .ok ()) :
    ∃ s rule, id = .text s ∧ catalog.find? s = some rule ∧ rule.scope = scope := by
  obtain ⟨rule, hrule, h⟩ := bind_eq_ok.1 h
  obtain ⟨s, hid, hs⟩ := Catalog.get_eq_ok.1 hrule
  refine ⟨s, rule, hid, hs, ?_⟩
  by_contra hscope
  simp [hscope] at h

/-! ## Invariants -/

/-- Cells lie in the grid, if there is one, kinds have distinct names and distinct arrays, and no
rule is selected twice. -/
structure Consistent (puzzle : Puzzle) : Prop where
  cells : ∀ grid, puzzle.grid = some grid →
    ∀ placement ∈ puzzle.placements, ∀ cell ∈ placement.cells, grid.contains cell = true
  clues : ∀ grid, puzzle.grid = some grid →
    ∀ clue ∈ puzzle.clues, grid.contains clue.cell = true
  names : (puzzle.kinds.map VariableKind.name).Nodup
  arrays : (puzzle.kinds.map VariableKind.array).Nodup
  distinct : puzzle.selected.Pairwise fun a b ↦ a.same b = false

/-- Every selected rule is a rule of the whole grid and every placed rule one to be placed. -/
structure RulesKnown (catalog : Catalog) (puzzle : Puzzle) : Prop where
  selected : ∀ id ∈ puzzle.selected,
    ∃ s rule, id = .text s ∧ catalog.find? s = some rule ∧ rule.scope = .wholeGrid
  placed : ∀ placement ∈ puzzle.placements,
    ∃ rule, catalog.find? placement.rule = some rule ∧ rule.scope = .placed

theorem Consistent.insertPlacement {puzzle next : Puzzle} {placement : Placement}
    (hp : puzzle.Consistent) (h : puzzle.insertPlacement placement = .ok next) :
    next.Consistent := by
  obtain ⟨hcells, rfl⟩ := insertPlacement_eq_ok h
  refine { hp with cells := fun grid hgrid other hother ↦ ?_ }
  obtain hother | hother := List.mem_append.1 hother
  · exact hp.cells grid hgrid other hother
  · rw [List.mem_singleton.1 hother]
    exact hcells grid hgrid

theorem Consistent.step {catalog : Option Catalog} {puzzle next : Puzzle} {step : Step}
    (hp : puzzle.Consistent) (h : step.apply catalog puzzle = .ok next) : next.Consistent := by
  cases step with
  | setGrid grid =>
    obtain ⟨hcells, hclues, rfl⟩ := setGrid_eq_ok h
    refine { hp with cells := fun g hg ↦ ?_, clues := fun g hg ↦ ?_ }
    · obtain rfl : grid = g := Option.some.inj hg
      exact hcells
    · obtain rfl : grid = g := Option.some.inj hg
      exact hclues
  | setKinds kinds =>
    obtain ⟨hnames, harrays, rfl⟩ := setKinds_eq_ok h
    exact { hp with names := hnames, arrays := harrays }
  | selectRule id =>
    obtain ⟨_, hnew, rfl⟩ := selectRule_eq_ok h
    refine { hp with distinct := List.pairwise_append.2 ⟨hp.distinct, by simp, ?_⟩ }
    intro other hother id' hid
    rw [List.mem_singleton.1 hid]
    exact hnew other hother
  | placeRule rule groups =>
    obtain ⟨placement, _, h⟩ := placed_eq_ok (.inr ⟨rule, groups, rfl⟩) h
    exact hp.insertPlacement h
  | addPlacement placement =>
    obtain ⟨placement, _, h⟩ := placed_eq_ok (.inl ⟨placement, rfl⟩) h
    exact hp.insertPlacement h
  | addClue clue =>
    obtain ⟨hcell, rfl⟩ := addClue_eq_ok h
    refine { hp with clues := fun grid hgrid other hother ↦ ?_ }
    obtain hother | hother := List.mem_append.1 hother
    · exact hp.clues grid hgrid other hother
    · rw [List.mem_singleton.1 hother]
      exact hcell grid hgrid
  | reset =>
    obtain rfl := Except.ok.inj h
    constructor <;> simp [Puzzle.empty]

theorem RulesKnown.insertPlacement {catalog : Catalog} {puzzle next : Puzzle}
    {placement : Placement} (hp : puzzle.RulesKnown catalog)
    (hrule : checkRule (some catalog) (.text placement.rule) .placed = .ok ())
    (h : puzzle.insertPlacement placement = .ok next) : next.RulesKnown catalog := by
  obtain ⟨_, rfl⟩ := insertPlacement_eq_ok h
  refine { hp with placed := fun other hother ↦ ?_ }
  obtain hother | hother := List.mem_append.1 hother
  · exact hp.placed other hother
  · rw [List.mem_singleton.1 hother]
    obtain ⟨s, rule, hid, hs, hscope⟩ := checkRule_eq_ok hrule
    obtain rfl : placement.rule = s := by simpa using hid
    exact ⟨rule, hs, hscope⟩

theorem RulesKnown.step {catalog : Catalog} {puzzle next : Puzzle} {step : Step}
    (hp : puzzle.RulesKnown catalog) (h : step.apply (some catalog) puzzle = .ok next) :
    next.RulesKnown catalog := by
  cases step with
  | setGrid grid =>
    obtain ⟨_, _, rfl⟩ := setGrid_eq_ok h
    exact ⟨hp.selected, hp.placed⟩
  | setKinds kinds =>
    obtain ⟨_, _, rfl⟩ := setKinds_eq_ok h
    exact ⟨hp.selected, hp.placed⟩
  | selectRule id =>
    obtain ⟨hrule, _, rfl⟩ := selectRule_eq_ok h
    refine { hp with selected := fun other hother ↦ ?_ }
    obtain hother | hother := List.mem_append.1 hother
    · exact hp.selected other hother
    · rw [List.mem_singleton.1 hother]
      exact checkRule_eq_ok hrule
  | placeRule rule groups =>
    obtain ⟨placement, hrule, h⟩ := placed_eq_ok (.inr ⟨rule, groups, rfl⟩) h
    exact hp.insertPlacement hrule h
  | addPlacement placement =>
    obtain ⟨placement, hrule, h⟩ := placed_eq_ok (.inl ⟨placement, rfl⟩) h
    exact hp.insertPlacement hrule h
  | addClue clue =>
    obtain ⟨_, rfl⟩ := addClue_eq_ok h
    exact ⟨hp.selected, hp.placed⟩
  | reset =>
    obtain rfl := Except.ok.inj h
    constructor <;> simp [Puzzle.empty]

theorem consistent_ofSession (catalog : Option Catalog) (steps : List Step) :
    (ofSession catalog steps).Consistent :=
  ofSession_induction (by constructor <;> simp [Puzzle.empty])
    (fun _ _ _ hp h ↦ hp.step h) steps

theorem rulesKnown_ofSession (catalog : Catalog) (steps : List Step) :
    (ofSession (some catalog) steps).RulesKnown catalog :=
  ofSession_induction (by constructor <;> simp [Puzzle.empty])
    (fun _ _ _ hp h ↦ hp.step h) steps

/-! ## Validation after a session -/

variable {catalog : Catalog} {puzzle : Puzzle}

/-- Validation repeats checks that the steps have made, and in a consistent puzzle with known rules
it finds no fault by them. -/
theorem RulesKnown.validation_fault (hp : puzzle.Consistent) (hr : puzzle.RulesKnown catalog)
    {e : Error} (h : Selection.ofPuzzle catalog puzzle = .error e) :
    e = .noGrid ∨
      (∃ clue ∈ puzzle.clues, e = .wrongType ∨ e = .clueKind clue.cell clue.kind ∨
        ∃ kind, e = .clueDomain clue.value.toValue clue.cell kind) ∨
      ∃ rule ∈ catalog.entries, Selection.checkRule catalog puzzle.kinds rule = .error e := by
  obtain h | ⟨grid, hgrid, h⟩ := Selection.ofPuzzle_eq_error h
  · exact .inl h
  obtain h | ⟨clue, hclue, h⟩ | ⟨id, hid, h⟩ | ⟨placement, hmem, position, h⟩ |
    ⟨rule, hrule, -, h⟩ := h
  · exact absurd hp.arrays (Selection.checkArrays_eq_error h).1
  · refine .inr (.inl ⟨clue, hclue, ?_⟩)
    obtain ⟨h, -⟩ | h | ⟨hout, -⟩ | h := Selection.checkClue_eq_error h
    · exact .inl h
    · exact .inr (.inl h)
    · rw [hp.clues grid hgrid clue hclue] at hout
      cases hout
    · exact .inr (.inr h)
  · obtain ⟨s, rule, hs⟩ := hr.selected id hid
    rw [Selection.resolve_eq_ok.2 ⟨s, hs⟩] at h
    cases h
  · obtain h | ⟨cell, hcell, hout, -⟩ := Selection.resolvePlacement_eq_error h
    · obtain ⟨rule, hrule, hscope⟩ := hr.placed placement hmem
      rw [Selection.resolve_eq_ok.2 ⟨placement.rule, rfl, hrule, hscope⟩] at h
      cases h
    · rw [hp.cells grid hgrid placement hmem cell hcell] at hout
      cases hout
  · exact .inr (.inr ⟨rule, hrule, h⟩)

/-- The rules that are selected or placed are known, so no unknown one is among them. -/
theorem RulesKnown.not_used_of_unknown (hr : puzzle.RulesKnown catalog) {s : String}
    (hnone : catalog.find? s = none) : .text s ∉ puzzle.selected ∧
      ∀ placement ∈ puzzle.placements, Value.text s ≠ .text placement.rule := by
  constructor
  · intro hmem
    obtain ⟨t, rule, htext, hrule, _⟩ := hr.selected _ hmem
    obtain rfl := Value.text.inj htext
    rw [hnone] at hrule
    cases hrule
  · intro placement hmem heq
    obtain ⟨rule, hrule, _⟩ := hr.placed placement hmem
    obtain rfl := Value.text.inj heq
    rw [hnone] at hrule
    cases hrule

/-- The selected rules as a list of distinct ids. -/
theorem RulesKnown.exists_ids (hp : puzzle.Consistent) (hr : puzzle.RulesKnown catalog) :
    ∃ ids : List String, puzzle.selected = ids.map Value.text ∧ ids.Nodup ∧
      ∀ id ∈ ids, ∃ rule, catalog.find? id = some rule ∧ rule.scope = .wholeGrid := by
  have htexts : puzzle.selected ∈ Set.range (List.map Value.text) := by
    rw [Set.range_list_map]
    intro id hid
    obtain ⟨s, _, rfl, _⟩ := hr.selected id hid
    exact ⟨s, rfl⟩
  obtain ⟨ids, hids⟩ := htexts
  refine ⟨ids, hids.symm, ?_, fun id hid ↦ ?_⟩
  · have hdistinct := hp.distinct
    rw [← hids, List.pairwise_map] at hdistinct
    exact hdistinct.imp fun hne ↦ by simpa using hne
  · obtain ⟨s, rule, htext, hs⟩ :=
      hr.selected (.text id) (hids ▸ List.mem_map_of_mem hid)
    obtain rfl : id = s := by simpa using htext
    exact ⟨rule, hs⟩

/-- After every session with a catalog, whatever its steps and whether they succeeded, the cells lie
in the grid, kinds have distinct names and arrays, the selected rules are distinct rules of the
whole grid and the placed rules are rules to be placed. Validation against the catalog then finds no
cell outside the grid, no clashing arrays, and no selected or placed rule unknown or of a wrong
scope. -/
theorem session_invariant (catalog : Catalog) (steps : List Step) :
    let puzzle := ofSession (some catalog) steps
    (∀ grid, puzzle.grid = some grid →
      (∀ placement ∈ puzzle.placements, ∀ cell ∈ placement.cells, grid.contains cell = true) ∧
        ∀ clue ∈ puzzle.clues, grid.contains clue.cell = true) ∧
    (puzzle.kinds.map VariableKind.name).Nodup ∧ (puzzle.kinds.map VariableKind.array).Nodup ∧
    (∃ ids : List String, puzzle.selected = ids.map Value.text ∧ ids.Nodup ∧
      ∀ id ∈ ids, ∃ rule, catalog.find? id = some rule ∧ rule.scope = .wholeGrid) ∧
    (∀ placement ∈ puzzle.placements,
      ∃ rule, catalog.find? placement.rule = some rule ∧ rule.scope = .placed) ∧
    ∀ e, Selection.ofPuzzle catalog puzzle = .error e →
      (∀ cell holder rows cols, e ≠ .cellOutside cell holder rows cols) ∧
      (∀ arrays, e ≠ .clashingArrays arrays) ∧
      (∀ reference rule actual expected, e = .ruleUse reference rule actual expected →
        ∃ user, reference = .dependency user) ∧
      ∀ id known, e = .unknownRule id known →
        id ∉ puzzle.selected ∧ ∀ placement ∈ puzzle.placements, id ≠ .text placement.rule := by
  intro puzzle
  have hp : puzzle.Consistent := consistent_ofSession (some catalog) steps
  have hr : puzzle.RulesKnown catalog := rulesKnown_ofSession catalog steps
  refine ⟨fun grid hgrid ↦ ⟨hp.cells grid hgrid, hp.clues grid hgrid⟩, hp.names, hp.arrays,
    hr.exists_ids hp, hr.placed, fun e he ↦ ?_⟩
  obtain rfl | ⟨clue, _, rfl | rfl | ⟨kind, rfl⟩⟩ | ⟨rule, _, hrule⟩ := hr.validation_fault hp he
  · simp
  · simp [Error.wrongType]
  · simp
  · simp
  obtain ⟨_, rfl⟩ | rfl | ⟨dependency, _, hresolve⟩ | ⟨kind, name, rfl⟩ :=
    Selection.checkRule_eq_error hrule
  · simp
  · simp
  · obtain ⟨hnone, rfl⟩ | ⟨used, actual, rfl⟩ := Selection.resolve_text_eq_error hresolve
    · refine ⟨by simp, by simp, by simp, fun id known h ↦ ?_⟩
      obtain ⟨rfl, _⟩ := Error.unknownRule.inj h
      exact hr.not_used_of_unknown hnone
    · refine ⟨by simp, by simp, fun reference name found expected h ↦ ?_, by simp⟩
      exact ⟨rule.id, (Error.ruleUse.inj h).1.symm⟩
  · simp

end Puzzle

end GridPuzzle
