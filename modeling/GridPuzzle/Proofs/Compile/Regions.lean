import GridPuzzle.Proofs.Compile.CodeLines
import GridPuzzle.Proofs.Compile.Layout

/-!
# Rules that need regions

On a grid without regions a rule that needs them is written as a neutral constraint, with a warning.
Apart from that it leaves no trace: the puzzle without such rules is compiled as well, its document
has the same lines of code but for neutral constraints, and there is one warning less for every such
rule that was selected or placed.
-/

namespace GridPuzzle

open Fallible Standard Text

variable {catalog : Catalog} {puzzle : Puzzle} {grid : Grid} {selection : Selection}

/-! ## Puzzles without rules that need regions -/

def Catalog.rule? (catalog : Catalog) : Value → Option Rule
  | .text s => catalog.find? s
  | _ => none

theorem Catalog.mem_of_rule? {id : Value} {rule : Rule} (h : catalog.rule? id = some rule) :
    rule ∈ catalog.entries ∧ id = .text rule.id := by
  cases id with
  | text s =>
    obtain ⟨hmem, rfl⟩ := Catalog.mem_of_find? h
    exact ⟨hmem, rfl⟩
  | _ => simp [Catalog.rule?] at h

def Catalog.needsRegions (catalog : Catalog) (id : Value) : Bool :=
  (catalog.rule? id).any Rule.requiresRegions

def Placement.needsRegions (catalog : Catalog) (placement : Placement) : Bool :=
  catalog.needsRegions (.text placement.rule)

def Puzzle.withoutRegionRules (catalog : Catalog) (puzzle : Puzzle) : Puzzle :=
  { puzzle with
    selected := puzzle.selected.filter (!catalog.needsRegions ·)
    placements := puzzle.placements.filter (!·.needsRegions catalog) }

namespace Selection.Accepted

/-- A puzzle is still accepted when rules that need regions are taken out of it. -/
theorem withoutRegionRules (h : Accepted catalog puzzle grid selection) :
    Accepted catalog (puzzle.withoutRegionRules catalog) grid selection where
  grid_eq := h.grid_eq
  arrays := h.arrays
  clues := h.clues
  selected id hid := h.selected id (List.mem_of_mem_filter hid)
  placed placement hplacement := h.placed placement (List.mem_of_mem_filter hplacement)
  cells placement hplacement := h.cells placement (List.mem_of_mem_filter hplacement)
  known := h.known
  fits := h.fits

theorem find?_selected_eq (h : Accepted catalog puzzle grid selection) {id : Value}
    (hid : id ∈ puzzle.selected) : selection.find? id = catalog.rule? id := by
  obtain ⟨rule, hrule, rfl, _⟩ := h.selected id hid
  exact (h.find?_id hrule).trans (Catalog.find?_id (h.known rule hrule)).symm

theorem find?_placed_eq (h : Accepted catalog puzzle grid selection) {placement : Placement}
    (hplacement : placement ∈ puzzle.placements) :
    selection.find? (.text placement.rule) = catalog.rule? (.text placement.rule) := by
  obtain ⟨rule, hrule, hid, _⟩ := h.placed placement hplacement
  rw [hid]
  exact (h.find?_id hrule).trans (Catalog.find?_id (h.known rule hrule)).symm

/-- The rules found for the selected ids are those of the catalog. -/
theorem filterMap_selected (h : Accepted catalog puzzle grid selection) :
    puzzle.selected.filterMap selection.find? =
      puzzle.selected.flatMap fun id ↦ (catalog.rule? id).toList := by
  rw [List.filterMap_congr fun id hid ↦ h.find?_selected_eq hid, List.filterMap_eq_flatMap_toList]

end Selection.Accepted

/-! ## Bodies without regions -/

/-- The lines of code of a text but for neutral constraints. -/
def effectiveLines (s : String) : List String := (codeLines s).filter (· != neutralConstraint)

/-- The drafter on the shared total is the only one that reads the placements of a puzzle. -/
theorem drafter_placements {id : String} {drafter : Drafter} (h : (id, drafter) ∈ libraryDrafters)
    (hid : id ≠ globalRegionSumLines.id) (groups : List Group) (placements : List Placement)
    (grid : Grid) : drafter groups placements grid = drafter groups [] grid := by
  simp only [libraryDrafters, List.mem_cons, Prod.mk.injEq, List.not_mem_nil, or_false] at h
  obtain ⟨rfl, _⟩ | ⟨_, rfl⟩ | ⟨_, rfl⟩ | ⟨_, rfl⟩ | ⟨_, rfl⟩ | ⟨_, rfl⟩ | ⟨_, rfl⟩ | ⟨_, rfl⟩ := h
  · exact absurd rfl hid
  all_goals rfl

/-- Without regions, what is written of a rule depends on the groups only. -/
theorem body_of_isNone {rule : Rule} (hrule : rule ∈ rules) (hregions : grid.regions = none)
    {placements : List Placement} {groups : List Group} {position : Option Nat}
    {body : List Emission} (h : rule.body placements grid groups position = .ok body) :
    rule.body [] grid groups none = .ok body := by
  have hids : ∀ rule ∈ rules, rule.requiresRegions = false → rule.id ≠ globalRegionSumLines.id := by
    decide
  cases hskipped : rule.isSkipped grid with
  | true => simpa [Rule.body, hskipped] using h
  | false =>
    have hrequires : rule.requiresRegions = false := by
      simpa [Rule.isSkipped, hregions] using hskipped
    simp only [Rule.body, hskipped, Bool.false_eq_true, if_false] at h ⊢
    unfold generated at h ⊢
    cases hgenerator : rule.generator with
    | none => simpa only [hgenerator] using h
    | some generator =>
      simp only [hgenerator] at h ⊢
      obtain ⟨drafter, hdrafter, rfl⟩ := exists_drafter hrule hgenerator
      have hsame : drafter.toGenerator groups placements grid =
          drafter.toGenerator groups [] grid := by
        unfold Drafter.toGenerator
        rw [drafter_placements hdrafter (hids rule hrule hrequires)]
      rw [hsame] at h
      cases hemission : drafter.toGenerator groups [] grid with
      | ok emission => simpa only [hemission] using h
      | error fault => simp [hemission] at h

namespace Rule

variable (rule : Rule) (grid : Grid)

/-- What the body of a rule for groups adds to the effective lines of a document. -/
def effectiveBody (groups : List Group) : List String :=
  match rule.body [] grid groups none with
  | .ok body => body.flatMap fun part ↦ effectiveLines part.text
  | .error _ => []

def wholeLines : List String :=
  (rule.ownFragment grid).flatMap effectiveLines ++ rule.effectiveBody grid []

def placedLines (before : List Placement) (groups : List Group) : List String :=
  (if before.all (·.rule != rule.id) then (rule.ownFragment grid).flatMap effectiveLines else []) ++
    rule.effectiveBody grid groups

variable {rule grid}

theorem effectiveBody_of_ok (hrule : rule ∈ rules) (hregions : grid.regions = none)
    {placements : List Placement} {groups : List Group} {position : Option Nat}
    {body : List Emission} (h : rule.body placements grid groups position = .ok body) :
    (body.flatMap fun part ↦ effectiveLines part.text) = rule.effectiveBody grid groups := by
  rw [effectiveBody, body_of_isNone hrule hregions h]

/-- A rule that needs regions adds nothing. -/
theorem lines_of_requiresRegions (hrule : rule ∈ rules) (hregions : grid.regions = none)
    (hrequires : rule.requiresRegions = true) :
    rule.wholeLines grid = [] ∧ ∀ before groups, rule.placedLines grid before groups = [] := by
  have hskipped : rule.isSkipped grid = true := by simp [isSkipped, hrequires, hregions]
  have hbody (groups : List Group) : rule.effectiveBody grid groups = [] := by
    have hneutral : effectiveLines (skipped rule).text = [] := by
      rw [skipped, effectiveLines, codeLines_neutral (isNote_skipped rule hrule)]
      rfl
    simp [effectiveBody, body, hskipped, hneutral]
  simp [wholeLines, placedLines, ownFragment, hskipped, hbody]

end Rule

/-! ## Effective lines of a document -/

theorem RuleBlock.filter_code (block : RuleBlock) :
    block.code.filter (· != neutralConstraint) =
      block.body.flatMap fun part ↦ effectiveLines part.text := List.filter_flatMap

/-- The fragment before a placement stands before the first of its rule. -/
theorem effectiveLines_sharedFragment (rule : Rule) (grid : Grid) (placements : List Placement)
    (position : Nat) :
    (((rule.sharedFragment placements grid position).toList.map rule.fragmentBlock).flatMap
      fun block ↦ block.code.filter (· != neutralConstraint)) =
      if (placements.take (position - 1)).all (·.rule != rule.id) then
        (rule.ownFragment grid).flatMap effectiveLines
      else [] := by
  unfold Rule.sharedFragment Rule.isFirstAt Rule.ownFragment
  cases (placements.take (position - 1)).all (·.rule != rule.id) with
  | false => simp
  | true =>
    cases rule.isSkipped grid with
    | true => simp
    | false =>
      cases rule.fragment with
      | none => rfl
      | some fragment =>
        simp [RuleBlock.filter_code, Rule.fragmentBlock, Emission.plain]

def Puzzle.effectiveLines (puzzle : Puzzle) (grid : Grid) (clues : List String) : List String :=
  (puzzle.opening grid clues).flatMap GridPuzzle.effectiveLines ++
    (puzzle.selected.flatMap fun id ↦
      (Catalog.standard.rule? id).toList.flatMap fun rule ↦ rule.wholeLines grid) ++
    ((puzzle.placements.zipIdx 1).flatMap fun x ↦
      (Catalog.standard.rule? (.text x.1.rule)).toList.flatMap fun rule ↦
        rule.placedLines grid (puzzle.placements.take (x.2 - 1)) x.1.groups) ++
    GridPuzzle.effectiveLines solveItem

theorem effectiveLines_compile (hregions : grid.regions = none)
    (haccepted : Selection.ofPuzzle .standard puzzle = .ok (grid, selection)) {document : Emission}
    (h : compile .standard puzzle = .ok document) :
    ∃ clues, puzzle.clueLines = .ok clues ∧
      effectiveLines document.text = puzzle.effectiveLines grid clues := by
  obtain ⟨grid', selection', clues, whole, placed, haccepted', hclues, hwhole, hplaced, hcode⟩ :=
    codeLines_compile h
  obtain ⟨rfl, rfl⟩ : grid' = grid ∧ selection' = selection :=
    Prod.mk.inj (Except.ok.inj (haccepted'.symm.trans haccepted))
  have hvalid := Selection.ofPuzzle_eq_ok haccepted
  have hselected := flatMap_of_mapM_eq_ok
    (g := fun block ↦ block.code.filter (· != neutralConstraint))
    (k := fun rule ↦ rule.wholeLines grid') hwhole fun rule hrule block hblock ↦ by
      obtain ⟨body, hbody, rfl⟩ := map_eq_ok.1 hblock
      rw [RuleBlock.filter_code, List.flatMap_append, List.flatMap_map,
        Rule.effectiveBody_of_ok (hvalid.known rule (hvalid.mem_of_found hrule).1) hregions hbody]
      rfl
  have hplacements := flatMap_of_mapM_eq_ok
    (g := fun own ↦ own.flatMap fun block ↦ block.code.filter (· != neutralConstraint))
    (k := fun x ↦ (Catalog.standard.rule? (.text x.1.rule)).toList.flatMap fun rule ↦
      rule.placedLines grid' (puzzle.placements.take (x.2 - 1)) x.1.groups)
    hplaced fun x hx own hown ↦ by
      have hplacement : x.1 ∈ puzzle.placements := List.fst_mem_of_mem_zipIdx hx
      obtain ⟨rule, hrule, hfind, _, remarks, body, _, hbody, rfl⟩ :=
        exists_placedBlocks hvalid hplacement hown
      rw [← hvalid.find?_placed_eq hplacement, hfind, List.flatMap_append,
        effectiveLines_sharedFragment, List.flatMap_singleton, RuleBlock.filter_code,
        Rule.effectiveBody_of_ok (hvalid.known rule hrule) hregions hbody]
      exact (List.flatMap_singleton _ _).symm
  rw [hvalid.filterMap_selected, List.flatMap_assoc] at hselected
  refine ⟨clues, hclues, ?_⟩
  rw [effectiveLines, hcode, Puzzle.effectiveLines, ← hselected, ← hplacements]
  simp only [List.filter_append, List.filter_flatMap]
  rfl

/-! ## Taking members out of a list -/

theorem flatMap_filter_of_nil {α β : Type} {keep : α → Bool} {f : α → List β} {l : List α}
    (h : ∀ a ∈ l, keep a = false → f a = []) : (l.filter keep).flatMap f = l.flatMap f := by
  induction l with
  | nil => rfl
  | cons a l ih =>
    obtain ⟨ha, hrest⟩ := List.forall_mem_cons.1 h
    cases hkeep : keep a with
    | true => rw [List.filter_cons_of_pos hkeep, List.flatMap_cons, List.flatMap_cons, ih hrest]
    | false =>
      rw [List.filter_cons_of_neg (by simp [hkeep]), List.flatMap_cons, ha hkeep, ih hrest]
      rfl

/-- Members that contribute nothing, and do not matter for others behind them, can be taken out. -/
theorem flatMap_take_filter {α β : Type} (keep : α → Bool) (f : List α → α → List β) {l : List α}
    (hdrop : ∀ a ∈ l, keep a = false → ∀ before, f before a = [])
    (hkeep : ∀ a ∈ l, keep a = true → ∀ before, f (before.filter keep) a = f before a) :
    (((l.filter keep).zipIdx 1).flatMap fun x ↦ f ((l.filter keep).take (x.2 - 1)) x.1) =
      (l.zipIdx 1).flatMap fun x ↦ f (l.take (x.2 - 1)) x.1 := by
  -- from the end, since what a member gives depends on those in front of it
  induction l using List.reverseRecOn with
  | nil => rfl
  | append_singleton l a ih =>
    have hfront := ih (fun b hb ↦ hdrop b (List.mem_append_left _ hb))
      fun b hb ↦ hkeep b (List.mem_append_left _ hb)
    have ha : a ∈ l ++ [a] := by simp
    rw [flatMap_take_append, List.filter_append, ← hfront]
    cases hcase : keep a with
    | true =>
      rw [List.filter_cons_of_pos hcase, List.filter_nil, flatMap_take_append, hkeep a ha hcase]
    | false =>
      rw [List.filter_cons_of_neg (by simp [hcase]), List.filter_nil, List.append_nil,
        hdrop a ha hcase, List.append_nil]

/-! ## Puzzles with and without rules that need regions -/

/-- Whether a rule is placed for the first time does not depend on placements of rules that need
regions, if it is none of these rules. -/
theorem Placement.all_filter_needsRegions {rule : Rule} (hrule : rule ∈ rules)
    (hrequires : rule.requiresRegions = false) (before : List Placement) :
    (before.filter fun placement ↦ !placement.needsRegions .standard).all (·.rule != rule.id) =
      before.all (·.rule != rule.id) := by
  have hsame (other : Placement) (hid : other.rule = rule.id) :
      other.needsRegions .standard = false := by
    have hother : Catalog.standard.rule? (.text rule.id) = some rule := Catalog.find?_id hrule
    simp [Placement.needsRegions, Catalog.needsRegions, hid, hother, hrequires]
  rw [List.all_filter, Bool.eq_iff_iff, List.all_eq_true, List.all_eq_true]
  refine forall₂_congr fun other _ ↦ ?_
  by_cases hid : other.rule = rule.id
  · simp [hid, hsame other hid]
  · simp [hid]

/-- Rules that need regions add no effective line, nor does it matter to others whether they are
placed. -/
theorem Puzzle.effectiveLines_withoutRegionRules (puzzle : Puzzle) (hregions : grid.regions = none)
    (clues : List String) : (puzzle.withoutRegionRules .standard).effectiveLines grid clues =
      puzzle.effectiveLines grid clues := by
  have hselected : ((puzzle.selected.filter (!Catalog.standard.needsRegions ·)).flatMap fun id ↦
      (Catalog.standard.rule? id).toList.flatMap fun rule ↦ rule.wholeLines grid) =
      puzzle.selected.flatMap fun id ↦
        (Catalog.standard.rule? id).toList.flatMap fun rule ↦ rule.wholeLines grid := by
    refine flatMap_filter_of_nil fun id _ hdrop ↦ List.flatMap_eq_nil_iff.2 fun rule hrule ↦ ?_
    have hfind := Option.mem_toList.1 hrule
    have hrequires : rule.requiresRegions = true := by
      simpa [Catalog.needsRegions, Option.mem_def.1 hfind] using hdrop
    exact (Rule.lines_of_requiresRegions (Catalog.mem_of_rule? hfind).1 hregions hrequires).1
  have hplaced := @flatMap_take_filter _ _ (fun placement ↦ !placement.needsRegions .standard)
    (fun before placement ↦ (Catalog.standard.rule? (.text placement.rule)).toList.flatMap
      fun rule ↦ rule.placedLines grid before placement.groups) puzzle.placements ?_ ?_
  · unfold Puzzle.effectiveLines
    simp only [Puzzle.withoutRegionRules, hselected]
    rw [hplaced]
    rfl
  · refine fun placement _ hdrop before ↦ List.flatMap_eq_nil_iff.2 fun rule hrule ↦ ?_
    have hfind := Option.mem_toList.1 hrule
    have hrequires : rule.requiresRegions = true := by
      simpa [Placement.needsRegions, Catalog.needsRegions, Option.mem_def.1 hfind] using hdrop
    exact (Rule.lines_of_requiresRegions (Catalog.mem_of_rule? hfind).1 hregions hrequires).2 _ _
  · refine fun placement _ hkeep before ↦ List.flatMap_congr fun rule hrule ↦ ?_
    have hfind := Option.mem_toList.1 hrule
    have hrequires : rule.requiresRegions = false := by
      simpa [Placement.needsRegions, Catalog.needsRegions, Option.mem_def.1 hfind] using hkeep
    unfold Rule.placedLines
    rw [Placement.all_filter_needsRegions (Catalog.mem_of_rule? hfind).1 hrequires]

def Warning.isRegionsNeeded : Warning → Bool
  | regionsNeeded _ => true
  | totalIgnored _ => false

theorem countP_flatMap_eq {α β : Type} {p : β → Bool} {q : α → Bool} {f : α → List β} {l : List α}
    (h : ∀ a ∈ l, (f a).countP p = if q a then 1 else 0) : (l.flatMap f).countP p = l.countP q := by
  induction l with
  | nil => rfl
  | cons a l ih =>
    obtain ⟨ha, hrest⟩ := List.forall_mem_cons.1 h
    rw [List.flatMap_cons, List.countP_append, ha, ih hrest, List.countP_cons, Nat.add_comm]

theorem Placement.isRegionsNeeded_ignoredTotals (placement : Placement) :
    ∀ warning ∈ placement.ignoredTotals, warning.isRegionsNeeded = false := by
  intro warning hwarning
  unfold ignoredTotals at hwarning
  split at hwarning
  · obtain ⟨group, _, hignored⟩ := List.mem_filterMap.1 hwarning
    unfold Group.ignoredTotal? at hignored
    split at hignored
    · simp at hignored
    · split at hignored
      · obtain rfl := Option.some.inj hignored
        rfl
      · simp at hignored
  · simp at hwarning

/-- A rule found for an id is warned of if it needs regions. -/
theorem countP_skipWarnings (hregions : grid.regions = none) (id : Value) :
    (((Catalog.standard.rule? id).toList.flatMap fun rule ↦ rule.skipWarnings grid).countP
      Warning.isRegionsNeeded) = if Catalog.standard.needsRegions id then 1 else 0 := by
  unfold Catalog.needsRegions
  cases Catalog.standard.rule? id with
  | none => rfl
  | some rule =>
    cases hrequires : rule.requiresRegions <;>
      simp [Rule.skipWarnings, Rule.isSkipped, hrequires, hregions, Warning.isRegionsNeeded]

theorem filter_skipWarnings (rule : Rule) (grid : Grid) :
    (rule.skipWarnings grid).filter (!·.isRegionsNeeded) = [] := by
  unfold Rule.skipWarnings
  split <;> simp [Warning.isRegionsNeeded]

/-- The warnings on a puzzle on a grid without regions: one for every selection and every placement
of a rule that needs regions, and besides these the ignored totals of cages. -/
theorem Puzzle.warnings_of_isNone (h : Selection.Accepted .standard puzzle grid selection)
    (hregions : grid.regions = none) :
    (puzzle.warnings grid selection).countP Warning.isRegionsNeeded =
        puzzle.selected.countP Catalog.standard.needsRegions +
          puzzle.placements.countP (Placement.needsRegions .standard) ∧
      (puzzle.warnings grid selection).filter (!·.isRegionsNeeded) =
        puzzle.placements.flatMap Placement.ignoredTotals := by
  unfold Puzzle.warnings
  rw [h.filterMap_selected, List.flatMap_assoc]
  constructor
  · rw [List.countP_append, countP_flatMap_eq fun id _ ↦ countP_skipWarnings hregions id]
    congr 1
    refine countP_flatMap_eq fun placement hplacement ↦ ?_
    have htotals : placement.ignoredTotals.countP Warning.isRegionsNeeded = 0 :=
      List.countP_eq_zero.2 fun warning hwarning ↦ by
        simp [placement.isRegionsNeeded_ignoredTotals warning hwarning]
    rw [Placement.warnings, List.countP_append, h.find?_placed_eq hplacement,
      countP_skipWarnings hregions, htotals]
    rfl
  · have htotals (placement : Placement) :
        (placement.warnings grid selection).filter (!·.isRegionsNeeded) =
          placement.ignoredTotals := by
      have hself : placement.ignoredTotals.filter (!·.isRegionsNeeded) = placement.ignoredTotals :=
        List.filter_eq_self.2 fun warning hwarning ↦ by
          simp [placement.isRegionsNeeded_ignoredTotals warning hwarning]
      rw [Placement.warnings, List.filter_append, List.filter_flatMap, hself]
      simp [filter_skipWarnings]
    rw [List.filter_append, List.filter_flatMap, List.filter_flatMap]
    simp [htotals, List.filter_flatMap, filter_skipWarnings]

/-- The warnings that are left are those on totals of cages. -/
theorem Puzzle.warnings_withoutRegionRules {used : Selection}
    (h : Selection.Accepted .standard puzzle grid selection)
    (hused : Selection.Accepted .standard (puzzle.withoutRegionRules .standard) grid used)
    (hregions : grid.regions = none) :
    (puzzle.withoutRegionRules .standard).warnings grid used =
      (puzzle.warnings grid selection).filter (!·.isRegionsNeeded) := by
  obtain ⟨hcount, hfilter⟩ := warnings_of_isNone hused hregions
  have hselected : (puzzle.withoutRegionRules .standard).selected.countP
      Catalog.standard.needsRegions = 0 :=
    List.countP_eq_zero.2 fun id hid ↦ by simpa using (List.mem_filter.1 hid).2
  have hplaced : (puzzle.withoutRegionRules .standard).placements.countP
      (Placement.needsRegions .standard) = 0 :=
    List.countP_eq_zero.2 fun placement hplacement ↦ by
      simpa using (List.mem_filter.1 hplacement).2
  rw [hselected, hplaced] at hcount
  have hdropped : (puzzle.withoutRegionRules .standard).placements.flatMap Placement.ignoredTotals =
      puzzle.placements.flatMap Placement.ignoredTotals := by
    refine flatMap_filter_of_nil fun placement _ hdrop ↦ ignoredTotals_of_ne ?_
    have hcage : Catalog.standard.needsRegions (.text killerCage.id) = false := by decide
    rintro hid
    rw [Placement.needsRegions, hid, hcage] at hdrop
    exact absurd hdrop (by decide)
  calc (puzzle.withoutRegionRules .standard).warnings grid used
      = ((puzzle.withoutRegionRules .standard).warnings grid used).filter (!·.isRegionsNeeded) := by
        refine (List.filter_eq_self.2 fun warning hwarning ↦ ?_).symm
        simpa using List.countP_eq_zero.1 hcount warning hwarning
    _ = puzzle.placements.flatMap Placement.ignoredTotals := by rw [hfilter, hdropped]
    _ = (puzzle.warnings grid selection).filter (!·.isRegionsNeeded) :=
        (warnings_of_isNone h hregions).2.symm

/-- The puzzle without rules that need regions can be written and has no faulty placement if that is
so with them. -/
theorem exists_compile_withoutRegionRules (hregions : grid.regions = none)
    (haccepted : Selection.ofPuzzle .standard puzzle = .ok (grid, selection)) {document : Emission}
    (h : compile .standard puzzle = .ok document) :
    ∃ used reduced, Selection.ofPuzzle .standard (puzzle.withoutRegionRules .standard) =
        .ok (grid, used) ∧
      compile .standard (puzzle.withoutRegionRules .standard) = .ok reduced := by
  have hvalid := Selection.ofPuzzle_eq_ok haccepted
  obtain ⟨hheld, hwritable, hfaulty⟩ := isWritable_of_compile haccepted h
  obtain ⟨used, hused, _⟩ := hvalid.withoutRegionRules.exists_ofPuzzle
  obtain ⟨hrules, htotal⟩ := ruleNames_of_isNone (Selection.ofPuzzle_eq_ok hused) hregions
  have hreduced : (puzzle.withoutRegionRules .standard).IsWritable grid :=
    ⟨hwritable.size, hwritable.domains, fun placement hplacement ↦
      hwritable.values placement (List.mem_of_mem_filter hplacement)⟩
  obtain ⟨reduced, hcompiled⟩ := exists_compile_eq_ok hused hheld hreduced hrules
    (fun hmem ↦ absurd hmem htotal)
    fun placement hplacement ↦ hfaulty placement (List.mem_of_mem_filter hplacement)
  exact ⟨used, reduced, hused, hcompiled⟩

theorem warnings_of_compile
    (haccepted : Selection.ofPuzzle .standard puzzle = .ok (grid, selection))
    {document : Emission} (h : compile .standard puzzle = .ok document) :
    document.warnings = puzzle.warnings grid selection := by
  rw [compile_eq haccepted] at h
  obtain ⟨parts, hparts, h⟩ := bind_eq_ok.1 h
  obtain ⟨⟨⟩, _, rfl⟩ := map_eq_ok.1 h
  exact warnings_sections (Selection.ofPuzzle_eq_ok haccepted) hparts

/-- A puzzle on a grid without regions that is compiled against the standard catalog is also
compiled without its rules that need regions. Both documents have the same lines of code but for
neutral constraints, and for every such rule that is selected or placed there is one warning less.
-/
theorem compile_withoutRegionRules (hgrid : puzzle.grid = some grid)
    (hregions : grid.regions = none) {document : Emission}
    (h : compile .standard puzzle = .ok document) :
    ∃ reduced, compile .standard (puzzle.withoutRegionRules .standard) = .ok reduced ∧
      (codeLines document.text).filter (· != neutralConstraint) =
        (codeLines reduced.text).filter (· != neutralConstraint) ∧
      reduced.warnings = document.warnings.filter (!·.isRegionsNeeded) ∧
      document.warnings.length = reduced.warnings.length +
        puzzle.selected.countP Catalog.standard.needsRegions +
        puzzle.placements.countP (Placement.needsRegions .standard) := by
  obtain ⟨⟨found, selection⟩, haccepted, _⟩ := bind_eq_ok.1 h
  have hvalid := Selection.ofPuzzle_eq_ok haccepted
  obtain rfl : found = grid := Option.some.inj (hvalid.grid_eq.symm.trans hgrid)
  obtain ⟨used, reduced, hused, hreduced⟩ := exists_compile_withoutRegionRules hregions haccepted h
  have hvalid' := Selection.ofPuzzle_eq_ok hused
  obtain ⟨clues, hclues, hlines⟩ := effectiveLines_compile hregions haccepted h
  obtain ⟨clues', hclues', hlines'⟩ := effectiveLines_compile hregions hused hreduced
  obtain rfl : clues = clues' := Except.ok.inj (hclues.symm.trans hclues')
  have hwarnings : reduced.warnings = document.warnings.filter (!·.isRegionsNeeded) := by
    rw [warnings_of_compile hused hreduced, warnings_of_compile haccepted h]
    exact Puzzle.warnings_withoutRegionRules hvalid hvalid' hregions
  refine ⟨reduced, hreduced, ?_, hwarnings, ?_⟩
  · calc effectiveLines document.text
        = puzzle.effectiveLines found clues := hlines
      _ = (puzzle.withoutRegionRules .standard).effectiveLines found clues :=
          (puzzle.effectiveLines_withoutRegionRules hregions clues).symm
      _ = effectiveLines reduced.text := hlines'.symm
  · have hcount := (Puzzle.warnings_of_isNone hvalid hregions).1
    rw [← warnings_of_compile haccepted h] at hcount
    have hlength :=
      List.length_eq_countP_add_countP Warning.isRegionsNeeded (l := document.warnings)
    rw [hwarnings, ← List.countP_eq_length_filter, Nat.add_assoc, ← hcount, Nat.add_comm, hlength]
    simp

/-- Two cells on a thermometer and on a region sum line, with the rule on the shared total. -/
def Puzzle.regionlessRow : Puzzle where
  grid := some .twoCells
  kinds := [.fourDigits]
  selected := [.text globalRegionSumLines.id]
  placements :=
    [⟨regionSumLine.id, [⟨[⟨0, 0⟩, ⟨0, 1⟩], .absent⟩]⟩,
      ⟨thermometer.id, [⟨[⟨0, 0⟩, ⟨0, 1⟩], .absent⟩]⟩]

theorem compile_regionlessRow : ∃ document reduced,
    compile .standard .regionlessRow = .ok document ∧
      compile .standard (Puzzle.regionlessRow.withoutRegionRules .standard) = .ok reduced ∧
      document.warnings.length = reduced.warnings.length + 2 := by
  have haccepted : Selection.ofPuzzle .standard .regionlessRow =
      .ok (.twoCells, [globalRegionSumLines, regionSumLine, thermometer]) := rfl
  have hfaulty : ∀ placement ∈ Puzzle.regionlessRow.placements, ¬placement.IsFaulty := by
    have hids : regionSumLine.id ≠ killerCage.id ∧ regionSumLine.id ≠ arrow.id ∧
        thermometer.id ≠ killerCage.id ∧ thermometer.id ≠ arrow.id := by decide
    simp [Puzzle.regionlessRow, Placement.IsFaulty, hids]
  obtain ⟨document, h⟩ := exists_compile_twoCells haccepted rfl
    (by simp [Puzzle.regionlessRow, GroupValue.toValue, Value.isWritable]) hfaulty
  have hregions : Grid.twoCells.regions = none := rfl
  obtain ⟨reduced, hreduced, _, _, hlength⟩ := compile_withoutRegionRules rfl hregions h
  exact ⟨document, reduced, h, hreduced, hlength⟩

end GridPuzzle
