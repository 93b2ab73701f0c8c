import GridPuzzle.Proofs.Compile.GroupValues
import GridPuzzle.Proofs.Compile.Regions

/-!
# Adding a placement

When a placement is added to a puzzle, its sections come to stand at the end of the document, before
the demand for a solution, and the rest of the document stays as it is. The one exception is the
rule on the shared total, which reads the region sum lines of the puzzle.
-/

namespace GridPuzzle

open Fallible Standard Text

def Puzzle.withPlacement (puzzle : Puzzle) (placement : Placement) : Puzzle :=
  { puzzle with placements := puzzle.placements ++ [placement] }

variable {puzzle : Puzzle} {grid : Grid} {selection used : Selection} {rule : Rule}
  {placements : List Placement} {placement : Placement} {groups : List Group}

theorem addPlacement_eq_ok {registry : Option Catalog} {extended : Puzzle}
    (h : puzzle.addPlacement registry placement = .ok extended) :
    extended = puzzle.withPlacement placement := by
  obtain ⟨⟨⟩, _, h⟩ := bind_eq_ok.1 h
  exact (Puzzle.insertPlacement_eq_ok h).2

/-! ## Rules that read the placements -/

namespace RegionSum

theorem placedLines_append (h : placement.rule ≠ lineRule) :
    placedLines (placements ++ [placement]) = placedLines placements := by
  have hrule : (placement.rule == lineRule) = false := beq_eq_false_iff_ne.2 h
  simp [placedLines, List.filter_append, hrule]

theorem sharedDraft_append (h : placement.rule ≠ lineRule) :
    sharedDraft groups (placements ++ [placement]) grid = sharedDraft groups placements grid := by
  unfold sharedDraft
  rw [placedLines_append h]

end RegionSum

namespace Rule

/-- The placements of a puzzle matter for a rule as far as they do for its drafter. -/
theorem body_congr (hrule : rule ∈ rules) {others : List Placement} (position : Option Nat)
    (h : rule.isSkipped grid = false → ∀ drafter, (rule.id, drafter) ∈ libraryDrafters →
      drafter groups placements grid = drafter groups others grid) :
    rule.body placements grid groups position = rule.body others grid groups position := by
  unfold body
  cases hskipped : rule.isSkipped grid with
  | true => rfl
  | false =>
    simp only [Bool.false_eq_true, if_false]
    unfold generated
    cases hgenerator : rule.generator with
    | none => rfl
    | some generator =>
      obtain ⟨drafter, hdrafter, rfl⟩ := exists_drafter hrule hgenerator
      simp only [Drafter.toGenerator, h hskipped drafter hdrafter]

/-- Only the rule on the shared total reads the placements of a puzzle. -/
theorem body_placements (hrule : rule ∈ rules) (hid : rule.id ≠ globalRegionSumLines.id)
    (position : Option Nat) :
    rule.body placements grid groups position = rule.body [] grid groups position :=
  body_congr hrule position fun _ _ hdrafter ↦ drafter_placements hdrafter hid _ _ _

/-- One more placement changes nothing of what is written of a rule, unless the rule is that on the
shared total and the placement is a region sum line. -/
theorem body_append (hrule : rule ∈ rules) (position : Option Nat)
    (h : rule.id = globalRegionSumLines.id → rule.isSkipped grid = false →
      placement.rule ≠ regionSumLine.id) :
    rule.body (placements ++ [placement]) grid groups position =
      rule.body placements grid groups position := by
  by_cases hid : rule.id = globalRegionSumLines.id
  · refine body_congr hrule position fun hskipped drafter hdrafter ↦ ?_
    have hshared : (rule.id, RegionSum.sharedDraft) ∈ libraryDrafters := by
      rw [hid]
      exact List.mem_cons_self
    obtain rfl := drafter_unique hdrafter hshared
    exact RegionSum.sharedDraft_append (h hid hskipped)
  · rw [body_placements hrule hid, ← body_placements hrule hid]

end Rule

/-- The rule on the shared total is no placed rule and needs regions. -/
theorem id_ne_globalRegionSumLines : ∀ rule ∈ rules,
    rule.scope = .placed ∨ rule.requiresRegions = false → rule.id ≠ globalRegionSumLines.id := by
  decide

/-! ## The sections of a placement -/

/-- The section of the fragment that a rule needs behind placements: there is one if the rule has a
fragment, is not skipped and is not placed yet. -/
def Rule.sharedSections (rule : Rule) (placements : List Placement) (grid : Grid) : List String :=
  if rule.isSkipped grid || placements.any (·.rule == rule.id) then []
  else rule.fragment.toList.map fun fragment ↦ (sharedBlock rule fragment).text

theorem sharedSections_eq (rule : Rule) (placements more : List Placement) (grid : Grid) :
    rule.sharedSections placements grid =
      ((rule.sharedFragment (placements ++ more) grid (placements.length + 1)).toList.map
        rule.fragmentBlock).map fun block ↦ block.emission.text := by
  have hfirst : rule.isFirstAt (placements ++ more) (placements.length + 1) =
      !placements.any (·.rule == rule.id) := by
    rw [Rule.isFirstAt, Nat.add_sub_cancel, List.take_left, List.not_any_eq_all_not]
    rfl
  unfold Rule.sharedSections Rule.sharedFragment
  rw [hfirst, List.map_map]
  cases placements.any (·.rule == rule.id) <;> cases rule.isSkipped grid <;> rfl

/-! ## Blocks -/

/-- Whether the shared total has to be written anew for a placement. -/
def Puzzle.RewritesTotal (puzzle : Puzzle) (placement : Placement) : Prop :=
  .text globalRegionSumLines.id ∈ puzzle.selected ∧
    (∃ grid, puzzle.grid = some grid ∧ grid.regions.isSome = true) ∧
      placement.rule = regionSumLine.id

section Accepted

variable (h : Selection.Accepted .standard puzzle grid selection)
  (hused : Selection.Accepted .standard (puzzle.withPlacement placement) grid used)

include h hused

theorem wholeBlocks_withPlacement (hlines : ¬puzzle.RewritesTotal placement) :
    (puzzle.withPlacement placement).wholeBlocks grid used =
      puzzle.wholeBlocks grid selection := by
  have hrules : (puzzle.withPlacement placement).selected.filterMap used.find? =
      puzzle.selected.filterMap selection.find? :=
    hused.filterMap_selected.trans h.filterMap_selected.symm
  unfold Puzzle.wholeBlocks
  rw [hrules]
  refine mapM_congr fun rule hrule ↦ ?_
  obtain ⟨hmem, _, hid⟩ := h.mem_of_found hrule
  have hknown := h.known rule hmem
  unfold Rule.wholeBlock
  rw [Puzzle.withPlacement, Rule.body_append hknown none]
  intro htotal hskipped hline
  have hrequires : rule.requiresRegions = true := by
    by_contra hnot
    exact id_ne_globalRegionSumLines rule hknown (.inr (by simpa using hnot)) htotal
  have hregions : grid.regions.isSome = true := by
    simpa [Rule.isSkipped, hrequires, Option.isSome_iff_ne_none] using hskipped
  exact hlines ⟨htotal ▸ hid, ⟨grid, h.grid_eq, hregions⟩, hline⟩

theorem blocksAt_withPlacement {placed : Placement × Nat}
    (hplaced : placed ∈ puzzle.placements.zipIdx 1) :
    (puzzle.withPlacement placement).blocksAt grid used placed =
      puzzle.blocksAt grid selection placed := by
  have hplacement : placed.1 ∈ puzzle.placements := List.fst_mem_of_mem_zipIdx hplaced
  have hposition : placed.2 < 1 + puzzle.placements.length := (List.mem_zipIdx hplaced).2.1
  obtain ⟨rule, hfind, hrule, _⟩ := h.exists_find?_placed hplacement
  have hknown := h.known rule hrule
  have hid := id_ne_globalRegionSumLines rule hknown (.inl (h.find?_placed hplacement hfind))
  have hfound : used.find? (.text placed.1.rule) = some rule := by
    rw [hused.find?_placed_eq (List.mem_append_left _ hplacement), ← h.find?_placed_eq hplacement,
      hfind]
  have hshared : rule.sharedFragment (puzzle.placements ++ [placement]) grid placed.2 =
      rule.sharedFragment puzzle.placements grid placed.2 := by
    unfold Rule.sharedFragment Rule.isFirstAt
    rw [List.take_append_of_le_length (by omega)]
  unfold Puzzle.blocksAt
  simp only [hfind, hfound]
  have hbody : rule.body (puzzle.placements ++ [placement]) grid placed.1.groups placed.2 =
      rule.body puzzle.placements grid placed.1.groups placed.2 := by
    rw [Rule.body_placements hknown hid, ← Rule.body_placements hknown hid]
  unfold Rule.placedBlocks
  rw [Puzzle.withPlacement, hshared, hbody]

/-- The blocks of the longer puzzle are those of the shorter one and behind them the blocks of the
added placement. -/
theorem blocks_withPlacement (hlines : ¬puzzle.RewritesTotal placement)
    {blocks more : List RuleBlock} (hblocks : puzzle.blocks grid selection = .ok blocks)
    (hmore : (puzzle.withPlacement placement).blocks grid used = .ok more) :
    ∃ rule ∈ rules, rule.id = placement.rule ∧ ∃ block : RuleBlock,
      block.marker = .placed rule.id (puzzle.placements.length + 1) ∧
      placementBlock [] grid rule (puzzle.placements.length + 1) placement = .ok block.emission ∧
      more = blocks ++ (rule.sharedFragment (puzzle.placements ++ [placement]) grid
        (puzzle.placements.length + 1)).toList.map rule.fragmentBlock ++ [block] := by
  obtain ⟨whole, hwhole, hblocks⟩ := bind_eq_ok.1 hblocks
  obtain ⟨placed, hplaced, hblocks⟩ := bind_eq_ok.1 hblocks
  obtain rfl := Except.ok.inj hblocks
  obtain ⟨whole', hwhole', hmore⟩ := bind_eq_ok.1 hmore
  obtain ⟨placed', hplaced', hmore⟩ := bind_eq_ok.1 hmore
  obtain rfl := Except.ok.inj hmore
  rw [wholeBlocks_withPlacement h hused hlines, hwhole] at hwhole'
  obtain rfl := Except.ok.inj hwhole'
  have hzip : (puzzle.withPlacement placement).placements.zipIdx 1 =
      puzzle.placements.zipIdx 1 ++ [(placement, puzzle.placements.length + 1)] := by
    rw [Puzzle.withPlacement, List.zipIdx_append, List.zipIdx_singleton, Nat.add_comm]
  rw [hzip] at hplaced'
  obtain ⟨front, own, hfront, hown, rfl⟩ := mapM_concat_eq_ok hplaced'
  rw [mapM_congr fun x hx ↦ blocksAt_withPlacement h hused hx, hplaced] at hfront
  obtain rfl := Except.ok.inj hfront
  have hlast : placement ∈ (puzzle.withPlacement placement).placements := by
    simp [Puzzle.withPlacement]
  obtain ⟨rule, hrule, hfind, hid, remarks, body, hremarks, hbody, rfl⟩ :=
    exists_placedBlocks hused hlast hown
  have hknown := hused.known rule hrule
  have hne := id_ne_globalRegionSumLines rule hknown (.inl (hused.find?_placed hlast hfind))
  rw [Rule.body_placements hknown hne] at hbody
  refine ⟨rule, hknown, hid.symm, ⟨.placed rule.id (puzzle.placements.length + 1), remarks, body⟩,
    rfl, ?_, ?_⟩
  · rw [placementBlock_eq, hremarks, ok_bind, hbody]
    rfl
  · simp [Puzzle.withPlacement]

end Accepted

/-! ## Documents -/

/-- When a placement is added, the demand for a solution at the end of the document is replaced by
the sections of the placement and the demand: the section of the rule's fragment if the rule has
one, is not skipped and was not placed before, and the section of the placement, which does not
depend on the rest of the puzzle. This is so unless the placement is a region sum line and the
shared total of such lines is demanded. -/
theorem compile_withPlacement {registry : Option Catalog} {extended : Puzzle}
    {document longer : Emission} (hadd : puzzle.addPlacement registry placement = .ok extended)
    (h : compile .standard puzzle = .ok document)
    (hlonger : compile .standard extended = .ok longer)
    (hlines : ¬puzzle.RewritesTotal placement) :
    ∃ grid front rule own, puzzle.grid = some grid ∧ rule ∈ rules ∧ rule.id = placement.rule ∧
      placementBlock [] grid rule (puzzle.placements.length + 1) placement = .ok own ∧
      (lines own.text).head? = some (Marker.placed rule.id (puzzle.placements.length + 1)).line ∧
      document.text = front ++ solveItem ++ "\n" ∧
      longer.text = front ++
        join "\n\n" (rule.sharedSections puzzle.placements grid ++ [own.text, solveItem]) ++
          "\n" := by
  obtain rfl := addPlacement_eq_ok hadd
  obtain ⟨grid, selection, clues, blocks, haccepted, hclues, hblocks, htext, _⟩ := compile_eq_ok h
  obtain ⟨grid', used, clues', more, haccepted', hclues', hmore, htext', _⟩ :=
    compile_eq_ok hlonger
  have hvalid := Selection.ofPuzzle_eq_ok haccepted
  have hvalid' := Selection.ofPuzzle_eq_ok haccepted'
  obtain rfl : grid = grid' := Option.some.inj (hvalid.grid_eq.symm.trans hvalid'.grid_eq)
  obtain rfl : clues = clues' := Except.ok.inj (hclues.symm.trans hclues')
  obtain ⟨rule, hrule, hid, block, hmarker, hown, hblocks'⟩ :=
    blocks_withPlacement hvalid hvalid' hlines hblocks hmore
  have hhead := ((blocks_eq_ok hvalid' hmore).2 block (by simp [hblocks'])).head?_lines hvalid'
  let before := puzzle.opening grid clues ++ blocks.map fun block ↦ block.emission.text
  have hbefore : before ≠ [] := by simp [before, Puzzle.opening]
  refine ⟨grid, join "\n\n" before ++ "\n\n", rule, block.emission, hvalid.grid_eq, hrule, hid,
    hown, by rw [hhead, hmarker], ?_, ?_⟩
  · have htexts : puzzle.texts grid clues blocks = before ++ [solveItem] := rfl
    rw [htext, htexts, join_append hbefore (List.cons_ne_nil _ _), join_singleton]
  · have htexts : (puzzle.withPlacement placement).texts grid clues more = before ++
        (rule.sharedSections puzzle.placements grid ++ [block.emission.text, solveItem]) := by
      rw [sharedSections_eq rule puzzle.placements [placement] grid, Puzzle.texts, hblocks']
      simp [before, Puzzle.opening, Puzzle.withPlacement]
    rw [htext', htexts, join_append hbefore (by simp)]

def Placement.dot : Placement := ⟨whiteDot.id, [⟨[⟨0, 0⟩, ⟨0, 1⟩], .absent⟩]⟩

theorem Selection.ofPuzzle_dottedCage :
    ofPuzzle .standard ((Puzzle.cageRow .absent).withPlacement .dot) =
      .ok (.twoCells, [killerCage, whiteDot]) := by
  have hknown : [killerCage, whiteDot] ⊆ rules := by simp [rules]
  have hdigits : ∀ rule ∈ [killerCage, whiteDot], rule.missingKinds [digitKind] = [] := by decide
  have hrules : [killerCage, whiteDot].forM (checkRule .standard [.fourDigits]) = .ok () :=
    forM_eq_ok.2 fun rule hrule ↦ checkRule_fourDigits (hknown hrule) (hdigits rule hrule)
  have hplaced : resolvePlacements .standard .twoCells []
      ((Puzzle.cageRow .absent).withPlacement .dot).placements = .ok [killerCage, whiteDot] := rfl
  exact ofPuzzle_of_checks rfl rfl rfl rfl hplaced hrules

/-- A dot added to a cage on the same cells brings its fragment with it. -/
theorem compile_dottedCage : ∃ document longer fragment front own,
    compile .standard (.cageRow .absent) = .ok document ∧
      compile .standard ((Puzzle.cageRow .absent).withPlacement .dot) = .ok longer ∧
      whiteDot.fragment = some fragment ∧ document.text = front ++ solveItem ++ "\n" ∧
      longer.text = front ++
        join "\n\n" [(sharedBlock whiteDot fragment).text, own, solveItem] ++ "\n" := by
  have hfaulty : ∀ placement ∈ ((Puzzle.cageRow .absent).withPlacement .dot).placements,
      ¬placement.IsFaulty := by
    have hids : killerCage.id ≠ arrow.id ∧ whiteDot.id ≠ killerCage.id ∧
        whiteDot.id ≠ arrow.id := by
      decide
    simp [Puzzle.withPlacement, Puzzle.cageRow, Placement.dot, Placement.IsFaulty, Cage.IsMisread,
      GroupValue.IsMisread, hids]
  obtain ⟨longer, hlonger⟩ := exists_compile_twoCells Selection.ofPuzzle_dottedCage rfl
    (by simp [Puzzle.withPlacement, Puzzle.cageRow, Placement.dot, GroupValue.toValue,
      Value.isWritable]) hfaulty
  obtain ⟨document, h⟩ := @exists_compile_cageRow .absent
    (by simp [GroupValue.toValue, Value.isWritable]) id
  have hadd : (Puzzle.cageRow .absent).addPlacement none .dot =
      .ok ((Puzzle.cageRow .absent).withPlacement .dot) := rfl
  have hlines : ¬(Puzzle.cageRow .absent).RewritesTotal .dot := by
    rintro ⟨hselected, _⟩
    exact absurd hselected List.not_mem_nil
  obtain ⟨grid, front, rule, own, hgrid, hrule, hid, _, _, htext, htext'⟩ :=
    compile_withPlacement hadd h hlonger hlines
  obtain rfl : .twoCells = grid := Option.some.inj hgrid
  have hdot : whiteDot ∈ rules := by simp [rules]
  obtain rfl : rule = whiteDot :=
    List.inj_on_of_nodup_map Catalog.standard.distinct hrule hdot hid
  exact ⟨document, longer, _, front, own.text, h, hlonger, rfl, htext, htext'⟩

end GridPuzzle
