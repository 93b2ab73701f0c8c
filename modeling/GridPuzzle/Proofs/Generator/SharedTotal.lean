import GridPuzzle.Proofs.Generator.RegionSum

/-!
# What the rule for all region sum lines says

The text of the rule for the whole grid names a total and says that all segments of all region sum
lines have it as their sum. For some value of the total this says just that the segments of all
lines have one sum. The text says no more and no less when placements and groups are rearranged, and
it says of every region sum line what the text of the line itself says.
-/

namespace GridPuzzle.RegionSum

open Fallible

variable {grid : Grid} {value : Assignment} {total : Int} {groups : List Group}
  {placements : List Placement}

/-! ## Groups of placements -/

def HasGroup (placements : List Placement) (rule : String) (group : Group) : Prop :=
  ∃ placement ∈ placements, placement.rule = rule ∧ group ∈ placement.groups

theorem hasGroup_append {l m : List Placement} {rule : String} {group : Group} :
    HasGroup (l ++ m) rule group ↔ HasGroup l rule group ∨ HasGroup m rule group := by
  simp [HasGroup, or_and_right, exists_or]

theorem hasGroup_cons {placement : Placement} {l : List Placement} {rule : String} {group : Group} :
    HasGroup (placement :: l) rule group ↔
      placement.rule = rule ∧ group ∈ placement.groups ∨ HasGroup l rule group := by
  simp [HasGroup]

theorem mem_cells_iff {cell : Cell} : cell ∈ placements.flatMap Placement.cells ↔
    ∃ rule group, HasGroup placements rule group ∧ cell ∈ group.cells := by
  simp only [List.mem_flatMap, Placement.cells, HasGroup]
  constructor
  · rintro ⟨placement, hplacement, group, hgroup, hcell⟩
    exact ⟨placement.rule, group, ⟨placement, hplacement, rfl, hgroup⟩, hcell⟩
  · rintro ⟨_, group, ⟨placement, hplacement, rfl, hgroup⟩, hcell⟩
    exact ⟨placement, hplacement, group, hgroup, hcell⟩

/-- The digits have one sum in all regions that any of the lines of a puzzle meets. -/
def HaveOneSum (grid : Grid) (value : Assignment) (placements : List Placement) : Prop :=
  ∀ line other, HasGroup placements lineRule line → HasGroup placements lineRule other →
    ∀ region region', Meets grid line.cells region → Meets grid other.cells region' →
      regionSum grid value line.cells region = regionSum grid value other.cells region'

/-- Placements in another order, the groups of a placement in another order, and a group that is
moved from one region sum line to another. -/
inductive Rearranged : List Placement → List Placement → Prop
  | placements {before after : List Placement} (h : before.Perm after) : Rearranged before after
  | groups {before after : List Placement} (rule : String) {groups others : List Group}
    (h : groups.Perm others) :
    Rearranged (before ++ ⟨rule, groups⟩ :: after) (before ++ ⟨rule, others⟩ :: after)
  | move {before between after : List Placement} (group : Group) (groups others : List Group) :
    Rearranged (before ++ ⟨lineRule, group :: groups⟩ :: (between ++ ⟨lineRule, others⟩ :: after))
      (before ++ ⟨lineRule, groups⟩ :: (between ++ ⟨lineRule, group :: others⟩ :: after))
  | trans {first second third : List Placement} (h : Rearranged first second)
    (h' : Rearranged second third) : Rearranged first third

theorem Rearranged.hasGroup {placements others : List Placement} (h : Rearranged placements others)
    (rule : String) (group : Group) :
    HasGroup placements rule group ↔ HasGroup others rule group := by
  induction h with
  | placements h => simp only [HasGroup, h.mem_iff]
  | groups rule h => simp only [hasGroup_append, hasGroup_cons, h.mem_iff]
  | move moved groups others =>
    simp only [hasGroup_append, hasGroup_cons, List.mem_cons]
    tauto
  | trans _ _ ih ih' => exact ih.trans ih'

theorem mem_placedLines {line : Group} :
    line ∈ placedLines placements ↔ HasGroup placements lineRule line ∧ line.cells ≠ [] := by
  simp only [placedLines, HasGroup, List.mem_flatMap, List.mem_filter, beq_iff_eq,
    Bool.not_eq_true', List.isEmpty_eq_false_iff]
  constructor
  · rintro ⟨placement, ⟨hmem, hrule⟩, hgroup, hne⟩
    exact ⟨⟨placement, hmem, hrule, hgroup⟩, hne⟩
  · rintro ⟨⟨placement, hmem, hrule, hgroup⟩, hne⟩
    exact ⟨placement, ⟨hmem, hrule⟩, hgroup, hne⟩

theorem hold_sharedItems {found : List (List Cell)} : Items.Hold value total (sharedItems found) ↔
    ∀ segment ∈ found, segmentSum value segment = total := by
  cases found with
  | nil => simp [sharedItems, Items.Hold]
  | cons first rest =>
    have hrest : Items.Hold value total
        (rest.map fun other ↦ .equal (.segmentSum other) .sharedTotal) ↔
          ∀ segment ∈ rest, segmentSum value segment = total := by
      rw [Items.Hold, List.forall_mem_map]
      rfl
    rw [sharedItems, Items.hold_append, hrest, List.forall_mem_cons]
    simp [Items.Hold, Item.Holds, Term.eval, segmentSum, eq_comm]

/-- The digits of all lines of a puzzle have a given sum in every region. -/
def HaveSum (grid : Grid) (value : Assignment) (placements : List Placement) (total : Int) :
    Prop :=
  ∀ line, HasGroup placements lineRule line → ∀ region, Meets grid line.cells region →
    regionSum grid value line.cells region = total

theorem haveSum_segments {found : List (List (List Cell))}
    (h : (placedLines placements).mapM (fun line ↦ segments grid line.cells) = .ok found) :
    (∀ segment ∈ found.flatten, segmentSum value segment = total) ↔
      HaveSum grid value placements total := by
  constructor
  · intro hall line hline region hmeets
    have hne : line.cells ≠ [] := by
      obtain ⟨cell, hcell, _⟩ := hmeets
      exact List.ne_nil_of_mem hcell
    obtain ⟨own, hown, hsegments⟩ := forall_of_mapM_eq_ok h line (mem_placedLines.2 ⟨hline, hne⟩)
    exact hall _ (List.mem_flatten.2
      ⟨own, hown, (mem_segments hsegments).2 ⟨region, hmeets, rfl⟩⟩)
  · intro hall segment hsegment
    obtain ⟨line, hline, own, hsegments, hsegment⟩ := exists_mem_of_mem_flatten h hsegment
    obtain ⟨region, hmeets, rfl⟩ := (mem_segments hsegments).1 hsegment
    exact hall line (mem_placedLines.1 hline).1 region hmeets

/-- What the text of the rule for the whole grid says. -/
theorem says_sharedDraft (hregions : grid.regions.isSome = true)
    (hcells : ∀ cell ∈ placements.flatMap Placement.cells, grid.contains cell = true)
    {draft : Draft} (h : sharedDraft groups placements grid = .ok draft) :
    Says (.ofDigits value total) (Items.text draft.items) ↔
      HaveSum grid value placements total := by
  obtain ⟨reason, hlines, hdraft⟩ | ⟨found, hfound, hdraft⟩ :=
    sharedDraft_cases hregions hcells groups
  · obtain rfl := Except.ok.inj (h.symm.trans hdraft)
    have hnone : HaveSum grid value placements total := by
      rintro line hline region ⟨cell, hcell, _⟩
      have hmem := mem_placedLines.2 ⟨hline, List.ne_nil_of_mem hcell⟩
      simp [hlines] at hmem
    rw [says_text (by simp [Draft.neutral, Item.IsReadable])]
    simpa [Draft.neutral, Items.Hold, Item.Holds] using hnone
  · obtain rfl := Except.ok.inj (h.symm.trans hdraft)
    have hne : ∀ segment ∈ found.flatten, segment ≠ [] := by
      intro segment hsegment
      obtain ⟨line, _, own, hsegments, hsegment⟩ := exists_mem_of_mem_flatten hfound hsegment
      obtain ⟨region, hmeets, rfl⟩ := (mem_segments hsegments).1 hsegment
      exact within_ne_nil hmeets
    have hreadable : ∀ item ∈ sharedItems found.flatten, item.IsReadable := by
      cases hflat : found.flatten with
      | nil => simp [sharedItems]
      | cons first rest =>
        rw [hflat] at hne
        obtain ⟨hfirst, hrest⟩ := List.forall_mem_cons.1 hne
        refine List.forall_mem_append.2 ⟨?_, List.forall_mem_map.2 fun other hother ↦ ?_⟩
        · simpa [Item.IsReadable, Term.IsReadable] using hfirst
        · exact ⟨hrest other hother, trivial⟩
    rw [says_text hreadable, hold_sharedItems, haveSum_segments hfound]

/-- A sum is shared by all lines just if all sums are the same. -/
theorem exists_haveSum : (∃ total, HaveSum grid value placements total) ↔
    HaveOneSum grid value placements := by
  constructor
  · rintro ⟨total, h⟩ line other hline hother region region' hmeets hmeets'
    rw [h line hline region hmeets, h other hother region' hmeets']
  · intro h
    by_cases hsome : ∃ line, HasGroup placements lineRule line ∧
        ∃ region, Meets grid line.cells region
    · obtain ⟨line, hline, region, hmeets⟩ := hsome
      exact ⟨regionSum grid value line.cells region, fun other hother region' hmeets' ↦
        h other line hother hline region' region hmeets' hmeets⟩
    · exact ⟨0, fun line hline region hmeets ↦ absurd ⟨line, hline, region, hmeets⟩ hsome⟩

/-- For some value of the shared total the text of the rule for the whole grid says just that all
segments of all region sum lines have one sum. It says the same when placements and groups are
rearranged, and it says of every region sum line what the text of that line says. -/
theorem sharedDraft_oneSum (hregions : grid.regions.isSome = true)
    (hcells : ∀ cell ∈ placements.flatMap Placement.cells, grid.contains cell = true)
    (groups : List Group) : ∃ draft, sharedDraft groups placements grid = .ok draft ∧
      (Drafter.toGenerator sharedDraft groups placements grid = .ok ⟨Items.text draft.items, []⟩ ∨
        Drafter.toGenerator sharedDraft groups placements grid = .error .unwritable ∧
          ∃ cell ∈ placements.flatMap Placement.cells,
            isWritablePlace cell.row cell.col = false) ∧
      (∀ value, (∃ total, Says (.ofDigits value total) (Items.text draft.items)) ↔
        HaveOneSum grid value placements) ∧
      (∀ others, Rearranged placements others →
        ∃ other, sharedDraft groups others grid = .ok other ∧ ∀ value total,
          Says (.ofDigits value total) (Items.text other.items) ↔
            Says (.ofDigits value total) (Items.text draft.items)) ∧
      ∀ placement ∈ placements, placement.rule = lineRule →
        ∃ own, lineDraft placement.groups placements grid = .ok own ∧ ∀ value total,
          Says (.ofDigits value total) (Items.text draft.items) →
            Says (.ofDigits value total) (Items.text own.items) := by
  obtain ⟨draft, hdraft, hshort, hwarnings⟩ := exists_sharedDraft hregions hcells groups
  refine ⟨draft, hdraft, ?_, fun value ↦ ?_, fun others hothers ↦ ?_,
    fun placement hplacement hrule ↦ ?_⟩
  · rw [Drafter.toGenerator, hdraft, ← hwarnings]
    exact Draft.emission_cases (fun item hitem ↦ ((sharedDraft_eq_ok hdraft).1 item hitem).reads)
      hshort
  · simp only [says_sharedDraft hregions hcells hdraft, exists_haveSum]
  · have hgroups := hothers.hasGroup
    have hrest : ∀ cell ∈ others.flatMap Placement.cells, grid.contains cell = true :=
      fun cell hcell ↦ hcells cell (by simpa only [mem_cells_iff, hgroups] using hcell)
    obtain ⟨other, hother, _⟩ := exists_sharedDraft hregions hrest groups
    refine ⟨other, hother, fun value total ↦ ?_⟩
    rw [says_sharedDraft hregions hrest hother, says_sharedDraft hregions hcells hdraft]
    simp only [HaveSum, hgroups]
  · have hown : ∀ group ∈ placement.groups, ∀ cell ∈ group.cells, grid.contains cell = true :=
      fun group hgroup cell hcell ↦ hcells cell
        (List.mem_flatMap.2 ⟨placement, hplacement, subset_cells hgroup hcell⟩)
    obtain ⟨own, hownDraft⟩ := exists_lineDraft hregions hown placements
    refine ⟨own, hownDraft, fun value total ↦ ?_⟩
    rw [says_sharedDraft hregions hcells hdraft, says_lineDraft hregions hown hownDraft]
    intro h group hgroup region region' hmeets hmeets'
    have hline : HasGroup placements lineRule group := ⟨placement, hplacement, hrule, hgroup⟩
    rw [h group hline region hmeets, h group hline region' hmeets']

def singleCell : Group := ⟨[⟨1, 1⟩], .absent⟩

/-- Two lines that two placements put into the two rows. -/
def twoLines : List Placement := [⟨lineRule, [returningLine]⟩, ⟨lineRule, [singleCell]⟩]

theorem haveSum_twoLines : HaveSum twoRows value twoLines total ↔
    (value ⟨0, 0⟩ + value ⟨0, 1⟩ = total ∧ value ⟨1, 0⟩ = total) ∧ value ⟨1, 1⟩ = total := by
  have hline (line : Group) :
      HasGroup twoLines lineRule line ↔ line = returningLine ∨ line = singleCell := by
    simp [HasGroup, twoLines]
  have hmeets (region : Int) : Meets twoRows singleCell.cells region ↔ region = 1 := by
    simp [Meets, singleCell, twoRows, Grid.regionOf?, eq_comm]
  have hsum : regionSum twoRows value singleCell.cells 1 = value ⟨1, 1⟩ := by
    simp [regionSum, within, singleCell, twoRows, Grid.regionOf?]
  obtain ⟨hfirst, hsecond⟩ := regionSum_returningLine value
  simp only [HaveSum, hline, or_imp, forall_and, forall_eq, meets_returningLine, hmeets, hfirst,
    hsecond, hsum]

/-- Both segments of the first line have the digit of the second as their sum. -/
theorem says_twoLines : ∃ draft, sharedDraft [] twoLines twoRows = .ok draft ∧ ∀ value,
    (∃ total, Says (.ofDigits value total) (Items.text draft.items)) ↔
      value ⟨0, 0⟩ + value ⟨0, 1⟩ = value ⟨1, 1⟩ ∧ value ⟨1, 0⟩ = value ⟨1, 1⟩ := by
  have hcells : ∀ cell ∈ twoLines.flatMap Placement.cells, twoRows.contains cell = true := by
    decide
  obtain ⟨draft, hdraft, _, hmeaning, _⟩ :=
    sharedDraft_oneSum (rfl : twoRows.regions.isSome) hcells []
  refine ⟨draft, hdraft, fun value ↦ ?_⟩
  rw [hmeaning, ← exists_haveSum]
  simp only [haveSum_twoLines]
  constructor
  · rintro ⟨total, ⟨hfirst, hsecond⟩, hthird⟩
    exact ⟨hfirst.trans hthird.symm, hsecond.trans hthird.symm⟩
  · exact fun h ↦ ⟨value ⟨1, 1⟩, h, rfl⟩

end GridPuzzle.RegionSum
