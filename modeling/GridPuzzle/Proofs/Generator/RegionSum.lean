import GridPuzzle.Proofs.Constraint.Meaning
import GridPuzzle.Proofs.Generator.Answer

/-!
# What region sum lines say

The segments of a line are its cells by region, each cell as often as the line passes it. The text
of region sum lines says that the digits of a line have the same sum in any two regions which the
line meets. It does not depend on the order of the cells of a line.
-/

namespace GridPuzzle.RegionSum

open Fallible

variable {grid : Grid} {value : Assignment} {total : Int} {line : List Cell}
  {groups : List Group} {placements : List Placement}

/-! ## Regions of a line -/

/-- A sequence of cells has a cell in a region. -/
def Meets (grid : Grid) (cells : List Cell) (region : Int) : Prop :=
  ∃ cell ∈ cells, grid.regionOf? cell = some region

/-- The cells of a sequence that lie in a region, in order and as often as they are passed. -/
def within (grid : Grid) (cells : List Cell) (region : Int) : List Cell :=
  cells.filter (grid.regionOf? · == some region)

/-- The sum of the digits of a sequence of cells that lie in a region. -/
def regionSum (grid : Grid) (value : Assignment) (cells : List Cell) (region : Int) : Int :=
  ((within grid cells region).map value).sum

/-- The digits have one sum in all regions that a sequence of cells meets. -/
def HasEqualSums (grid : Grid) (value : Assignment) (cells : List Cell) : Prop :=
  ∀ region other, Meets grid cells region → Meets grid cells other →
    regionSum grid value cells region = regionSum grid value cells other

theorem within_ne_nil {region : Int} (h : Meets grid line region) :
    within grid line region ≠ [] := by
  obtain ⟨cell, hcell, hregion⟩ := h
  exact List.ne_nil_of_mem (List.mem_filter.2 ⟨hcell, by simp [hregion]⟩)

theorem meets_of_perm {cells more : List Cell} (h : cells.Perm more) {region : Int} :
    Meets grid cells region ↔ Meets grid more region := by
  simp only [Meets, h.mem_iff]

theorem regionSum_of_perm {cells more : List Cell} (h : cells.Perm more) (region : Int) :
    regionSum grid value cells region = regionSum grid value more region :=
  ((h.filter _).map value).sum_eq

theorem hasEqualSums_of_perm {cells more : List Cell} (h : cells.Perm more) :
    HasEqualSums grid value cells ↔ HasEqualSums grid value more := by
  simp only [HasEqualSums, meets_of_perm h, regionSum_of_perm h]

/-! ## Segments -/

/-- A line whose cells are labelled with their regions. -/
theorem labelled_eq_ok {pairs : List (Int × Cell)} (h : labelled grid line = .ok pairs) :
    pairs.map Prod.snd = line ∧ ∀ pair ∈ pairs, grid.regionOf? pair.2 = some pair.1 := by
  have hpair : List.Forall₂ (fun cell pair ↦ grid.regionOf? cell = some pair.1 ∧ cell = pair.2)
      line pairs := by
    refine (mapM_eq_ok.1 h).imp fun cell pair hpair ↦ ?_
    split at hpair
    next region hregion =>
      obtain rfl := Except.ok.inj hpair
      exact ⟨hregion, rfl⟩
    next => cases hpair
  clear h
  induction hpair with
  | nil => simp
  | cons hfirst _ ih =>
    obtain ⟨hregion, rfl⟩ := hfirst
    exact ⟨by rw [List.map_cons, ih.1], List.forall_mem_cons.2 ⟨hregion, ih.2⟩⟩

/-- The segments of a line are its cells by region, for all regions that it meets. -/
theorem segments_eq {found : List (List Cell)} (h : segments grid line = .ok found) :
    ∃ regions : List Int, regions.Nodup ∧ (∀ region, region ∈ regions ↔ Meets grid line region) ∧
      found = regions.map (within grid line) := by
  obtain ⟨pairs, hpairs, h⟩ := bind_eq_ok.1 h
  obtain rfl := Except.ok.inj h
  obtain ⟨rfl, hregion⟩ := labelled_eq_ok hpairs
  refine ⟨sortedDistinct (pairs.map Prod.fst), nodup_sortedDistinct _, fun region ↦ ?_, ?_⟩
  · rw [mem_sortedDistinct, List.mem_map]
    constructor
    · rintro ⟨pair, hpair, rfl⟩
      exact ⟨pair.2, List.mem_map_of_mem hpair, hregion pair hpair⟩
    · rintro ⟨cell, hcell, hmeets⟩
      obtain ⟨pair, hpair, rfl⟩ := List.mem_map.1 hcell
      exact ⟨pair, hpair, Option.some.inj ((hregion pair hpair).symm.trans hmeets)⟩
  · refine List.map_congr_left fun region _ ↦ ?_
    rw [cellsOf, within, List.filter_map]
    congr 1
    refine List.filter_congr fun pair hpair ↦ ?_
    simp [hregion pair hpair]

theorem mem_segments {found : List (List Cell)} (h : segments grid line = .ok found)
    {segment : List Cell} :
    segment ∈ found ↔ ∃ region, Meets grid line region ∧ within grid line region = segment := by
  obtain ⟨regions, _, hregions, rfl⟩ := segments_eq h
  simp only [List.mem_map, hregions]

/-- A line has at most one segment if all its cells lie in the same region. -/
theorem length_segments_le {found : List (List Cell)} (h : segments grid line = .ok found)
    (hsame : ∀ a ∈ line, ∀ b ∈ line, grid.regionOf? a = grid.regionOf? b) : found.length ≤ 1 := by
  obtain ⟨regions, hnodup, hregions, rfl⟩ := segments_eq h
  have hequal : ∀ region ∈ regions, ∀ other ∈ regions, region = other := by
    intro region hregion other hother
    obtain ⟨a, ha, hmeets⟩ := (hregions region).1 hregion
    obtain ⟨b, hb, hmeets'⟩ := (hregions other).1 hother
    exact Option.some.inj (hmeets.symm.trans ((hsame a ha b hb).trans hmeets'))
  match regions with
  | [] => simp
  | [_] => simp
  | first :: second :: rest =>
    have hfirst : first = second := hequal first (by simp) second (by simp)
    simp [hfirst] at hnodup

/-! ## Lines -/

/-- The demands of segments: the sum of the first equals that of every other. -/
def demands : List (List Cell) → List Item
  | [] => []
  | first :: rest => rest.map fun other ↦ .equal (.segmentSum first) (.segmentSum other)

def segmentSum (value : Assignment) (segment : List Cell) : Int := (segment.map value).sum

/-- All values are equal just if each of them is equal to the first. -/
theorem forall_eq_first {α : Type} {f : α → Int} {first : α} {rest : List α} :
    (∀ other ∈ rest, f first = f other) ↔
      ∀ a ∈ first :: rest, ∀ b ∈ first :: rest, f a = f b := by
  constructor
  · intro h
    have hfirst : ∀ a ∈ first :: rest, f first = f a := List.forall_mem_cons.2 ⟨rfl, h⟩
    exact fun a ha b hb ↦ (hfirst a ha).symm.trans (hfirst b hb)
  · exact fun h other hother ↦ h first List.mem_cons_self other (List.mem_cons_of_mem first hother)

theorem hold_demands {found : List (List Cell)} : Items.Hold value total (demands found) ↔
    ∀ a ∈ found, ∀ b ∈ found, segmentSum value a = segmentSum value b := by
  cases found with
  | nil => simp [demands, Items.Hold]
  | cons first rest =>
    rw [← forall_eq_first, demands, Items.Hold, List.forall_mem_map]
    rfl

/-- The sentences of a line of which the regions are known. -/
def lineSentences (grid : Grid) (line : List Cell) : List Sentence :=
  match segments grid line with
  | .ok found => (demands found).filterMap Item.sentence?
  | .error _ => []

theorem hold_lineSentences {found : List (List Cell)} (h : segments grid line = .ok found) :
    (∀ sentence ∈ lineSentences grid line, sentence.Holds (.ofDigits value total)) ↔
      HasEqualSums grid value line := by
  rw [lineSentences, h]
  dsimp only
  rw [← Items.hold_iff, hold_demands]
  simp only [mem_segments h]
  constructor
  · intro hall region other hregion hother
    exact hall _ ⟨region, hregion, rfl⟩ _ ⟨other, hother, rfl⟩
  · rintro hall _ ⟨region, hregion, rfl⟩ _ ⟨other, hother, rfl⟩
    exact hall region other hregion hother

/-- A line in one region says nothing. -/
theorem lineSentences_eq_nil {found : List (List Cell)} (h : segments grid line = .ok found)
    (hsame : ∀ a ∈ line, ∀ b ∈ line, grid.regionOf? a = grid.regionOf? b) :
    lineSentences grid line = [] := by
  have hlength := length_segments_le h hsame
  rw [lineSentences, h]
  match found with
  | [] => rfl
  | [_] => rfl
  | _ :: _ :: _ => simp at hlength

/-- The items of a line are readable, and read as its sentences whatever its number is. -/
theorem sentences_lineItems {index : Nat} {line : Group} {items : List Item}
    (h : lineItems grid index line = .ok items) : (∀ item ∈ items, item.IsReadable) ∧
      items.filterMap Item.sentence? = lineSentences grid line.cells := by
  obtain ⟨found, hfound, h⟩ := bind_eq_ok.1 h
  have hne : ∀ segment ∈ found, segment ≠ [] := by
    intro segment hsegment
    obtain ⟨region, hmeets, rfl⟩ := (mem_segments hfound).1 hsegment
    exact within_ne_nil hmeets
  rw [lineSentences, hfound]
  split at h
  next first second rest =>
    obtain rfl := Except.ok.inj h
    refine ⟨List.forall_mem_cons.2 ⟨trivial, fun item hitem ↦ ?_⟩, rfl⟩
    obtain ⟨other, hother, rfl⟩ := List.mem_map.1 hitem
    exact ⟨hne first List.mem_cons_self, hne other (List.mem_cons_of_mem first hother)⟩
  next hshort =>
    obtain rfl := Except.ok.inj h
    refine ⟨by simp, ?_⟩
    match found with
    | [] => rfl
    | [_] => rfl
    | first :: second :: rest => exact absurd rfl (hshort first second rest)

/-! ## The rule for lines -/

/-- The text of region sum lines is written unless the place of a cell is too long. -/
theorem toGenerator_lineDraft (hregions : grid.regions.isSome = true) {draft : Draft}
    (h : lineDraft groups placements grid = .ok draft) :
    Drafter.toGenerator lineDraft groups placements grid = .ok ⟨Items.text draft.items, []⟩ ∨
      Drafter.toGenerator lineDraft groups placements grid = .error .unwritable ∧
        ∃ cell ∈ groups.flatMap Group.cells, isWritablePlace cell.row cell.col = false := by
  obtain ⟨hshort, hwarnings⟩ := isShort_lineDraft hregions h
  rw [Drafter.toGenerator, h, ← hwarnings]
  exact Draft.emission_cases (fun item hitem ↦ (isDemand_lineDraft h item hitem).reads) hshort

/-- The text of region sum lines is read as the sentences of its lines. -/
theorem sentences?_lineDraft (hregions : grid.regions.isSome = true) {draft : Draft}
    (h : lineDraft groups placements grid = .ok draft) : sentences? (Items.text draft.items) =
      some (groups.flatMap fun line ↦ lineSentences grid line.cells) := by
  obtain ⟨found, hfound, rfl⟩ := lineDraft_eq_ok hregions h
  have hreadable : ∀ item ∈ found.flatten, item.IsReadable := by
    intro item hitem
    obtain ⟨line, _, items, hline, hitem⟩ := exists_mem_of_mem_flatten hfound hitem
    exact (sentences_lineItems hline).1 item hitem
  have hsentences : found.flatMap (fun items ↦ items.filterMap Item.sentence?) =
      (groups.zipIdx 1).flatMap fun line ↦ lineSentences grid line.1.cells :=
    flatMap_of_mapM_eq_ok hfound fun line _ items hline ↦ (sentences_lineItems hline).2
  rw [sentences?_text hreadable, List.filterMap_flatten, ← List.flatMap_def, hsentences,
    ← List.flatMap_map Prod.fst (fun line : Group ↦ lineSentences grid line.cells),
    List.zipIdx_map_fst]

/-- What the text of region sum lines says. -/
theorem says_lineDraft (hregions : grid.regions.isSome = true)
    (hcells : ∀ group ∈ groups, ∀ cell ∈ group.cells, grid.contains cell = true) {draft : Draft}
    (h : lineDraft groups placements grid = .ok draft) :
    Says (.ofDigits value total) (Items.text draft.items) ↔
      ∀ group ∈ groups, HasEqualSums grid value group.cells := by
  rw [says_of_sentences? (sentences?_lineDraft hregions h), List.forall_mem_flatMap]
  refine forall₂_congr fun group hgroup ↦ ?_
  obtain ⟨found, hfound⟩ := exists_segments (by simpa using hregions) (hcells group hgroup)
  exact hold_lineSentences hfound

/-- What holds of all members of a list holds of all members of a list related to it. -/
theorem forall_mem_congr {α β : Type} {r : α → β → Prop} {p : α → Prop} {q : β → Prop}
    {l : List α} {m : List β} (h : List.Forall₂ r l m) (hr : ∀ a b, r a b → (p a ↔ q b)) :
    (∀ a ∈ l, p a) ↔ ∀ b ∈ m, q b := by
  induction h with
  | nil => simp
  | cons hab _ ih => rw [List.forall_mem_cons, List.forall_mem_cons, hr _ _ hab, ih]

/-- The text of region sum lines says of every line that its digits have equal sums in any two
regions that the line meets. The order of the cells within a line does not matter, and a line within
a single region adds no sentence. -/
theorem lineDraft_equalSums (hregions : grid.regions.isSome = true)
    (hcells : ∀ group ∈ groups, ∀ cell ∈ group.cells, grid.contains cell = true)
    (placements : List Placement) : ∃ draft, lineDraft groups placements grid = .ok draft ∧
      (Drafter.toGenerator lineDraft groups placements grid = .ok ⟨Items.text draft.items, []⟩ ∨
        Drafter.toGenerator lineDraft groups placements grid = .error .unwritable ∧
          ∃ cell ∈ groups.flatMap Group.cells, isWritablePlace cell.row cell.col = false) ∧
      (∀ value total, Says (.ofDigits value total) (Items.text draft.items) ↔
        ∀ group ∈ groups, HasEqualSums grid value group.cells) ∧
      (∀ others, List.Forall₂ (fun group other ↦ group.cells.Perm other.cells) groups others →
        ∃ other, lineDraft others placements grid = .ok other ∧ ∀ value total,
          Says (.ofDigits value total) (Items.text other.items) ↔
            Says (.ofDigits value total) (Items.text draft.items)) ∧
      ∀ before line after, groups = before ++ line :: after →
        (∀ a ∈ line.cells, ∀ b ∈ line.cells, grid.regionOf? a = grid.regionOf? b) →
          ∃ other, lineDraft (before ++ after) placements grid = .ok other ∧
            sentences? (Items.text other.items) = sentences? (Items.text draft.items) := by
  obtain ⟨draft, hdraft⟩ := exists_lineDraft hregions hcells placements
  refine ⟨draft, hdraft, toGenerator_lineDraft hregions hdraft,
    fun value total ↦ says_lineDraft hregions hcells hdraft, ?_, ?_⟩
  · intro others hperm
    have hothers : ∀ other ∈ others, ∀ cell ∈ other.cells, grid.contains cell = true :=
      (forall_mem_congr hperm fun _ _ h ↦ by simp only [h.mem_iff]).1 hcells
    obtain ⟨other, hother⟩ := exists_lineDraft hregions hothers placements
    refine ⟨other, hother, fun value total ↦ ?_⟩
    rw [says_lineDraft hregions hothers hother, says_lineDraft hregions hcells hdraft]
    exact (forall_mem_congr hperm fun _ _ h ↦ hasEqualSums_of_perm h).symm
  · rintro before line after rfl hsame
    have hrest : ∀ group ∈ before ++ after, ∀ cell ∈ group.cells, grid.contains cell = true :=
      fun group hgroup ↦ hcells group (by
        obtain h | h := List.mem_append.1 hgroup <;> simp [h])
    obtain ⟨other, hother⟩ := exists_lineDraft hregions hrest placements
    obtain ⟨found, hfound⟩ := exists_segments (by simpa using hregions) (hcells line (by simp))
    refine ⟨other, hother, ?_⟩
    rw [sentences?_lineDraft hregions hother, sentences?_lineDraft hregions hdraft,
      List.flatMap_append, List.flatMap_append, List.flatMap_cons,
      lineSentences_eq_nil hfound hsame, List.nil_append]

/-- Two rows of two cells, of which each is a region. -/
def twoRows : Grid where
  rows := 2
  cols := 2
  regions := some ⟨[[0, 0], [1, 1]], by decide, isDense_of_mem (n := 2) (by simp; omega)⟩
  rows_pos := Nat.two_pos
  cols_pos := Nat.two_pos

/-- A line that leaves the first row and returns to it. -/
def returningLine : Group := ⟨[⟨0, 0⟩, ⟨1, 0⟩, ⟨0, 1⟩], .absent⟩

theorem meets_returningLine {region : Int} :
    Meets twoRows returningLine.cells region ↔ region = 0 ∨ region = 1 := by
  simp [Meets, returningLine, twoRows, Grid.regionOf?, eq_comm, or_comm]

theorem regionSum_returningLine (value : Assignment) :
    regionSum twoRows value returningLine.cells 0 = value ⟨0, 0⟩ + value ⟨0, 1⟩ ∧
      regionSum twoRows value returningLine.cells 1 = value ⟨1, 0⟩ := by
  simp [regionSum, within, returningLine, twoRows, Grid.regionOf?]

/-- The line says that its two digits in the first row sum to its digit in the second. -/
theorem says_returningLine : ∃ draft, lineDraft [returningLine] [] twoRows = .ok draft ∧
    ∀ value total, Says (.ofDigits value total) (Items.text draft.items) ↔
      value ⟨0, 0⟩ + value ⟨0, 1⟩ = value ⟨1, 0⟩ := by
  have hcells : ∀ group ∈ [returningLine], ∀ cell ∈ group.cells, twoRows.contains cell = true := by
    decide
  obtain ⟨draft, hdraft, _, hmeaning, _⟩ :=
    lineDraft_equalSums (rfl : twoRows.regions.isSome) hcells []
  refine ⟨draft, hdraft, fun value total ↦ ?_⟩
  obtain ⟨hfirst, hsecond⟩ := regionSum_returningLine value
  rw [hmeaning, List.forall_mem_singleton, ← hfirst, ← hsecond]
  constructor
  · intro h
    exact h 0 1 (meets_returningLine.2 (.inl rfl)) (meets_returningLine.2 (.inr rfl))
  · intro h region other hregion hother
    obtain rfl | rfl := meets_returningLine.1 hregion <;>
      obtain rfl | rfl := meets_returningLine.1 hother <;> simp [h]

end GridPuzzle.RegionSum
