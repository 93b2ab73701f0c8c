import GridPuzzle.Proofs.Double
import GridPuzzle.Proofs.Generator.Draft
import GridPuzzle.Proofs.Grid.Region

/-!
# When the generators of the library answer

The generators of the library write text for all groups of cells of a grid, with two exceptions: a
cage whose value looks like an integer and is not a numeral, and an arrow whose pill has more cells
than a numeral may have digits. A cage whose value is given and is no integer raises a warning, and
nothing else does.
-/

namespace GridPuzzle

open Fallible

/-! ## Numbers of items -/

/-- The numbers of a term that do not stem from the places of cells can be written. -/
def Term.isShort : Term → Bool
  | numeral cells => cells.length ≤ Text.maxDigits
  | constant n => Text.isWritable n
  | _ => true

def Item.isShort : Item → Bool
  | equal left right => left.isShort && right.isShort
  | defineTotal term => term.isShort
  | _ => true

theorem areWritableCells_append (cells more : List Cell) :
    areWritableCells (cells ++ more) = (areWritableCells cells && areWritableCells more) :=
  List.all_append

theorem Term.isWritable_eq (term : Term) :
    term.isWritable = (areWritableCells term.cells && term.isShort) := by
  cases term <;> simp [isWritable, Term.cells, isShort, areWritableCells]

theorem Item.isWritable_eq (item : Item) :
    item.isWritable = (areWritableCells item.cells && item.isShort) := by
  cases item with
  | equal left right =>
    simp only [isWritable, Item.cells, isShort, areWritableCells_append, Term.isWritable_eq]
    ac_rfl
  | defineTotal term => exact term.isWritable_eq
  | _ => simp [isWritable, Item.cells, isShort, areWritableCells]

/-! ## Drafts -/

/-- The cells that a generator is given are cells of the grid, and their places and the values of
the groups can be written. -/
structure AreGiven (groups : List Group) (placements : List Placement) (grid : Grid) : Prop where
  cells : ∀ cell ∈ groups.flatMap Group.cells ++ placements.flatMap Placement.cells,
    grid.contains cell = true ∧ isWritablePlace cell.row cell.col = true
  values : ∀ group ∈ groups, group.value.toValue.isWritable = true

/-- A drafter fails on some groups only, and its items hold no number that is too long. -/
structure Drafter.Answers (drafter : Drafter) (fails : List Group → Prop)
    (warnings : List Group → List Warning) : Prop where
  error : ∀ groups placements grid, fails groups →
    ∃ fault, drafter groups placements grid = .error fault
  ok : ∀ groups placements grid, AreGiven groups placements grid → ¬fails groups →
    ∃ draft, drafter groups placements grid = .ok draft ∧
      (∀ item ∈ draft.items, item.isShort = true) ∧ draft.warnings = warnings groups

theorem Draft.isShort_neutral (reason : String) :
    ∀ item ∈ (Draft.neutral reason).items, item.isShort = true := by
  simp [Draft.neutral, Item.isShort]

/-! ## Lines and dots -/

theorem Line.answers {demand : Cell → Cell → Item} (h : ∀ a b, (demand a b).isShort = true) :
    Drafter.Answers (Line.draft demand) (fun _ ↦ False) fun _ ↦ [] where
  error _ _ _ hfails := hfails.elim
  ok groups _ _ _ _ := by
    refine ⟨_, rfl, fun item hitem ↦ ?_, rfl⟩
    obtain ⟨group, _, hitem⟩ := List.mem_flatMap.1 hitem
    obtain ⟨⟨a, b⟩, _, rfl⟩ := List.mem_map.1 hitem
    exact h a b

/-! ## Arrows -/

namespace Arrow

/-- An arrow with a shaft whose pill has more cells than a numeral may have digits. -/
def IsLong (groups : List Group) : Prop :=
  ∃ pill shaft shafts, groups = pill :: shaft :: shafts ∧ Text.maxDigits < pill.cells.length

theorem isWritablePill_of_isLong {groups : List Group} (h : IsLong groups) :
    isWritablePill groups = false := by
  obtain ⟨pill, shaft, shafts, rfl, hlong⟩ := h
  have hnot : ¬pill.cells.length ≤ Text.maxDigits := by omega
  simp [isWritablePill, Term.isWritable, hnot]

theorem isShort_items {groups : List Group} (h : ¬IsLong groups) :
    ∀ item ∈ items groups, item.isShort = true := by
  cases groups with
  | nil => simp [items]
  | cons pill shafts =>
    intro item hitem
    simp only [items] at hitem
    split at hitem
    · simp at hitem
    · obtain ⟨⟨shaft, index⟩, hshaft, hitem⟩ := List.mem_flatMap.1 hitem
      have hlength : pill.cells.length ≤ Text.maxDigits := by
        by_contra hlong
        cases shafts with
        | nil => simp at hshaft
        | cons first rest => exact h ⟨pill, first, rest, rfl, by omega⟩
      simp only [shaftItems] at hitem
      split at hitem
      · simp at hitem
      · simp only [List.mem_cons, List.not_mem_nil, or_false] at hitem
        obtain rfl | rfl := hitem
        · rfl
        · simp [Item.isShort, Term.isShort, hlength]

theorem isWritablePill_of_not_isLong {groups : List Group} (h : ¬IsLong groups)
    (hcells : ∀ cell ∈ groups.flatMap Group.cells, isWritablePlace cell.row cell.col = true) :
    isWritablePill groups = true := by
  cases groups with
  | nil => rfl
  | cons pill shafts =>
    cases shafts with
    | nil => rfl
    | cons shaft shafts =>
      have hlength : pill.cells.length ≤ Text.maxDigits := by
        by_contra hlong
        exact h ⟨pill, shaft, shafts, rfl, by omega⟩
      have hpill : areWritableCells pill.cells = true :=
        List.all_eq_true.2 fun cell hcell ↦ hcells cell (by simp [hcell])
      simp [isWritablePill, Term.isWritable, hpill, hlength]

theorem answers : Drafter.Answers draft IsLong fun _ ↦ [] where
  error groups _ _ hfails := by
    refine ⟨.unwritable, ?_⟩
    rw [draft, isWritablePill_of_isLong hfails]
    rfl
  ok groups placements grid hgiven hfails := by
    have hpill : isWritablePill groups = true :=
      isWritablePill_of_not_isLong hfails fun cell hcell ↦
        (hgiven.cells cell (List.mem_append_left _ hcell)).2
    refine ⟨⟨items groups, []⟩, ?_, isShort_items hfails, rfl⟩
    rw [draft, hpill]
    rfl

end Arrow

/-! ## Cages -/

/-- A text that looks like an integer and is not a numeral. -/
def GroupValue.IsMisread : GroupValue → Prop
  | text s => looksLikeInteger (Text.trim s.toList) = true ∧ ¬Text.IsNumeral (Text.trim s.toList)
  | _ => False

theorem GroupValue.toInt?_cases (value : GroupValue) :
    (value.IsMisread ∧ ∃ fault, value.toInt? = .error fault) ∨
      ¬value.IsMisread ∧ ∃ n?, value.toInt? = .ok n? := by
  cases value with
  | text s =>
    cases hlooks : looksLikeInteger (Text.trim s.toList) with
    | false => exact .inr ⟨by simp [IsMisread, hlooks], none, by simp [toInt?, hlooks]⟩
    | true =>
      have hread := Text.readInt_strip hlooks
      cases hresult : Text.readInt (Text.strip s) with
      | ok n =>
        have hnumeral := hread.1 ⟨n, hresult⟩
        exact .inr ⟨by simp [IsMisread, hnumeral], some n, by simp [toInt?, hlooks, hresult]⟩
      | error fault =>
        have hnot : ¬Text.IsNumeral (Text.trim s.toList) := fun hnumeral ↦ by
          obtain ⟨n, hn⟩ := hread.2 hnumeral
          simp [hresult] at hn
        exact .inl ⟨⟨hlooks, hnot⟩, .ofNumeral s fault, by simp [toInt?, hlooks, hresult]⟩
  | _ => exact .inr ⟨id, _, rfl⟩

/-- The integer that a value stands for can be written if the value can. -/
theorem GroupValue.isWritable_of_toInt? {value : GroupValue} {n : Int}
    (hvalue : value.toValue.isWritable = true) (h : value.toInt? = .ok (some n)) :
    Text.isWritable n = true := by
  cases value with
  | absent => simp [toInt?] at h
  | int m =>
    obtain rfl : m = n := by simpa [toInt?] using h
    simpa [toValue, Value.isWritable] using hvalue
  | float x => exact Double.isWritable_of_toInt? (Except.ok.inj h)
  | text s =>
    simp only [toInt?] at h
    split at h
    next =>
      split at h
      next m hread =>
        obtain rfl : m = n := by simpa using h
        exact Text.isWritable_of_readInt hread
      next => simp at h
    next => simp at h

/-- The warning on a cage: its value is given and is no integer. -/
def Group.ignoredTotal? (group : Group) : Option Warning :=
  if group.cells.isEmpty || !group.value.isGiven then none
  else
    match group.value.toInt? with
    | .ok none => some (.totalIgnored group.value)
    | _ => none

namespace Cage

/-- A cage with a cell of which the value is misread. -/
def IsMisread (groups : List Group) : Prop :=
  ∃ group ∈ groups, group.cells ≠ [] ∧ group.value.IsMisread

theorem groupDraft_of_isMisread {group : Group} (hcells : group.cells ≠ [])
    (hvalue : group.value.IsMisread) : ∃ fault, groupDraft group = .error fault := by
  obtain ⟨_, fault, hfault⟩ | ⟨hnot, _⟩ := group.value.toInt?_cases
  · have hempty : group.cells.isEmpty = false := by simpa using hcells
    exact ⟨fault, by simp [groupDraft, totalDraft, hempty, hfault]⟩
  · exact absurd hvalue hnot

theorem groupDraft_eq_ok {group : Group}
    (hvalue : group.cells ≠ [] → group.value.toValue.isWritable = true)
    (h : ¬(group.cells ≠ [] ∧ group.value.IsMisread)) : ∃ draft, groupDraft group = .ok draft ∧
      (∀ item ∈ draft.items, item.isShort = true) ∧
      draft.warnings = group.ignoredTotal?.toList := by
  by_cases hcells : group.cells = []
  · exact ⟨⟨[], []⟩, by simp [groupDraft, hcells], by simp, by simp [Group.ignoredTotal?, hcells]⟩
  have hempty : group.cells.isEmpty = false := by simpa using hcells
  obtain ⟨hmisread, _⟩ | ⟨_, n?, hn⟩ := group.value.toInt?_cases
  · exact absurd ⟨hcells, hmisread⟩ h
  cases n? with
  | some n =>
    have hwritable := GroupValue.isWritable_of_toInt? (hvalue hcells) hn
    refine ⟨⟨[.note "all different in killer cage", .allDifferent group.cells,
      .equal (.sum group.cells) (.constant n)], []⟩, ?_, ?_, ?_⟩
    · simp [groupDraft, totalDraft, hempty, hn]
    · simp [Item.isShort, Term.isShort, hwritable]
    · simp [Group.ignoredTotal?, hempty, hn]
  | none =>
    cases hgiven : group.value.isGiven with
    | true =>
      refine ⟨⟨[.note "all different in killer cage", .allDifferent group.cells,
        ignoredTotal group.value], [.totalIgnored group.value]⟩, ?_, ?_, ?_⟩
      · simp [groupDraft, totalDraft, hempty, hn, hgiven]
      · simp [Item.isShort, ignoredTotal]
      · simp [Group.ignoredTotal?, hempty, hn, hgiven]
    | false =>
      refine ⟨⟨[.note "all different in killer cage", .allDifferent group.cells], []⟩, ?_, ?_, ?_⟩
      · simp [groupDraft, totalDraft, hempty, hn, hgiven]
      · simp [Item.isShort]
      · simp [Group.ignoredTotal?, hgiven]

/-- Cages are drafted if none of them is misread, and no number of their drafts is too long if no
value of a cage is. -/
theorem draft_eq_ok {groups : List Group}
    (hvalues : ∀ group ∈ groups, group.cells ≠ [] → group.value.toValue.isWritable = true)
    (h : ¬IsMisread groups) (placements : List Placement) (grid : Grid) :
    ∃ made, draft groups placements grid = .ok made ∧
      (∀ item ∈ made.items, item.isShort = true) ∧
      made.warnings = groups.filterMap Group.ignoredTotal? := by
  have hgroup := fun group hgroup ↦ groupDraft_eq_ok (hvalues group hgroup)
    fun hmisread ↦ h ⟨group, hgroup, hmisread⟩
  obtain ⟨drafts, hdrafts⟩ := exists_mapM_eq_ok (f := groupDraft) (l := groups)
    fun group hmem ↦ (hgroup group hmem).imp fun _ h ↦ h.1
  refine ⟨⟨drafts.flatMap Draft.items, drafts.flatMap Draft.warnings⟩, ?_, ?_, ?_⟩
  · unfold draft
    rw [hdrafts]
    rfl
  · intro item hitem
    obtain ⟨own, hown, hitem⟩ := List.mem_flatMap.1 hitem
    obtain ⟨group, hmem, heq⟩ := exists_mem_of_mapM_eq_ok hdrafts hown
    obtain ⟨found, hfound, hshort, _⟩ := hgroup group hmem
    obtain rfl : found = own := Except.ok.inj (hfound.symm.trans heq)
    exact hshort item hitem
  · have hwarnings := flatMap_of_mapM_eq_ok (g := Draft.warnings)
      (k := fun group ↦ group.ignoredTotal?.toList) hdrafts fun group hmem own hown ↦ by
        obtain ⟨found, hfound, _, hwarnings⟩ := hgroup group hmem
        obtain rfl : found = own := Except.ok.inj (hfound.symm.trans hown)
        exact hwarnings
    rw [hwarnings, List.filterMap_eq_flatMap_toList]

theorem answers : Drafter.Answers draft IsMisread fun groups ↦
    groups.filterMap Group.ignoredTotal? where
  error groups placements grid hfails := by
    obtain ⟨group, hgroup, hcells, hvalue⟩ := hfails
    obtain ⟨fault, hfault⟩ := groupDraft_of_isMisread hcells hvalue
    unfold draft
    cases hdrafts : groups.mapM groupDraft with
    | ok drafts =>
      obtain ⟨own, _, hown⟩ := forall_of_mapM_eq_ok hdrafts group hgroup
      simp [hfault] at hown
    | error first => exact ⟨first, rfl⟩
  ok groups placements grid hgiven hfails :=
    draft_eq_ok (fun group hgroup _ ↦ hgiven.values group hgroup) hfails placements grid

end Cage

/-! ## Lines through regions -/

namespace RegionSum

theorem exists_segments {grid : Grid} (hregions : grid.regions.isNone = false) {line : List Cell}
    (hline : ∀ cell ∈ line, grid.contains cell = true) :
    ∃ found, segments grid line = .ok found := by
  obtain ⟨pairs, hpairs⟩ : ∃ pairs, labelled grid line = .ok pairs := by
    refine exists_mapM_eq_ok fun cell hcell ↦ ?_
    obtain ⟨region, hregion⟩ :=
      Grid.exists_regionOf? (Option.isNone_eq_false_iff.1 hregions) (hline cell hcell)
    exact ⟨(region, cell), by rw [hregion]⟩
  exact ⟨_, by rw [segments, hpairs]; rfl⟩

theorem exists_lineItems {grid : Grid} (hregions : grid.regions.isNone = false) {line : Group}
    (hline : ∀ cell ∈ line.cells, grid.contains cell = true) (index : Nat) :
    ∃ items, lineItems grid index line = .ok items := by
  obtain ⟨found, hfound⟩ := exists_segments hregions hline
  unfold lineItems
  rw [hfound, ok_bind]
  split
  · exact ⟨_, rfl⟩
  · exact ⟨_, rfl⟩

theorem isShort_lineItems {grid : Grid} {index : Nat} {line : Group} {items : List Item}
    (h : lineItems grid index line = .ok items) : ∀ item ∈ items, item.isShort = true := by
  obtain ⟨found, _, h⟩ := bind_eq_ok.1 h
  split at h
  · obtain rfl := Except.ok.inj h
    simp [Item.isShort, Term.isShort]
  · obtain rfl := Except.ok.inj h
    simp

variable {grid : Grid} {groups : List Group} {placements : List Placement} {draft : Draft}

theorem exists_lineDraft (hregions : grid.regions.isSome = true)
    (hcells : ∀ group ∈ groups, ∀ cell ∈ group.cells, grid.contains cell = true)
    (placements : List Placement) : ∃ draft, lineDraft groups placements grid = .ok draft := by
  have hnone : grid.regions.isNone = false := by simpa using hregions
  obtain ⟨found, hfound⟩ := exists_mapM_eq_ok (l := groups.zipIdx 1)
    (f := fun line : Group × Nat ↦ lineItems grid line.2 line.1) fun line hline ↦
      exists_lineItems hnone (hcells line.1 (List.fst_mem_of_mem_zipIdx hline)) line.2
  exact ⟨⟨found.flatten, []⟩, by simp [lineDraft, hnone, hfound]⟩

/-- In a grid with regions the items of the draft are those of the lines. -/
theorem lineDraft_eq_ok (hregions : grid.regions.isSome = true)
    (h : lineDraft groups placements grid = .ok draft) : ∃ found,
      (groups.zipIdx 1).mapM (fun (line, index) ↦ lineItems grid index line) = .ok found ∧
        draft = ⟨found.flatten, []⟩ := by
  have hnone : grid.regions.isNone = false := by simpa using hregions
  unfold lineDraft at h
  rw [hnone] at h
  obtain ⟨found, hfound, h⟩ := bind_eq_ok.1 h
  exact ⟨found, hfound, (Except.ok.inj h).symm⟩

theorem isShort_lineDraft (hregions : grid.regions.isSome = true)
    (h : lineDraft groups placements grid = .ok draft) :
    (∀ item ∈ draft.items, item.isShort = true) ∧ draft.warnings = [] := by
  obtain ⟨found, hfound, rfl⟩ := lineDraft_eq_ok hregions h
  refine ⟨fun item hitem ↦ ?_, rfl⟩
  obtain ⟨line, _, items, hline, hitem⟩ := exists_mem_of_mem_flatten hfound hitem
  exact isShort_lineItems hline item hitem

theorem lineDraft_answers : Drafter.Answers lineDraft (fun _ ↦ False) fun _ ↦ [] where
  error _ _ _ hfails := hfails.elim
  ok groups placements grid hgiven _ := by
    cases hregions : grid.regions.isNone with
    | true => exact ⟨Draft.neutral _, if_pos hregions, Draft.isShort_neutral _, rfl⟩
    | false =>
      have hsome : grid.regions.isSome = true := by simpa using hregions
      obtain ⟨draft, hdraft⟩ := exists_lineDraft hsome (fun group hgroup cell hcell ↦
        (hgiven.cells cell (List.mem_append_left _ (subset_cells hgroup hcell))).1) placements
      exact ⟨draft, hdraft, isShort_lineDraft hsome hdraft⟩

theorem isShort_sharedItems (found : List (List Cell)) :
    ∀ item ∈ sharedItems found, item.isShort = true := by
  cases found <;> simp [sharedItems, Item.isShort, Term.isShort]

/-- In a grid with regions the draft for the whole grid says nothing, or it has the segments of all
lines. -/
theorem sharedDraft_cases (hregions : grid.regions.isSome = true)
    (hcells : ∀ cell ∈ placements.flatMap Placement.cells, grid.contains cell = true)
    (groups : List Group) :
    (∃ reason, placedLines placements = [] ∧
      sharedDraft groups placements grid = .ok (.neutral reason)) ∨
    ∃ found, (placedLines placements).mapM (fun line ↦ segments grid line.cells) = .ok found ∧
      sharedDraft groups placements grid = .ok ⟨sharedItems found.flatten, []⟩ := by
  have hnone : grid.regions.isNone = false := by simpa using hregions
  unfold sharedDraft
  cases hlines : (placedLines placements).isEmpty with
  | true => exact .inl ⟨_, List.isEmpty_iff.1 hlines, if_pos hlines⟩
  | false =>
    obtain ⟨found, hfound⟩ := exists_mapM_eq_ok (l := placedLines placements)
      (f := fun line ↦ segments grid line.cells) fun line hline ↦
        exists_segments hnone fun cell hcell ↦ hcells cell ((placedLines_cells hline).2 hcell)
    exact .inr ⟨found, hfound, by simp [hlines, hnone, hfound]⟩

theorem exists_sharedDraft (hregions : grid.regions.isSome = true)
    (hcells : ∀ cell ∈ placements.flatMap Placement.cells, grid.contains cell = true)
    (groups : List Group) : ∃ draft, sharedDraft groups placements grid = .ok draft ∧
      (∀ item ∈ draft.items, item.isShort = true) ∧ draft.warnings = [] := by
  obtain ⟨reason, _, hdraft⟩ | ⟨found, _, hdraft⟩ := sharedDraft_cases hregions hcells groups
  · exact ⟨_, hdraft, Draft.isShort_neutral reason, rfl⟩
  · exact ⟨_, hdraft, isShort_sharedItems found.flatten, rfl⟩

theorem sharedDraft_answers : Drafter.Answers sharedDraft (fun _ ↦ False) fun _ ↦ [] where
  error _ _ _ hfails := hfails.elim
  ok groups placements grid hgiven _ := by
    cases hregions : grid.regions.isNone with
    | true =>
      unfold sharedDraft
      cases hlines : (placedLines placements).isEmpty with
      | true => exact ⟨Draft.neutral _, if_pos hlines, Draft.isShort_neutral _, rfl⟩
      | false => exact ⟨_, by simp [hlines, hregions]; rfl, Draft.isShort_neutral _, rfl⟩
    | false =>
      exact exists_sharedDraft (by simpa using hregions)
        (fun cell hcell ↦ (hgiven.cells cell (List.mem_append_right _ hcell)).1) groups

end RegionSum

/-! ## Generators -/

/-- A generator fails on some groups only, and raises known warnings on the others. -/
structure Generator.Answers (generator : Generator) (fails : List Group → Prop)
    (warnings : List Group → List Warning) : Prop where
  error : ∀ groups placements grid, fails groups →
    ∃ fault, generator groups placements grid = .error fault
  ok : ∀ groups placements grid, AreGiven groups placements grid → ¬fails groups →
    ∃ emission, generator groups placements grid = .ok emission ∧
      emission.warnings = warnings groups

/-- A draft without numbers that are too long is written unless the place of one of its cells is too
long. -/
theorem Draft.emission_cases {draft : Draft} {cells : List Cell}
    (hreads : ∀ item ∈ draft.items, ∀ cell ∈ item.cells, cell ∈ cells)
    (hshort : ∀ item ∈ draft.items, item.isShort = true) :
    draft.emission = .ok ⟨Items.text draft.items, draft.warnings⟩ ∨
      draft.emission = .error .unwritable ∧
        ∃ cell ∈ cells, isWritablePlace cell.row cell.col = false := by
  by_cases hcells : ∀ cell ∈ cells, isWritablePlace cell.row cell.col = true
  · have hwritable : draft.items.all Item.isWritable = true := by
      refine List.all_eq_true.2 fun item hitem ↦ ?_
      have hplaces : areWritableCells item.cells = true :=
        List.all_eq_true.2 fun cell hcell ↦ hcells cell (hreads item hitem cell hcell)
      rw [Item.isWritable_eq, hplaces, hshort item hitem]
      rfl
    exact .inl (if_pos hwritable)
  · obtain ⟨cell, hcell, hplace⟩ : ∃ cell ∈ cells, isWritablePlace cell.row cell.col = false := by
      simpa using hcells
    unfold Draft.emission
    split
    · exact .inl rfl
    · exact .inr ⟨rfl, cell, hcell, hplace⟩

/-- A drafter of which all items are on cells that it was given answers with text. -/
theorem Drafter.Answers.toGenerator {drafter : Drafter} {fails : List Group → Prop}
    {warnings : List Group → List Warning} (h : drafter.Answers fails warnings)
    (hon : ∀ groups placements grid draft, drafter groups placements grid = .ok draft →
      ∀ item ∈ draft.items,
        item.IsOn (groups.flatMap Group.cells ++ placements.flatMap Placement.cells)) :
    Generator.Answers drafter.toGenerator fails warnings where
  error groups placements grid hfails := by
    obtain ⟨fault, hfault⟩ := h.error groups placements grid hfails
    exact ⟨fault, by rw [Drafter.toGenerator, hfault]; rfl⟩
  ok groups placements grid hgiven hfails := by
    obtain ⟨draft, hdraft, hshort, hwarnings⟩ := h.ok groups placements grid hgiven hfails
    have hreads : ∀ item ∈ draft.items, ∀ cell ∈ item.cells,
        cell ∈ groups.flatMap Group.cells ++ placements.flatMap Placement.cells :=
      fun item hitem ↦ (hon groups placements grid draft hdraft item hitem).reads
    refine ⟨⟨Items.text draft.items, draft.warnings⟩, ?_, hwarnings⟩
    rw [Drafter.toGenerator, hdraft]
    refine (Draft.emission_cases hreads hshort).resolve_right ?_
    rintro ⟨-, cell, hcell, hplace⟩
    simp [(hgiven.cells cell hcell).2] at hplace

end GridPuzzle
