import GridPuzzle.Proofs.Compile.CodeLines
import GridPuzzle.Proofs.Compile.Layout

/-!
# Values of groups

The values of groups are written into comments, whatever they are, and only cages read them: a cage
reads the integer that a value stands for. So two puzzles that differ in values only, and in cages
in values that stand for the same integer, have documents with the same lines of code.
-/

namespace GridPuzzle

open Fallible Standard Text

variable {puzzle other : Puzzle} {grid : Grid} {selection : Selection}

/-! ## Puzzles without values -/

def Group.bare (group : Group) : Group := { group with value := .absent }

def Placement.bare (placement : Placement) : Placement :=
  { placement with groups := placement.groups.map Group.bare }

def Puzzle.bare (puzzle : Puzzle) : Puzzle :=
  { puzzle with placements := puzzle.placements.map Placement.bare }

@[simp] theorem Group.cells_bare (group : Group) : group.bare.cells = group.cells := rfl

@[simp] theorem Placement.rule_bare (placement : Placement) :
    placement.bare.rule = placement.rule := rfl

@[simp] theorem Placement.cells_bare (placement : Placement) :
    placement.bare.cells = placement.cells := List.flatMap_map ..

/-- Validation reads no value. -/
theorem Selection.ofPuzzle_bare (catalog : Catalog) (puzzle : Puzzle) :
    ofPuzzle catalog puzzle.bare = ofPuzzle catalog puzzle := by
  have hclue (grid : Grid) : checkClue puzzle.bare grid = checkClue puzzle grid := rfl
  have hplaced (grid : Grid) (selection : Selection) :
      resolvePlacements catalog grid selection puzzle.bare.placements =
        resolvePlacements catalog grid selection puzzle.placements := by
    simp only [resolvePlacements, Puzzle.bare, List.zipIdx_map, List.foldlM_map]
    simp [resolvePlacement]
  unfold ofPuzzle
  simp only [hclue, hplaced]
  rfl

/-! ## Drafters -/

/-- A drafter that reads no value. -/
def Drafter.IsBlind (drafter : Drafter) : Prop :=
  ∀ groups placements grid,
    drafter (groups.map Group.bare) (placements.map Placement.bare) grid =
      drafter groups placements grid

theorem Line.isBlind (demand : Cell → Cell → Item) : Drafter.IsBlind (draft demand) := by
  intro groups placements grid
  simp [draft, items, List.flatMap_map]

theorem Arrow.isBlind : Drafter.IsBlind draft := by
  intro groups placements grid
  have hwritable : isWritablePill (groups.map Group.bare) = isWritablePill groups := by
    cases groups with
    | nil => rfl
    | cons pill shafts => cases shafts <;> rfl
  have hitems : items (groups.map Group.bare) = items groups := by
    cases groups with
    | nil => rfl
    | cons pill shafts =>
      simp only [List.map_cons, items, List.zipIdx_map, List.flatMap_map]
      rfl
  simp only [draft, hwritable, hitems]

theorem RegionSum.isBlind_lineDraft : Drafter.IsBlind lineDraft := by
  intro groups placements grid
  simp only [lineDraft, List.zipIdx_map, List.mapM_map]
  rfl

theorem RegionSum.placedLines_bare (placements : List Placement) :
    placedLines (placements.map Placement.bare) = (placedLines placements).map Group.bare := by
  simp [placedLines, List.filter_map, List.flatMap_map, List.map_flatMap, Placement.bare,
    Function.comp_def]

theorem RegionSum.isBlind_sharedDraft : Drafter.IsBlind sharedDraft := by
  intro groups placements grid
  simp only [sharedDraft, placedLines_bare, List.isEmpty_map, List.mapM_map]
  rfl

/-- Only cages read values. -/
theorem isBlind_of_ne {id : String} {drafter : Drafter} (h : (id, drafter) ∈ libraryDrafters)
    (hid : id ≠ killerCage.id) : drafter.IsBlind := by
  simp only [libraryDrafters, List.mem_cons, Prod.mk.injEq, List.not_mem_nil, or_false] at h
  obtain ⟨_, rfl⟩ | ⟨rfl, _⟩ | ⟨_, rfl⟩ | ⟨_, rfl⟩ | ⟨_, rfl⟩ | ⟨_, rfl⟩ | ⟨_, rfl⟩ | ⟨_, rfl⟩ := h
  · exact RegionSum.isBlind_sharedDraft
  · exact absurd rfl hid
  · exact Arrow.isBlind
  · exact Line.isBlind _
  · exact Line.isBlind _
  · exact Line.isBlind _
  · exact Line.isBlind _
  · exact RegionSum.isBlind_lineDraft

/-! ## Cages -/

/-- The integer that the value of a group stands for, if it can be read and stands for one. -/
def GroupValue.total? (value : GroupValue) : Option Int := value.toInt?.toOption.join

namespace Cage

/-- What a cage demands, apart from the notes on it. -/
def demands (group : Group) : List Item :=
  if group.cells.isEmpty then []
  else .allDifferent group.cells ::
    (group.value.total?.map fun total ↦ .equal (.sum group.cells) (.constant total)).toList

theorem demands_groupDraft {group : Group} {draft : Draft} (h : groupDraft group = .ok draft) :
    draft.demands = demands group ∧ (draft.items = [] ↔ demands group = []) := by
  unfold groupDraft at h
  unfold demands
  split at h
  next hempty =>
    obtain rfl := Except.ok.inj h
    simp [Draft.demands, hempty]
  next hempty =>
    obtain ⟨total, htotal, h⟩ := bind_eq_ok.1 h
    obtain rfl := Except.ok.inj h
    obtain ⟨n?, hn, htotal⟩ := bind_eq_ok.1 htotal
    have hvalue : group.value.total? = n? := by
      rw [GroupValue.total?, hn]
      rfl
    refine ⟨?_, by simp [hempty]⟩
    rw [if_neg hempty, hvalue]
    cases n? with
    | some n =>
      obtain rfl := Except.ok.inj htotal
      rfl
    | none =>
      dsimp only at htotal
      split at htotal <;>
      · obtain rfl := Except.ok.inj htotal
        rfl

theorem demands_draft {groups : List Group} {placements : List Placement} {draft : Draft}
    (h : Cage.draft groups placements grid = .ok draft) :
    draft.demands = groups.flatMap demands ∧ (draft.items = [] ↔ groups.flatMap demands = []) := by
  obtain ⟨drafts, hdrafts, h⟩ := bind_eq_ok.1 h
  obtain rfl := Except.ok.inj h
  constructor
  · rw [Draft.demands, List.filter_flatMap]
    exact flatMap_of_mapM_eq_ok hdrafts fun group _ own hown ↦ (demands_groupDraft hown).1
  · rw [List.flatMap_eq_nil_iff, List.flatMap_eq_nil_iff]
    constructor
    · intro hnil group hgroup
      obtain ⟨own, hmem, hown⟩ := forall_of_mapM_eq_ok hdrafts group hgroup
      exact (demands_groupDraft hown).2.1 (hnil own hmem)
    · intro hnil own hmem
      obtain ⟨group, hgroup, hown⟩ := exists_mem_of_mapM_eq_ok hdrafts hmem
      exact (demands_groupDraft hown).2.2 (hnil group hgroup)

end Cage

/-! ## Agreement -/

/-- Groups with the same cells, and in a cage with values that stand for the same integer. -/
structure Group.AgreesIn (id : String) (group other : Group) : Prop where
  cells : group.cells = other.cells
  total : id = killerCage.id → group.value.toInt?.toOption = other.value.toInt?.toOption

/-- Placements of one rule on groups that agree. -/
structure Placement.Agrees (placement other : Placement) : Prop where
  rule : placement.rule = other.rule
  groups : List.Forall₂ (Group.AgreesIn placement.rule) placement.groups other.groups

/-- Puzzles that differ only in values of groups, and in cages in values that stand for the same
integer. -/
structure Puzzle.Agrees (puzzle other : Puzzle) : Prop where
  grid : puzzle.grid = other.grid
  kinds : puzzle.kinds = other.kinds
  selected : puzzle.selected = other.selected
  clues : puzzle.clues = other.clues
  placements : List.Forall₂ Placement.Agrees puzzle.placements other.placements

theorem map_eq_map_of_forall₂ {α β : Type} {R : α → α → Prop} {f : α → β} {l l' : List α}
    (h : List.Forall₂ R l l') (hf : ∀ a b, R a b → f a = f b) : l.map f = l'.map f := by
  induction h with
  | nil => rfl
  | cons hR _ ih => rw [List.map_cons, List.map_cons, hf _ _ hR, ih]

theorem Group.AgreesIn.bare_eq {id : String} {group other : Group} (h : group.AgreesIn id other) :
    group.bare = other.bare := by
  unfold Group.bare
  rw [h.cells]

theorem Placement.Agrees.bare_eq {placement other : Placement} (h : placement.Agrees other) :
    placement.bare = other.bare := by
  unfold Placement.bare
  rw [h.rule, map_eq_map_of_forall₂ h.groups fun _ _ hgroup ↦ hgroup.bare_eq]

theorem Group.AgreesIn.demands_eq {group other : Group} (h : group.AgreesIn killerCage.id other) :
    Cage.demands group = Cage.demands other := by
  unfold Cage.demands GroupValue.total?
  rw [h.cells, h.total rfl]

theorem Puzzle.Agrees.bare_eq (h : puzzle.Agrees other) : puzzle.bare = other.bare := by
  unfold Puzzle.bare
  rw [h.grid, h.kinds, h.selected, h.clues,
    map_eq_map_of_forall₂ h.placements fun _ _ hplacement ↦ hplacement.bare_eq]

/-! ## Bodies of blocks -/

/-- Drafts with the same demands have the same lines of code, if neither or both have no item. -/
theorem codeLines_tidy_congr {cells more : List Cell} {draft draft' : Draft}
    (hdemands : draft.demands = draft'.demands) (hitems : draft.items = [] ↔ draft'.items = [])
    (hon : ∀ item ∈ draft.items, item.IsOn cells) (hon' : ∀ item ∈ draft'.items, item.IsOn more) :
    codeLines (tidy ⟨Items.text draft.items, draft.warnings⟩).text =
      codeLines (tidy ⟨Items.text draft'.items, draft'.warnings⟩).text := by
  by_cases hempty : draft.items = []
  · rw [codeLines_tidy_nil hempty, codeLines_tidy_nil (hitems.1 hempty)]
  · rw [codeLines_tidy hempty hon, codeLines_tidy (fun h ↦ hempty (hitems.2 h)) hon', hdemands]

/-- Two drafts of one rule, for groups that differ in values that the rule does not read. -/
theorem draft_congr {id : String} {drafter : Drafter} (hdrafter : (id, drafter) ∈ libraryDrafters)
    {placements placements' : List Placement} {groups groups' : List Group} {draft draft' : Draft}
    (h : drafter groups placements grid = .ok draft)
    (h' : drafter groups' placements' grid = .ok draft')
    (hplacements : placements.map Placement.bare = placements'.map Placement.bare)
    (hgroups : groups.map Group.bare = groups'.map Group.bare)
    (hcage : id = killerCage.id → groups.flatMap Cage.demands = groups'.flatMap Cage.demands) :
    draft.demands = draft'.demands ∧ (draft.items = [] ↔ draft'.items = []) := by
  by_cases hid : id = killerCage.id
  · subst hid
    obtain rfl : drafter = Cage.draft :=
      drafter_unique hdrafter (by simp [libraryDrafters, killerCage])
    obtain ⟨hdemands, hitems⟩ := Cage.demands_draft h
    obtain ⟨hdemands', hitems'⟩ := Cage.demands_draft h'
    rw [hdemands, hdemands', hitems, hitems', hcage rfl]
    exact ⟨rfl, Iff.rfl⟩
  · have hblind := isBlind_of_ne hdrafter hid
    rw [← hblind, hgroups, hplacements, hblind, h'] at h
    obtain rfl := Except.ok.inj h
    exact ⟨rfl, Iff.rfl⟩

theorem Rule.code_body_congr {rule : Rule} (hrule : rule ∈ rules)
    {placements placements' : List Placement} {groups groups' : List Group}
    {position position' : Option Nat} {body body' : List Emission}
    (h : rule.body placements grid groups position = .ok body)
    (h' : rule.body placements' grid groups' position' = .ok body')
    (hplacements : placements.map Placement.bare = placements'.map Placement.bare)
    (hgroups : groups.map Group.bare = groups'.map Group.bare)
    (hcage : rule.id = killerCage.id →
      groups.flatMap Cage.demands = groups'.flatMap Cage.demands) :
    (body.flatMap fun part ↦ codeLines part.text) =
      body'.flatMap fun part ↦ codeLines part.text := by
  obtain ⟨hskipped, rfl⟩ | ⟨hskipped, hnone, rfl⟩ |
    ⟨drafter, draft, hskipped, hgenerator, hdrafter, hdraft, hon, rfl⟩ :=
      Rule.body_eq_ok hrule h <;>
  obtain ⟨hskipped', rfl⟩ | ⟨hskipped', hnone', rfl⟩ |
    ⟨drafter', draft', hskipped', hgenerator', hdrafter', hdraft', hon', rfl⟩ :=
      Rule.body_eq_ok hrule h'
  all_goals first | exact absurd (hskipped.symm.trans hskipped') (by decide) | skip
  · rfl
  · rfl
  · exact absurd (hnone.symm.trans hgenerator') (by simp)
  · exact absurd (hnone'.symm.trans hgenerator) (by simp)
  · obtain rfl := drafter_unique hdrafter hdrafter'
    obtain ⟨hdemands, hitems⟩ := draft_congr hdrafter hdraft hdraft' hplacements hgroups hcage
    rw [List.flatMap_singleton, List.flatMap_singleton,
      codeLines_tidy_congr hdemands hitems hon hon']

/-! ## Blocks -/

/-- The fragment before a placement depends on the rules of the placements only. -/
theorem Rule.sharedFragment_congr (rule : Rule) {placements placements' : List Placement}
    (h : placements.map Placement.bare = placements'.map Placement.bare) (position : Nat) :
    rule.sharedFragment placements grid position =
      rule.sharedFragment placements' grid position := by
  have hrules : placements.map Placement.rule = placements'.map Placement.rule := by
    have hbare := congrArg (List.map Placement.rule) h
    rwa [List.map_map, List.map_map] at hbare
  have hfirst (l : List Placement) : rule.isFirstAt l position =
      ((l.map Placement.rule).take (position - 1)).all (· != rule.id) := by
    rw [← List.map_take, List.all_map]
    rfl
  unfold Rule.sharedFragment
  rw [hfirst, hfirst, hrules]

theorem forall₂_zipIdx {α : Type} {R : α → α → Prop} {l l' : List α} (h : List.Forall₂ R l l')
    (n : Nat) :
    List.Forall₂ (fun x y ↦ R x.1 y.1 ∧ x.2 = y.2) (l.zipIdx n) (l'.zipIdx n) := by
  induction h generalizing n with
  | nil => exact .nil
  | cons hR _ ih => exact .cons ⟨hR, rfl⟩ (ih (n + 1))

theorem flatMap_demands_of_agrees {groups groups' : List Group}
    (h : List.Forall₂ (Group.AgreesIn killerCage.id) groups groups') :
    groups.flatMap Cage.demands = groups'.flatMap Cage.demands := by
  rw [List.flatMap_def, List.flatMap_def,
    map_eq_map_of_forall₂ h fun _ _ hgroup ↦ hgroup.demands_eq]

section Agreement

variable (hagrees : puzzle.Agrees other)
  (hvalid : Selection.Accepted .standard puzzle grid selection)

include hagrees hvalid

/-- The blocks of the selected rules have the same lines of code. -/
theorem code_wholeBlocks {whole whole' : List RuleBlock}
    (h : puzzle.wholeBlocks grid selection = .ok whole)
    (h' : other.wholeBlocks grid selection = .ok whole') :
    whole.flatMap RuleBlock.code = whole'.flatMap RuleBlock.code := by
  have hplacements : puzzle.placements.map Placement.bare = other.placements.map Placement.bare :=
    congrArg Puzzle.placements hagrees.bare_eq
  rw [Puzzle.wholeBlocks, ← hagrees.selected] at h'
  refine flatMap_eq_of_mapM_eq_ok (R := fun rule rule' ↦ rule = rule' ∧ rule ∈ selection)
    (List.forall₂_same.2 fun rule hrule ↦ ⟨rfl, (hvalid.mem_of_found hrule).1⟩) h h' ?_
  rintro rule _ ⟨rfl, hrule⟩ block block' hblock hblock'
  obtain ⟨body, hbody, rfl⟩ := map_eq_ok.1 hblock
  obtain ⟨body', hbody', rfl⟩ := map_eq_ok.1 hblock'
  simp only [RuleBlock.code, List.flatMap_append,
    Rule.code_body_congr (hvalid.known rule hrule) hbody hbody' hplacements rfl fun _ ↦ rfl]

/-- The blocks of the placements have the same lines of code. -/
theorem code_placedBlocks {placed placed' : List (List RuleBlock)}
    (h : (puzzle.placements.zipIdx 1).mapM (puzzle.blocksAt grid selection) = .ok placed)
    (h' : (other.placements.zipIdx 1).mapM (other.blocksAt grid selection) = .ok placed') :
    placed.flatMap (List.flatMap RuleBlock.code) =
      placed'.flatMap (List.flatMap RuleBlock.code) := by
  have hplacements : puzzle.placements.map Placement.bare = other.placements.map Placement.bare :=
    congrArg Puzzle.placements hagrees.bare_eq
  refine flatMap_eq_of_mapM_eq_ok (forall₂_zipIdx hagrees.placements 1) h h' ?_
  rintro ⟨placement, position⟩ ⟨placement', _⟩ ⟨hplacement, rfl⟩ own own' hown hown'
  unfold Puzzle.blocksAt at hown hown'
  rw [← hplacement.rule] at hown'
  split at hown
  next rule hfind =>
    simp only [hfind] at hown'
    obtain ⟨remarks, body, _, hbody, rfl⟩ := placedBlocks_eq_ok hown
    obtain ⟨remarks', body', _, hbody', rfl⟩ := placedBlocks_eq_ok hown'
    have hid : placement.rule = rule.id := (Selection.find?_text hfind).2
    have hcode := Rule.code_body_congr (hvalid.known rule (List.mem_of_find?_eq_some hfind))
      hbody hbody' hplacements
      (map_eq_map_of_forall₂ hplacement.groups fun _ _ hgroup ↦ hgroup.bare_eq)
      fun hcage ↦ flatMap_demands_of_agrees (hcage ▸ hid ▸ hplacement.groups)
    rw [rule.sharedFragment_congr hplacements]
    simp only [List.flatMap_append, List.flatMap_singleton, RuleBlock.code, hcode]
  next hfind =>
    simp only [hfind] at hown'
    obtain rfl := Except.ok.inj hown
    obtain rfl := Except.ok.inj hown'
    rfl

end Agreement

/-- Puzzles that differ only in values of groups, and in cages in values that stand for the same
integer, have documents with the same lines of code. -/
theorem compile_codeLines_eq (hagrees : puzzle.Agrees other) {document document' : Emission}
    (h : compile .standard puzzle = .ok document) (h' : compile .standard other = .ok document') :
    codeLines document.text = codeLines document'.text := by
  obtain ⟨grid, selection, clues, whole, placed, haccepted, hclues, hwhole, hplaced, hcode⟩ :=
    codeLines_compile h
  obtain ⟨grid', selection', clues', whole', placed', haccepted', hclues', hwhole', hplaced',
    hcode'⟩ := codeLines_compile h'
  have hsame : Selection.ofPuzzle .standard other = Selection.ofPuzzle .standard puzzle := by
    rw [← Selection.ofPuzzle_bare, ← hagrees.bare_eq, Selection.ofPuzzle_bare]
  obtain ⟨rfl, rfl⟩ : grid' = grid ∧ selection' = selection :=
    Prod.mk.inj (Except.ok.inj (haccepted'.symm.trans (hsame.trans haccepted)))
  obtain rfl : clues' = clues := by
    have hlines : puzzle.clueLines = other.clueLines := by
      change puzzle.bare.clueLines = other.bare.clueLines
      rw [hagrees.bare_eq]
    exact Except.ok.inj (hclues'.symm.trans (hlines.symm.trans hclues))
  have hopening : puzzle.opening grid' clues' = other.opening grid' clues' := by
    change puzzle.bare.opening grid' clues' = other.bare.opening grid' clues'
    rw [hagrees.bare_eq]
  have hvalid := Selection.ofPuzzle_eq_ok haccepted
  rw [hcode, hcode', hopening, code_wholeBlocks hagrees hvalid hwhole hwhole',
    code_placedBlocks hagrees hvalid hplaced hplaced']

def Puzzle.cageRow (value : GroupValue) : Puzzle where
  grid := some .twoCells
  kinds := [.fourDigits]
  placements := [⟨killerCage.id, [⟨[⟨0, 0⟩, ⟨0, 1⟩], value⟩]⟩]

/-- A cage is compiled whatever text its value is, unless the text looks like an integer. -/
theorem exists_compile_cageRow {value : GroupValue} (hwritable : value.toValue.isWritable = true)
    (hvalue : ¬value.IsMisread) :
    ∃ document, compile .standard (.cageRow value) = .ok document := by
  have haccepted : Selection.ofPuzzle .standard (.cageRow value) = .ok (.twoCells, [killerCage]) :=
    rfl
  have hfaulty : ∀ placement ∈ (Puzzle.cageRow value).placements, ¬placement.IsFaulty := by
    have hids : killerCage.id ≠ arrow.id := by decide
    simp [Puzzle.cageRow, Placement.IsFaulty, Cage.IsMisread, hids, hvalue]
  exact exists_compile_twoCells haccepted rfl (by simp [Puzzle.cageRow, hwritable]) hfaulty

/-- A constraint that is smuggled into the value of a cage does not get into the lines of code. -/
theorem compile_cageRow_codeLines :
    ∃ document document', compile .standard (.cageRow .absent) = .ok document ∧
      compile .standard (.cageRow (.text "\nconstraint false;")) = .ok document' ∧
      codeLines document.text = codeLines document'.text := by
  have habsent : ¬GroupValue.absent.IsMisread := id
  obtain ⟨document, h⟩ := exists_compile_cageRow
    (by simp [GroupValue.toValue, Value.isWritable]) habsent
  have hlooks : looksLikeInteger (trim "\nconstraint false;".toList) = false := by
    decide +kernel
  have htext : ¬(GroupValue.text "\nconstraint false;").IsMisread := fun hmisread ↦
    Bool.noConfusion (hlooks.symm.trans hmisread.1)
  obtain ⟨document', h'⟩ := exists_compile_cageRow
    (by simp [GroupValue.toValue, Value.isWritable]) htext
  have htotal : (GroupValue.text "\nconstraint false;").toInt? = .ok none := by
    rw [GroupValue.toInt?, hlooks]
    rfl
  have hagrees : (Puzzle.cageRow .absent).Agrees (.cageRow (.text "\nconstraint false;")) := by
    refine ⟨rfl, rfl, rfl, rfl, .cons ⟨rfl, .cons ⟨rfl, fun _ ↦ ?_⟩ .nil⟩ .nil⟩
    rw [htotal]
    rfl
  exact ⟨document, document', h, h', compile_codeLines_eq hagrees h h'⟩

end GridPuzzle
