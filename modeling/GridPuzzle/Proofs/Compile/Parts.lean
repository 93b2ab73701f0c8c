import GridPuzzle.Proofs.Compile.Names

/-!
# The parts of a document

A document of a puzzle that has passed validation consists of sections for the grid, the variable
kinds and the clues, and of blocks for the rules: one for every selected rule, and one for every
placement. A block starts with a marker that says where it comes from. Behind the marker stand
remarks on the groups of a placement, and then what is emitted. The fragment that all placements of
a rule share is a block of its own before the first of them.
-/

namespace GridPuzzle

open Fallible

/-! ## Blocks -/

/-- Where a block comes from, the placements being counted from one. -/
inductive Marker where
  | wholeGrid (rule : String)
  | shared (rule : String)
  | placed (rule : String) (position : Nat)
deriving DecidableEq

def Marker.text : Marker → String
  | wholeGrid rule => "global rule: " ++ rule
  | shared rule => "local rule: " ++ rule ++ " (shared definitions)"
  | placed rule position => "local rule: " ++ rule ++ " (instance " ++ Text.natText position ++ ")"

/-- A marker with remarks and the emissions behind them. -/
structure RuleBlock where
  marker : Marker
  remarks : List String := []
  body : List Emission

def RuleBlock.emission (block : RuleBlock) : Emission :=
  .stack ((comment block.marker.text :: block.remarks).map Emission.plain ++ block.body)

namespace Rule

variable (rule : Rule) (placements : List Placement) (grid : Grid)

/-- What is written of a rule for groups: what its generator produces, or a neutral constraint in
place of a rule that is skipped. -/
def body (groups : List Group) (position : Option Nat) : Except Error (List Emission) :=
  if rule.isSkipped grid then .ok [skipped rule]
  else generated rule groups placements grid position

def ownFragment : List String :=
  if rule.isSkipped grid then [] else rule.fragment.toList.map Text.strip

def wholeBlock : Except Error RuleBlock :=
  (rule.body placements grid [] none).map fun body ↦
    ⟨.wholeGrid rule.id, [], (rule.ownFragment grid).map Emission.plain ++ body⟩

/-- The block of a fragment that placements share. -/
def fragmentBlock (fragment : String) : RuleBlock :=
  ⟨.shared rule.id, [], [.plain (Text.strip fragment)]⟩

def isFirstAt (position : Nat) : Bool := (placements.take (position - 1)).all (·.rule != rule.id)

/-- The fragment that stands before a placement. -/
def sharedFragment (position : Nat) : Option String :=
  if rule.isFirstAt placements position && !rule.isSkipped grid then rule.fragment else none

def remarks (groups : List Group) : Except Error (List String) :=
  (groups.zipIdx 1).mapM fun (group, index) ↦ groupLine rule index group

def placedBlocks (groups : List Group) (position : Nat) : Except Error (List RuleBlock) := do
  let remarks ← rule.remarks groups
  let body ← rule.body placements grid groups (some position)
  return (rule.sharedFragment placements grid position).toList.map rule.fragmentBlock ++
    [⟨.placed rule.id position, remarks, body⟩]

end Rule

section Equations

variable {placements : List Placement} {grid : Grid} {rule : Rule}

theorem selectedBlock_eq : selectedBlock placements grid rule =
    (rule.wholeBlock placements grid).map RuleBlock.emission := by
  unfold selectedBlock Rule.wholeBlock Rule.body Rule.ownFragment
  cases rule.isSkipped grid with
  | true => rfl
  | false =>
    simp only [Bool.false_eq_true, if_false, List.map_map]
    cases generated rule [] placements grid none <;> rfl

theorem placementBlock_eq {placement : Placement} (position : Nat) :
    placementBlock placements grid rule position placement =
      (rule.remarks placement.groups >>= fun remarks ↦
        (rule.body placements grid placement.groups (some position)).map fun body ↦
          RuleBlock.emission ⟨.placed rule.id position, remarks, body⟩) := by
  cases hremarks : rule.remarks placement.groups with
  | error e =>
    unfold placementBlock
    change (rule.remarks placement.groups >>= _) = _
    rw [hremarks]
    rfl
  | ok remarks =>
    rw [placementBlock_of_lines hremarks]
    rfl

theorem placementBlocks_eq {placement : Placement} (hid : placement.rule = rule.id)
    (position : Nat) : placementBlocks placements grid rule position placement =
      (rule.placedBlocks placements grid placement.groups position).map
        (List.map RuleBlock.emission) := by
  unfold placementBlocks Rule.placedBlocks Rule.sharedFragment Rule.isFirstAt
  rw [placementBlock_eq, hid]
  cases rule.remarks placement.groups with
  | error e => rfl
  | ok remarks =>
    cases rule.body placements grid placement.groups (some position) with
    | error e => rfl
    | ok body =>
      cases rule.fragment with
      | none => simp [Except.map]
      | some fragment =>
        simp only [ok_bind, Except.map, pure_eq_ok, List.map_append, List.map_map, List.map_cons,
          List.map_nil]
        split <;> rfl

end Equations

/-! ## Sections -/

variable {puzzle : Puzzle} {grid : Grid} {selection : Selection}

def Puzzle.wholeBlocks (puzzle : Puzzle) (grid : Grid) (selection : Selection) :
    Except Error (List RuleBlock) :=
  (puzzle.selected.filterMap selection.find?).mapM fun rule ↦
    rule.wholeBlock puzzle.placements grid

def Puzzle.blocksAt (puzzle : Puzzle) (grid : Grid) (selection : Selection)
    (placed : Placement × Nat) : Except Error (List RuleBlock) :=
  match selection.find? (.text placed.1.rule) with
  | some rule => rule.placedBlocks puzzle.placements grid placed.1.groups placed.2
  | none => .ok []

def Puzzle.blocks (puzzle : Puzzle) (grid : Grid) (selection : Selection) :
    Except Error (List RuleBlock) := do
  let whole ← puzzle.wholeBlocks grid selection
  let placed ← (puzzle.placements.zipIdx 1).mapM (puzzle.blocksAt grid selection)
  return whole ++ placed.flatten

theorem selectedBlocks_eq {catalog : Catalog}
    (h : Selection.Accepted catalog puzzle grid selection) :
    selectedBlocks puzzle grid selection =
      (puzzle.wholeBlocks grid selection).map (List.map RuleBlock.emission) := by
  rw [selectedBlocks, h.mapM_get, ok_bind, Puzzle.wholeBlocks, ← mapM_map_eq]
  exact mapM_congr fun rule _ ↦ selectedBlock_eq

theorem allPlacementBlocks_eq {catalog : Catalog}
    (h : Selection.Accepted catalog puzzle grid selection) :
    allPlacementBlocks puzzle grid selection =
      ((puzzle.placements.zipIdx 1).mapM (puzzle.blocksAt grid selection)).map fun placed ↦
        placed.flatten.map RuleBlock.emission := by
  unfold allPlacementBlocks
  rw [mapM_congr (g := fun x ↦
    (puzzle.blocksAt grid selection x).map (List.map RuleBlock.emission)) ?_, mapM_map_eq]
  · cases (puzzle.placements.zipIdx 1).mapM (puzzle.blocksAt grid selection) with
    | error e => rfl
    | ok placed => simp [Except.map]
  · intro x hx
    obtain ⟨rule, hfind, _, hid⟩ := h.exists_find?_placed (List.fst_mem_of_mem_zipIdx hx)
    unfold Puzzle.blocksAt
    dsimp only
    rw [Selection.get_eq_ok.2 hfind, hfind]
    exact placementBlocks_eq hid x.2

/-- The first sections of a document: the grid, the variable kinds and the clues. -/
def Puzzle.opening (puzzle : Puzzle) (grid : Grid) (clues : List String) : List String :=
  prelude :: declareGrid grid :: puzzle.kinds.map declareKind ++ clueSections clues

theorem kindSections_eq {kinds : List VariableKind} {texts : List String}
    (h : kinds.mapM kindSection = .ok texts) : texts = kinds.map declareKind := by
  have hflat := flatMap_of_mapM_eq_ok (g := fun text ↦ [text]) (k := fun kind ↦ [declareKind kind])
    h fun kind _ text htext ↦ by
      unfold kindSection at htext
      split at htext
      · obtain rfl := Except.ok.inj htext
        rfl
      · simp at htext
  simpa [← List.map_eq_flatMap] using hflat

/-- The sections of a puzzle that has passed validation, and the size of its grid, which can be
written. -/
theorem sections_eq_ok {catalog : Catalog} (h : Selection.Accepted catalog puzzle grid selection)
    {parts : List Emission} (hparts : sections puzzle grid selection = .ok parts) :
    ∃ clues blocks, Error.isWritableSize grid.rows grid.cols = true ∧
      puzzle.clueLines = .ok clues ∧ puzzle.blocks grid selection = .ok blocks ∧
      parts = (puzzle.opening grid clues).map Emission.plain ++ blocks.map RuleBlock.emission ++
        [.plain solveItem] := by
  obtain ⟨clues, hclues, hsections⟩ := exists_sections_eq h
  rw [hsections, selectedBlocks_eq h, allPlacementBlocks_eq h] at hparts
  obtain ⟨size, hgrid, hparts⟩ := bind_eq_ok.1 hparts
  obtain ⟨kinds, hkinds, hparts⟩ := bind_eq_ok.1 hparts
  obtain ⟨_, hmapped, hparts⟩ := bind_eq_ok.1 hparts
  obtain ⟨selected, hselected, rfl⟩ := map_eq_ok.1 hmapped
  obtain ⟨_, hmapped, rfl⟩ := map_eq_ok.1 hparts
  obtain ⟨placed, hplaced, rfl⟩ := map_eq_ok.1 hmapped
  obtain rfl := kindSections_eq hkinds
  obtain ⟨⟨_, hsize⟩, rfl⟩ := gridSection_eq_ok_iff.1 hgrid
  refine ⟨clues, selected ++ placed.flatten, hsize, hclues, ?_, ?_⟩
  · rw [Puzzle.blocks, hselected, ok_bind, hplaced]
    rfl
  · simp [Puzzle.opening]

/-! ## Markers -/

def Rule.markersAt (rule : Rule) (placements : List Placement) (grid : Grid) (position : Nat) :
    List Marker :=
  (rule.sharedFragment placements grid position).toList.map (fun _ ↦ .shared rule.id) ++
    [.placed rule.id position]

def Puzzle.markers (puzzle : Puzzle) (grid : Grid) (selection : Selection) : List Marker :=
  (puzzle.selected.filterMap selection.find?).map (fun rule ↦ .wholeGrid rule.id) ++
    (puzzle.placements.zipIdx 1).flatMap fun (placement, position) ↦
      (selection.find? (.text placement.rule)).toList.flatMap fun rule ↦
        rule.markersAt puzzle.placements grid position

/-- What is known of a block of a puzzle. -/
inductive RuleBlock.IsOf (puzzle : Puzzle) (grid : Grid) (selection : Selection) : RuleBlock → Prop
  | wholeGrid {rule : Rule} {body : List Emission} (hrule : rule ∈ selection)
    (hscope : rule.scope = .wholeGrid)
    (hbody : rule.body puzzle.placements grid [] none = .ok body) :
    IsOf puzzle grid selection
      ⟨.wholeGrid rule.id, [], (rule.ownFragment grid).map Emission.plain ++ body⟩
  | shared {rule : Rule} {fragment : String} (hrule : rule ∈ selection)
    (hscope : rule.scope = .placed) (hfragment : rule.fragment = some fragment)
    (hskipped : rule.isSkipped grid = false) :
    IsOf puzzle grid selection (rule.fragmentBlock fragment)
  | placed {rule : Rule} {placement : Placement} {position : Nat} {remarks : List String}
    {body : List Emission} (hrule : rule ∈ selection) (hscope : rule.scope = .placed)
    (hplacement : (placement, position) ∈ puzzle.placements.zipIdx 1)
    (hid : placement.rule = rule.id) (hremarks : rule.remarks placement.groups = .ok remarks)
    (hbody : rule.body puzzle.placements grid placement.groups (some position) = .ok body) :
    IsOf puzzle grid selection ⟨.placed rule.id position, remarks, body⟩

theorem exists_blocksAt {blocks : List RuleBlock}
    (hblocks : puzzle.blocks grid selection = .ok blocks) {placement : Placement}
    (hplacement : placement ∈ puzzle.placements) :
    ∃ position own, puzzle.blocksAt grid selection (placement, position) = .ok own := by
  obtain ⟨_, _, hblocks⟩ := bind_eq_ok.1 hblocks
  obtain ⟨placed, hplaced, _⟩ := bind_eq_ok.1 hblocks
  obtain ⟨position, hposition⟩ := Selection.exists_mem_zipIdx hplacement 1
  obtain ⟨own, _, hown⟩ := forall_of_mapM_eq_ok hplaced _ hposition
  exact ⟨position, own, hown⟩

theorem placedBlocks_eq_ok {rule : Rule} {placements : List Placement} {groups : List Group}
    {position : Nat} {blocks : List RuleBlock}
    (h : rule.placedBlocks placements grid groups position = .ok blocks) :
    ∃ remarks body, rule.remarks groups = .ok remarks ∧
      rule.body placements grid groups (some position) = .ok body ∧
      blocks = (rule.sharedFragment placements grid position).toList.map rule.fragmentBlock ++
        [⟨.placed rule.id position, remarks, body⟩] := by
  obtain ⟨remarks, hremarks, h⟩ := bind_eq_ok.1 h
  obtain ⟨body, hbody, h⟩ := bind_eq_ok.1 h
  exact ⟨remarks, body, hremarks, hbody, (Except.ok.inj h).symm⟩

theorem sharedFragment_eq_some {rule : Rule} {placements : List Placement} {position : Nat}
    {fragment : String} (h : rule.sharedFragment placements grid position = some fragment) :
    rule.fragment = some fragment ∧ rule.isSkipped grid = false ∧
      rule.isFirstAt placements position = true := by
  unfold Rule.sharedFragment at h
  split at h
  next hcond =>
    simp only [Bool.and_eq_true, Bool.not_eq_true'] at hcond
    exact ⟨h, hcond.2, hcond.1⟩
  next => simp at h

section Accepted

variable {catalog : Catalog} (h : Selection.Accepted catalog puzzle grid selection)

include h

/-- The block of a selected rule. -/
theorem wholeBlock_eq_ok {id : Value} (hid : id ∈ puzzle.selected) {rule : Rule}
    (hfind : selection.find? id = some rule) {block : RuleBlock}
    (hblock : rule.wholeBlock puzzle.placements grid = .ok block) :
    block.marker = .wholeGrid rule.id ∧ block.IsOf puzzle grid selection := by
  obtain ⟨body, hbody, rfl⟩ := map_eq_ok.1 hblock
  exact ⟨rfl, .wholeGrid (List.mem_of_find?_eq_some hfind) (h.find?_selected hid hfind).2 hbody⟩

/-- The blocks of a placement are made of the rule that is found for it. -/
theorem exists_placedBlocks {placement : Placement} (hplacement : placement ∈ puzzle.placements)
    {position : Nat} {own : List RuleBlock}
    (hown : puzzle.blocksAt grid selection (placement, position) = .ok own) :
    ∃ rule ∈ selection, selection.find? (.text placement.rule) = some rule ∧
      placement.rule = rule.id ∧ ∃ remarks body, rule.remarks placement.groups = .ok remarks ∧
        rule.body puzzle.placements grid placement.groups (some position) = .ok body ∧
        own = (rule.sharedFragment puzzle.placements grid position).toList.map
          rule.fragmentBlock ++ [⟨.placed rule.id position, remarks, body⟩] := by
  obtain ⟨rule, hfind, hrule, hid⟩ := h.exists_find?_placed hplacement
  unfold Puzzle.blocksAt at hown
  rw [hfind] at hown
  exact ⟨rule, hrule, hfind, hid, placedBlocks_eq_ok hown⟩

/-- The blocks of a placement: before its own stands that of the fragment, if any. -/
theorem blocksAt_eq_ok {placed : Placement × Nat} (hplaced : placed ∈ puzzle.placements.zipIdx 1)
    {own : List RuleBlock} (hown : puzzle.blocksAt grid selection placed = .ok own) :
    ∃ rule ∈ selection, rule.scope = .placed ∧ selection.find? (.text placed.1.rule) = some rule ∧
      placed.1.rule = rule.id ∧ (∀ block ∈ own, block.IsOf puzzle grid selection) ∧
      ∃ block : RuleBlock, block.marker = .placed rule.id placed.2 ∧
        own = (rule.sharedFragment puzzle.placements grid placed.2).toList.map rule.fragmentBlock ++
          [block] := by
  have hplacement : placed.1 ∈ puzzle.placements := List.fst_mem_of_mem_zipIdx hplaced
  obtain ⟨rule, hrule, hfind, hid, remarks, body, hremarks, hbody, rfl⟩ :=
    exists_placedBlocks h hplacement hown
  have hscope := h.find?_placed hplacement hfind
  refine ⟨rule, hrule, hscope, hfind, hid, fun block hblock ↦ ?_, _, rfl, rfl⟩
  obtain hblock | hblock := List.mem_append.1 hblock
  · obtain ⟨fragment, hfragment, rfl⟩ := List.mem_map.1 hblock
    obtain ⟨hfragment, hskipped, _⟩ := sharedFragment_eq_some (Option.mem_toList.1 hfragment)
    exact .shared hrule hscope hfragment hskipped
  · obtain rfl := List.mem_singleton.1 hblock
    exact .placed hrule hscope hplaced hid hremarks hbody

/-- The blocks of a puzzle that has passed validation bear its markers. -/
theorem blocks_eq_ok {blocks : List RuleBlock}
    (hblocks : puzzle.blocks grid selection = .ok blocks) :
    blocks.map RuleBlock.marker = puzzle.markers grid selection ∧
      ∀ block ∈ blocks, block.IsOf puzzle grid selection := by
  obtain ⟨whole, hwhole, hblocks⟩ := bind_eq_ok.1 hblocks
  obtain ⟨placed, hplaced, hblocks⟩ := bind_eq_ok.1 hblocks
  obtain rfl := Except.ok.inj hblocks
  constructor
  · have hselected : whole.flatMap (fun block ↦ [block.marker]) =
        (puzzle.selected.filterMap selection.find?).flatMap fun rule ↦ [.wholeGrid rule.id] :=
      flatMap_of_mapM_eq_ok hwhole fun rule hrule block hblock ↦ by
        obtain ⟨id, hid, hfind⟩ := List.mem_filterMap.1 hrule
        rw [(wholeBlock_eq_ok h hid hfind hblock).1]
    have hmore := flatMap_of_mapM_eq_ok (g := List.map RuleBlock.marker)
      (k := fun x ↦ (selection.find? (.text x.1.rule)).toList.flatMap fun rule ↦
        rule.markersAt puzzle.placements grid x.2) hplaced fun x hx own hown ↦ by
          obtain ⟨rule, _, _, hfind, _, _, block, hmarker, rfl⟩ := blocksAt_eq_ok h hx hown
          simp [hfind, Rule.markersAt, hmarker, Rule.fragmentBlock, Function.comp_def]
    rw [List.map_append, List.map_flatten, ← List.flatMap_def, hmore, List.map_eq_flatMap,
      hselected, ← List.map_eq_flatMap]
    rfl
  · intro block hblock
    obtain hblock | hblock := List.mem_append.1 hblock
    · obtain ⟨rule, hrule, hmade⟩ := exists_mem_of_mapM_eq_ok hwhole hblock
      obtain ⟨id, hid, hfind⟩ := List.mem_filterMap.1 hrule
      exact (wholeBlock_eq_ok h hid hfind hmade).2
    · obtain ⟨own, hmem, hblock⟩ := List.mem_flatten.1 hblock
      obtain ⟨x, hx, hmade⟩ := exists_mem_of_mapM_eq_ok hplaced hmem
      obtain ⟨_, _, _, _, _, hall, _⟩ := blocksAt_eq_ok h hx hmade
      exact hall block hblock

end Accepted

end GridPuzzle
