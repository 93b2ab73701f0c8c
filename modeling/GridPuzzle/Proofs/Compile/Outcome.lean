import GridPuzzle.Proofs.Compile.Calls
import GridPuzzle.Proofs.Document.Check
import GridPuzzle.Proofs.Grid.Region
import GridPuzzle.Proofs.Text.Decimal

/-!
# The outcome of compiling

A part of a document asks for calls if it is some function of their answers, whatever the
generators are, and fails with the first of the calls that fails. Every part of the document of a
puzzle that has passed validation asks for the calls that belong to it, and two parts one after the
other ask for the calls of the first and then for those of the second.
-/

namespace GridPuzzle

open Fallible

/-! ## Numbers and sizes -/

/-- No number of the puzzle is too long to be written. -/
structure Puzzle.IsWritable (puzzle : Puzzle) (grid : Grid) : Prop where
  size : Error.isWritableSize grid.rows grid.cols = true
  domains : ∀ kind ∈ puzzle.kinds, kind.domain.isWritable = true
  values : ∀ placement ∈ puzzle.placements, ∀ group ∈ placement.groups,
    group.value.toValue.isWritable = true

/-- What is reported when a number is too long or a row cannot be counted. -/
def Error.IsLimit (e : Error) : Prop := e = .wrongValue ∨ e = .misuse .overflow

/-! ## Asking for calls -/

variable {α β γ : Type} {placements : List Placement} {grid : Grid}

/-- The texts that other generators answer calls with, up to the first failure. -/
def replies (f : Replacement) (placements : List Placement) (grid : Grid)
    (calls : List GeneratorCall) : Except Error (List Emission) :=
  calls.mapM fun call ↦ (call.replace f).outcome placements grid

/-- A computation is a function of the replies to calls. -/
def Asks (placements : List Placement) (grid : Grid) (calls : List GeneratorCall)
    (x : Replacement → Except Error α) : Prop :=
  ∃ assemble : List Emission → α, ∀ f,
    x f = (replies f placements grid calls).map assemble

namespace Asks

theorem pure (a : α) : Asks placements grid [] fun _ ↦ .ok a := ⟨fun _ ↦ a, fun _ ↦ rfl⟩

theorem map {calls : List GeneratorCall} {x : Replacement → Except Error α}
    (hx : Asks placements grid calls x) (g : α → β) :
    Asks placements grid calls fun f ↦ (x f).map g := by
  obtain ⟨assemble, hx⟩ := hx
  refine ⟨g ∘ assemble, fun f ↦ ?_⟩
  simp only [hx]
  cases replies f placements grid calls <;> rfl

/-- Two computations one after the other ask for the calls of both in this order. -/
theorem seq {first second : List GeneratorCall} {x : Replacement → Except Error α}
    {y : Replacement → Except Error β} (hx : Asks placements grid first x)
    (hy : Asks placements grid second y) (g : α → β → γ) :
    Asks placements grid (first ++ second) fun f ↦ x f >>= fun a ↦ (y f).map (g a) := by
  obtain ⟨assembleFirst, hx⟩ := hx
  obtain ⟨assembleSecond, hy⟩ := hy
  refine ⟨fun answers ↦ g (assembleFirst (answers.take first.length))
    (assembleSecond (answers.drop first.length)), fun f ↦ ?_⟩
  have happend : replies f placements grid (first ++ second) =
      (replies f placements grid first >>= fun answers ↦
        (replies f placements grid second).map (answers ++ ·)) := List.mapM_append
  simp only [hx, hy, happend]
  cases hfirst : replies f placements grid first with
  | error e => rfl
  | ok answers =>
    have hlength : first.length = answers.length := (mapM_eq_ok.1 hfirst).length_eq
    cases replies f placements grid second with
    | error e => rfl
    | ok rest => simp [Except.map, hlength]

/-- A list asks for the calls of its members, which are listed first. -/
theorem mapM {l : List β} {calls : β → Except Error (List GeneratorCall)}
    {x : Replacement → β → Except Error α}
    (h : ∀ b ∈ l, ∃ own, calls b = .ok own ∧ Asks placements grid own fun f ↦ x f b) :
    ∃ all, l.mapM calls = .ok all ∧ Asks placements grid all.flatten fun f ↦ l.mapM (x f) := by
  induction l with
  | nil => exact ⟨[], rfl, Asks.pure []⟩
  | cons b l ih =>
    obtain ⟨⟨own, hown, hfirst⟩, hmembers⟩ := List.forall_mem_cons.1 h
    obtain ⟨all, hall, hrest⟩ := ih hmembers
    refine ⟨own :: all, ?_, ?_⟩
    · rw [List.mapM_cons, hown, hall]
      rfl
    rw [List.flatten_cons]
    convert hfirst.seq hrest List.cons using 2 with f
    rw [List.mapM_cons]
    cases x f b <;> cases l.mapM (x f) <;> rfl

/-- The first call that fails decides the outcome. -/
theorem eq_error {before after : List GeneratorCall} {call : GeneratorCall}
    {x : Replacement → Except Error α} (hx : Asks placements grid (before ++ call :: after) x)
    (hbefore : ∀ earlier ∈ before, ∃ emission, earlier.answer placements grid = .ok emission)
    {fault : Fault} (hcall : call.answer placements grid = .error fault) :
    x (fun _ generator ↦ generator) =
      .error (.generatorFailed call.rule call.position fault.reason) := by
  obtain ⟨assemble, hx⟩ := hx
  obtain ⟨answers, hanswers⟩ := exists_mapM_eq_ok
    (f := fun earlier : GeneratorCall ↦ earlier.outcome placements grid) fun earlier hearlier ↦ by
      obtain ⟨emission, h⟩ := hbefore earlier hearlier
      exact ⟨emission, by simp [GeneratorCall.outcome, h]⟩
  have hfails : call.outcome placements grid =
      .error (.generatorFailed call.rule call.position fault.reason) := by
    simp [GeneratorCall.outcome, hcall]
  have hreplies : replies (fun _ generator ↦ generator) placements grid (before ++ call :: after) =
      .error (.generatorFailed call.rule call.position fault.reason) := by
    change (before ++ call :: after).mapM (fun c ↦ c.outcome placements grid) = _
    rw [List.mapM_append, hanswers, List.mapM_cons, hfails]
    rfl
  rw [hx, hreplies]
  rfl

theorem exists_eq_ok {calls : List GeneratorCall} {x : Replacement → Except Error α}
    (hx : Asks placements grid calls x)
    (hcalls : ∀ call ∈ calls, ∃ emission, call.answer placements grid = .ok emission) :
    ∃ a, x (fun _ generator ↦ generator) = .ok a := by
  obtain ⟨assemble, hx⟩ := hx
  obtain ⟨answers, hanswers⟩ := exists_mapM_eq_ok
    (f := fun call : GeneratorCall ↦ call.outcome placements grid) fun call hcall ↦ by
      obtain ⟨emission, h⟩ := hcalls call hcall
      exact ⟨emission, by simp [GeneratorCall.outcome, h]⟩
  exact ⟨assemble answers, by rw [hx]; exact map_eq_ok.2 ⟨answers, hanswers, rfl⟩⟩

/-- Answers to calls that are not made do not matter. -/
theorem congr {calls : List GeneratorCall} {x : Replacement → Except Error α}
    (hx : Asks placements grid calls x) {f : Replacement}
    (hf : ∀ call ∈ GeneratorCall.made placements grid calls,
      (call.replace f).answer placements grid = call.answer placements grid) :
    x f = x fun _ generator ↦ generator := by
  obtain ⟨assemble, hx⟩ := hx
  have hreplies : replies f placements grid calls =
      replies (fun _ generator ↦ generator) placements grid calls := by
    clear hx
    change _ = calls.mapM fun call ↦ call.outcome placements grid
    unfold replies
    induction calls with
    | nil => rfl
    | cons call rest ih =>
      unfold GeneratorCall.made at hf
      rw [List.mapM_cons, List.mapM_cons]
      cases hcall : call.answer placements grid with
      | error fault =>
        have hsame := hf call (by simp [hcall])
        simp only [GeneratorCall.outcome, hsame, hcall]
        rfl
      | ok emission =>
        simp only [hcall, List.mem_cons, forall_eq_or_imp] at hf
        have hrest := ih hf.2
        simp only [GeneratorCall.outcome, hf.1, hcall, ok_bind] at hrest ⊢
        rw [hrest]
  rw [hx, hx, hreplies]

end Asks

/-! ## Sections that do not ask -/

theorem isWritablePlace_of_contains (hsize : Error.isWritableSize grid.rows grid.cols = true)
    {cell : Cell} (hcell : grid.contains cell = true) :
    isWritablePlace cell.row cell.col = true := by
  simp only [Error.isWritableSize, Text.isWritable, Bool.and_eq_true, decide_eq_true_eq] at hsize
  simp only [Grid.contains, Grid.containsAt, Bool.and_eq_true, decide_eq_true_eq] at hcell
  have hrow : ((cell.row : Int) + 1).natAbs < Text.leastUnwritable := by omega
  have hcol : ((cell.col : Int) + 1).natAbs < Text.leastUnwritable := by omega
  simp [isWritablePlace, toEmitted, Text.isWritable, hrow, hcol]

/-- Every required kind of a rule that fits a puzzle is of the family of a kind of the puzzle. -/
theorem exists_family {rule : Rule} {kinds : List VariableKind} {required : String}
    (hmissing : rule.missingKinds (kinds.map VariableKind.name) = [])
    (hrequired : required ∈ rule.requiredKinds) :
    ∃ kind ∈ kinds, family required = family kind.name := by
  have hfound := List.filter_eq_nil_iff.1 hmissing required hrequired
  simp only [List.map_map, Bool.and_eq_true, Bool.not_eq_true', not_and, Bool.not_eq_false,
    List.contains_iff_mem, List.mem_map, Function.comp] at hfound
  by_cases hname : ∃ own ∈ kinds, own.name = required
  · obtain ⟨own, hown, rfl⟩ := hname
    exact ⟨own, hown, rfl⟩
  · obtain ⟨own, hown, hfamily⟩ := hfound (by simpa using hname)
    exact ⟨own, hown, hfamily.symm⟩

theorem exists_arrayName {rule : Rule} {kinds : List VariableKind} {kind : String}
    (hmissing : rule.missingKinds (kinds.map VariableKind.name) = [])
    (hkind : rule.primaryKind? = some kind) : ∃ array, arrayName kind = .ok array := by
  obtain ⟨own, _, hfamily⟩ := exists_family hmissing (List.mem_of_head? hkind)
  exact ⟨own.array, VariableKind.arrayName_of_family hfamily⟩

theorem groupLine_eq_ok {rule : Rule} {kinds : List VariableKind}
    (hmissing : rule.missingKinds (kinds.map VariableKind.name) = [])
    (hsize : Error.isWritableSize grid.rows grid.cols = true) {group : Group}
    (hcells : ∀ cell ∈ group.cells, grid.contains cell = true)
    (hvalue : group.value.toValue.isWritable = true) (index : Nat) :
    ∃ line, groupLine rule index group = .ok line := by
  have hgroup : ∃ cells, groupCells rule group = .ok cells := by
    unfold groupCells
    cases hkind : rule.primaryKind? with
    | none => exact ⟨_, rfl⟩
    | some kind =>
      obtain ⟨array, harray⟩ := exists_arrayName hmissing hkind
      have hrefs : ∃ refs, cellRefs kind (group.cells.map fun cell ↦
          (Int.ofNat cell.row, Int.ofNat cell.col)) = .ok refs := by
        refine exists_mapM_eq_ok fun place hplace ↦ ?_
        obtain ⟨cell, hcell, rfl⟩ := List.mem_map.1 hplace
        have hwritable := isWritablePlace_of_contains hsize (hcells cell hcell)
        exact ⟨elementText array cell.row cell.col, by simp [cellRef, harray, hwritable]⟩
      obtain ⟨refs, hrefs⟩ := hrefs
      exact ⟨Text.join ", " refs, by dsimp only; rw [hrefs]; rfl⟩
  obtain ⟨cells, hcells⟩ := hgroup
  unfold groupLine
  rw [hcells, ok_bind, hvalue]
  exact ⟨_, rfl⟩

theorem gridSection_of_isHeld (hheld : grid.IsHeld) : gridSection grid =
    if Error.isWritableSize grid.rows grid.cols = true then .ok (declareGrid grid)
    else .error .wrongValue := by
  unfold gridSection
  cases hregions : grid.regions.isNone with
  | false => simp
  | true =>
    have hcols := hheld.resolve_left (by simpa using hregions)
    simp [Grid.checkWidth_of_lt (Int.natCast_pos.2 grid.cols_pos) hcols]

/-- A row of a map of zeros that cannot be counted is the first thing to fail. -/
theorem gridSection_eq_error (hheld : ¬grid.IsHeld) :
    gridSection grid = .error (.misuse .overflow) := by
  obtain ⟨hregions, hcols⟩ := not_or.1 hheld
  have hnone : grid.regions.isNone = true := by simpa using hregions
  have hwidth := Grid.checkWidth_of_le (Int.natCast_pos.2 grid.rows_pos) (not_lt.1 hcols)
  simp [gridSection, hnone, hwidth]

theorem gridSection_eq_ok_iff {text : String} : gridSection grid = .ok text ↔
    (grid.IsHeld ∧ Error.isWritableSize grid.rows grid.cols = true) ∧
      text = declareGrid grid := by
  by_cases hheld : grid.IsHeld
  · rw [gridSection_of_isHeld hheld]
    split <;> simp [*, eq_comm]
  · simp [gridSection_eq_error hheld, hheld]

def clueSections (lines : List String) : List String :=
  if lines.isEmpty then [] else [Text.unlines (comment "clues" :: lines)]

def Puzzle.clueLines (puzzle : Puzzle) : Except Error (List String) :=
  puzzle.clues.mapM fun clue ↦ (puzzle.kindOf clue).map (clueLine · clue)

theorem clueBlock_eq (puzzle : Puzzle) : clueBlock puzzle =
    puzzle.clueLines.map fun lines ↦ Text.unlines (comment "clues" :: lines) := by
  change (puzzle.clueLines >>= fun lines ↦ pure (Text.unlines (comment "clues" :: lines))) = _
  cases puzzle.clueLines <;> rfl

theorem kindOf_eq_ok {puzzle : Puzzle} {clue : Clue} {kind : VariableKind} :
    puzzle.kindOf clue = .ok kind ↔ puzzle.kind? clue.kind = .ok (some kind) := by
  unfold Puzzle.kindOf
  cases puzzle.kind? clue.kind with
  | error e => simp
  | ok found => cases found <;> simp

/-- The kinds of the clues of a puzzle that has passed validation are looked up with success. -/
theorem clueLines_eq_ok {catalog : Catalog} {puzzle : Puzzle} {selection : Selection}
    (h : Selection.Accepted catalog puzzle grid selection) :
    ∃ lines, puzzle.clueLines = .ok lines := by
  apply exists_mapM_eq_ok
  intro clue hclue
  obtain ⟨kind, hkind, _⟩ := h.clues clue hclue
  exact ⟨clueLine kind clue, by rw [kindOf_eq_ok.2 hkind]; rfl⟩

theorem isEmpty_clueLines {puzzle : Puzzle} {lines : List String}
    (h : puzzle.clueLines = .ok lines) : lines.isEmpty = puzzle.clues.isEmpty := by
  have hlength := (mapM_eq_ok.1 h).length_eq
  cases hclues : puzzle.clues <;> cases lines <;> simp_all

/-! ## Blocks that ask -/

theorem asks_generated {rule : Rule} (hskipped : rule.isSkipped grid = false) (groups : List Group)
    (position : Option Nat) : Asks placements grid (rule.calls grid groups position) fun f ↦
      generated (rule.replace f) groups placements grid position := by
  unfold Rule.calls
  rw [hskipped]
  cases hgenerator : rule.generator with
  | none =>
    refine ⟨fun _ ↦ [], fun f ↦ ?_⟩
    simp [generated, Rule.replace, hgenerator, replies, Except.map]
  | some generator =>
    refine ⟨fun answers ↦ answers.map tidy, fun f ↦ ?_⟩
    have hreplaced : (rule.replace f).generator = some (f rule.id generator) := by
      simp [Rule.replace, hgenerator]
    unfold generated
    simp only [hreplaced, Bool.false_eq_true, if_false, Option.toList_some, List.map_cons,
      List.map_nil, replies, List.mapM_cons, List.mapM_nil, GeneratorCall.outcome,
      GeneratorCall.answer, GeneratorCall.replace, Rule.replace_id]
    cases f rule.id generator groups placements grid <;> rfl

theorem asks_selectedBlock (rule : Rule) : Asks placements grid (rule.calls grid [] none) fun f ↦
    selectedBlock placements grid (rule.replace f) := by
  have hid (f : Replacement) : (rule.replace f).isSkipped grid = rule.isSkipped grid := rfl
  have hfragment (f : Replacement) : (rule.replace f).fragment = rule.fragment := rfl
  have hskip (f : Replacement) : skipped (rule.replace f) = skipped rule := rfl
  unfold selectedBlock
  simp only [hid, hfragment, hskip, Rule.replace_id]
  cases hskipped : rule.isSkipped grid with
  | true =>
    have hcalls : rule.calls grid [] none = [] := by simp [Rule.calls, hskipped]
    rw [hcalls]
    exact Asks.pure _
  | false =>
    convert (asks_generated hskipped [] none).map fun body ↦ Emission.stack
      (.plain (comment ("global rule: " ++ rule.id)) ::
        rule.fragment.toList.map (fun text ↦ Emission.plain (Text.strip text)) ++ body)
      using 2 with f
    cases generated (rule.replace f) [] placements grid none <;> rfl

/-- A placement whose groups can be written fails only where its generator does. -/
theorem placementBlock_of_lines {rule : Rule} {placement : Placement} {lines : List String}
    (hlines : (placement.groups.zipIdx 1).mapM (fun (group, index) ↦ groupLine rule index group) =
      .ok lines) (position : Nat) : placementBlock placements grid rule position placement =
        ((if rule.isSkipped grid then .ok [skipped rule]
          else generated rule placement.groups placements grid (some position)).map fun body ↦
            .stack ((comment ("local rule: " ++ rule.id ++ " (instance " ++ Text.natText position ++
              ")") :: lines).map Emission.plain ++ body)) := by
  unfold placementBlock
  rw [hlines, ok_bind]
  split
  · rfl
  · cases generated rule placement.groups placements grid (some position) <;> rfl

theorem asks_placementBlock {rule : Rule} {placement : Placement} (position : Nat)
    (hlines : ∀ group ∈ placement.groups, ∀ index, ∃ line, groupLine rule index group = .ok line) :
    Asks placements grid (rule.calls grid placement.groups (some position)) fun f ↦
      placementBlock placements grid (rule.replace f) position placement := by
  obtain ⟨lines, hlines⟩ : ∃ lines, (placement.groups.zipIdx 1).mapM (fun (group, index) ↦
      groupLine rule index group) = .ok lines :=
    exists_mapM_eq_ok fun x hx ↦ hlines x.1 (List.fst_mem_of_mem_zipIdx hx) x.2
  have hblock (f : Replacement) := @placementBlock_of_lines placements grid (rule.replace f)
    placement lines hlines position
  have hid (f : Replacement) : (rule.replace f).isSkipped grid = rule.isSkipped grid := rfl
  have hskip (f : Replacement) : skipped (rule.replace f) = skipped rule := rfl
  simp only [hblock, hid, hskip, Rule.replace_id]
  refine Asks.map ?_ _
  cases hskipped : rule.isSkipped grid with
  | true =>
    have hcalls : rule.calls grid placement.groups (some position) = [] := by
      simp [Rule.calls, hskipped]
    simp only [hcalls, if_true]
    exact Asks.pure _
  | false =>
    simp only [Bool.false_eq_true, if_false]
    exact asks_generated hskipped placement.groups (some position)

theorem asks_placementBlocks {rule : Rule} {placement : Placement} (position : Nat)
    (hlines : ∀ group ∈ placement.groups, ∀ index, ∃ line, groupLine rule index group = .ok line) :
    Asks placements grid (rule.calls grid placement.groups (some position)) fun f ↦
      placementBlocks placements grid (rule.replace f) position placement := by
  have hid (f : Replacement) : (rule.replace f).isSkipped grid = rule.isSkipped grid := rfl
  have hfragment (f : Replacement) : (rule.replace f).fragment = rule.fragment := rfl
  have hshared (f : Replacement) : sharedBlock (rule.replace f) = sharedBlock rule := rfl
  unfold placementBlocks
  simp only [hid, hfragment, hshared]
  convert (asks_placementBlock position hlines).map fun block ↦ _ ++ [block] using 2 with f
  cases placementBlock placements grid (rule.replace f) position placement <;> rfl

/-- The clues of a puzzle that has passed validation can be written, so its document fails only with
one of its other parts. -/
theorem exists_sections_eq {catalog : Catalog} {puzzle : Puzzle} {selection : Selection}
    (h : Selection.Accepted catalog puzzle grid selection) :
    ∃ clues, puzzle.clueLines = .ok clues ∧ ∀ rules : Selection, sections puzzle grid rules =
      (gridSection grid >>= fun size ↦ puzzle.kinds.mapM kindSection >>= fun kinds ↦
        selectedBlocks puzzle grid rules >>= fun selected ↦
          (allPlacementBlocks puzzle grid rules).map fun placed ↦
            (prelude :: size :: kinds ++ clueSections clues).map Emission.plain ++ selected ++
              placed ++ [.plain solveItem]) := by
  obtain ⟨lines, hlines⟩ := clueLines_eq_ok h
  refine ⟨lines, hlines, fun rules ↦ ?_⟩
  unfold sections clueSections
  rw [clueBlock_eq, hlines, isEmpty_clueLines hlines]
  cases gridSection grid with
  | error e => rfl
  | ok size =>
    cases puzzle.kinds.mapM kindSection with
    | error e => rfl
    | ok kinds =>
      cases puzzle.clues.isEmpty <;> cases selectedBlocks puzzle grid rules <;>
        cases allPlacementBlocks puzzle grid rules <;> rfl

section Accepted

variable {catalog : Catalog} {puzzle : Puzzle} {selection : Selection}

/-- The blocks of the selected rules, each looked up where it is used. -/
theorem selectedBlocks_replace (h : Selection.Accepted catalog puzzle grid selection)
    (f : Replacement) : selectedBlocks puzzle grid (selection.map (Rule.replace f)) =
      puzzle.selectedUses.mapM fun use ↦ selection.get use.id >>= fun rule ↦
        selectedBlock puzzle.placements grid (rule.replace f) := by
  have hget : Selection.get (selection.map (Rule.replace f)) =
      fun id ↦ (selection.get id).map (Rule.replace f) :=
    funext (Selection.get_map_replace f selection)
  unfold selectedBlocks Puzzle.selectedUses
  rw [hget, mapM_bind_mapM, List.mapM_map]
  · apply mapM_congr
    intro id _
    dsimp only [Function.comp_apply]
    cases selection.get id <;> rfl
  · intro id hid
    obtain ⟨rule, hrule, rfl, _⟩ := h.selected id hid
    exact ⟨rule.replace f, by rw [(h.get_id hrule).1]; rfl⟩

theorem asks_selectedBlocks (h : Selection.Accepted catalog puzzle grid selection) :
    ∃ calls, puzzle.selectedUses.mapM (RuleUse.calls catalog grid) = .ok calls ∧
      Asks puzzle.placements grid calls.flatten fun f ↦
        selectedBlocks puzzle grid (selection.map (Rule.replace f)) := by
  simp only [selectedBlocks_replace h]
  apply Asks.mapM
  intro use huse
  obtain ⟨rule, _, hget, hcatalog⟩ := h.exists_get (List.mem_append_left _ huse)
  obtain ⟨id, _, rfl⟩ := List.mem_map.1 huse
  refine ⟨rule.calls grid [] none, by rw [RuleUse.calls, hcatalog]; rfl, ?_⟩
  simpa only [hget, ok_bind] using asks_selectedBlock rule

/-- The blocks of a placement, of which the rule is looked up. -/
theorem placementBlocks_replace (f : Replacement) (placement : Placement) (position : Nat) :
    (Selection.get (selection.map (Rule.replace f)) (.text placement.rule) >>= fun rule ↦
      placementBlocks puzzle.placements grid rule position placement) =
      (selection.get (.text placement.rule) >>= fun rule ↦
        placementBlocks puzzle.placements grid (rule.replace f) position placement) := by
  rw [Selection.get_map_replace]
  cases selection.get (.text placement.rule) <;> rfl

theorem asks_allPlacementBlocks (h : Selection.Accepted catalog puzzle grid selection)
    (hwritable : puzzle.IsWritable grid) :
    ∃ calls, puzzle.placedUses.mapM (RuleUse.calls catalog grid) = .ok calls ∧
      Asks puzzle.placements grid calls.flatten fun f ↦
        allPlacementBlocks puzzle grid (selection.map (Rule.replace f)) := by
  have hblocks (x : Placement × Nat) (hx : x ∈ puzzle.placements.zipIdx 1) : ∃ own,
      RuleUse.calls catalog grid ⟨.text x.1.rule, x.1.groups, some x.2⟩ = .ok own ∧
      Asks puzzle.placements grid own fun f ↦ selection.get (.text x.1.rule) >>= fun rule ↦
        placementBlocks puzzle.placements grid (rule.replace f) x.2 x.1 := by
    have hplacement : x.1 ∈ puzzle.placements := List.fst_mem_of_mem_zipIdx hx
    obtain ⟨rule, hrule, hid, _⟩ := h.placed x.1 hplacement
    obtain ⟨hget, hcatalog⟩ := h.get_id hrule
    rw [← hid] at hget hcatalog
    have hmissing := (Selection.checkRule_eq_ok (h.fits rule hrule)).1
    have hlines := fun group hgroup ↦ groupLine_eq_ok hmissing hwritable.size
      (fun cell hcell ↦ h.cells x.1 hplacement cell (List.mem_flatMap.2 ⟨group, hgroup, hcell⟩))
      (hwritable.values x.1 hplacement group hgroup)
    refine ⟨rule.calls grid x.1.groups (some x.2), by rw [RuleUse.calls, hcatalog]; rfl, ?_⟩
    simpa only [hget, ok_bind] using asks_placementBlocks x.2 hlines
  obtain ⟨calls, hcalls, hasks⟩ := Asks.mapM hblocks
  refine ⟨calls, ?_, ?_⟩
  · rw [Puzzle.placedUses, List.mapM_map]
    exact hcalls
  · unfold allPlacementBlocks
    simp only [placementBlocks_replace]
    exact hasks.map List.flatten

/-- The sections of a puzzle that has passed validation ask for the calls of the puzzle. -/
theorem asks_sections (h : Selection.Accepted catalog puzzle grid selection)
    (hwritable : puzzle.IsWritable grid) (hheld : grid.IsHeld) :
    ∃ calls, generatorCalls catalog puzzle grid = .ok calls ∧
      Asks puzzle.placements grid calls fun f ↦
        sections puzzle grid (selection.map (Rule.replace f)) := by
  obtain ⟨kinds, hkinds⟩ : ∃ kinds, puzzle.kinds.mapM kindSection = .ok kinds :=
    exists_mapM_eq_ok fun kind hkind ↦
      ⟨declareKind kind, by simp [kindSection, hwritable.domains kind hkind]⟩
  obtain ⟨clues, _, hsections⟩ := exists_sections_eq h
  obtain ⟨selected, hselected, hfirst⟩ := asks_selectedBlocks h
  obtain ⟨placed, hplaced, hsecond⟩ := asks_allPlacementBlocks h hwritable
  refine ⟨selected.flatten ++ placed.flatten, ?_, ?_⟩
  · rw [generatorCalls, Puzzle.ruleUses, List.mapM_append, hselected, ok_bind, hplaced, ok_bind,
      ← List.flatten_append]
    rfl
  · simp only [hsections, gridSection_of_isHeld hheld, if_pos hwritable.size, hkinds, ok_bind]
    exact hfirst.seq hsecond fun selected placed ↦
      (prelude :: declareGrid grid :: kinds ++ clueSections clues).map Emission.plain ++
        selected ++ placed ++ [.plain solveItem]

/-- The calls for a puzzle that has passed validation can be listed: the catalog has every rule. -/
theorem exists_generatorCalls (h : Selection.Accepted catalog puzzle grid selection) :
    ∃ calls, generatorCalls catalog puzzle grid = .ok calls := by
  obtain ⟨parts, hparts⟩ : ∃ parts,
      puzzle.ruleUses.mapM (RuleUse.calls catalog grid) = .ok parts := by
    apply exists_mapM_eq_ok
    intro use huse
    obtain ⟨rule, _, _, hcatalog⟩ := h.exists_get huse
    exact ⟨_, by rw [RuleUse.calls, hcatalog]; rfl⟩
  exact ⟨parts.flatten, by rw [generatorCalls, hparts]; rfl⟩

end Accepted

/-! ## Faults of sections -/

theorem cellRefs_eq_error {kinds : List VariableKind} {rule : Rule} {kind : String}
    (hmissing : rule.missingKinds (kinds.map VariableKind.name) = [])
    (hkind : rule.primaryKind? = some kind) {cells : List (Int × Int)} {e : Error}
    (h : cellRefs kind cells = .error e) : e = .wrongValue := by
  obtain ⟨array, harray⟩ := exists_arrayName hmissing hkind
  obtain ⟨cell, _, h⟩ := mapM_eq_error h
  rw [cellRef, harray, ok_bind] at h
  split at h
  · simp at h
  · exact (Except.error.inj h).symm

theorem groupLine_eq_error {rule : Rule} {kinds : List VariableKind}
    (hmissing : rule.missingKinds (kinds.map VariableKind.name) = []) {index : Nat} {group : Group}
    {e : Error} (h : groupLine rule index group = .error e) : e = .wrongValue := by
  obtain h | ⟨cells, _, h⟩ := bind_eq_error.1 h
  · unfold groupCells at h
    split at h
    next => simp at h
    next kind hkind =>
      obtain h | ⟨_, _, h⟩ := bind_eq_error.1 h
      · exact cellRefs_eq_error hmissing hkind h
      · simp at h
  · cases hwritable : group.value.toValue.isWritable with
    | false =>
      rw [hwritable] at h
      exact (Except.error.inj h).symm
    | true =>
      rw [hwritable] at h
      exact absurd h (by simp)

/-- The line of a group is a comment, and the value of the group can be written. -/
theorem groupLine_eq_comment {rule : Rule} {index : Nat} {group : Group} {line : String}
    (h : groupLine rule index group = .ok line) :
    group.value.toValue.isWritable = true ∧ ∃ text, line = comment ("group " ++ text) := by
  obtain ⟨cells, _, h⟩ := bind_eq_ok.1 h
  cases hwritable : group.value.toValue.isWritable with
  | false =>
    rw [hwritable] at h
    exact absurd h (by simp)
  | true =>
    rw [hwritable] at h
    obtain rfl := Except.ok.inj h
    refine ⟨rfl, ?_⟩
    simp only [String.append_assoc]
    exact ⟨_, rfl⟩

/-- The values of groups that have lines can be written. -/
theorem isWritable_of_groupLines {rule : Rule} {groups : List Group} {lines : List String}
    (h : (groups.zipIdx 1).mapM (fun (group, index) ↦ groupLine rule index group) = .ok lines) :
    ∀ group ∈ groups, group.value.toValue.isWritable = true := by
  intro group hgroup
  obtain ⟨index, hindex⟩ := Selection.exists_mem_zipIdx hgroup 1
  obtain ⟨line, _, hline⟩ := forall_of_mapM_eq_ok h _ hindex
  exact (groupLine_eq_comment hline).1

/-- A fault of a rule's generator is that of a call of the rule. -/
theorem generated_eq_error {rule : Rule} {groups : List Group} {position : Option Nat} {e : Error}
    (hskipped : ¬rule.isSkipped grid = true)
    (h : generated rule groups placements grid position = .error e) :
    ∃ call ∈ rule.calls grid groups position, ∃ fault,
      call.answer placements grid = .error fault ∧
        e = .generatorFailed call.rule call.position fault.reason := by
  unfold generated at h
  split at h
  next => simp at h
  next generator hgenerator =>
    split at h
    next => simp at h
    next fault hfault =>
      refine ⟨⟨rule.id, generator, groups, position⟩, ?_, fault, hfault, ?_⟩
      · simp [Rule.calls, hskipped, hgenerator]
      · exact (Except.error.inj h).symm

theorem selectedBlock_eq_error {rule : Rule} {e : Error}
    (h : selectedBlock placements grid rule = .error e) :
    ∃ call ∈ rule.calls grid [] none, ∃ fault, call.answer placements grid = .error fault ∧
      e = .generatorFailed call.rule call.position fault.reason := by
  unfold selectedBlock at h
  split at h
  next => simp at h
  next hskipped =>
    obtain h | ⟨_, _, h⟩ := bind_eq_error.1 h
    · exact generated_eq_error hskipped h
    · simp at h

theorem placementBlocks_eq_error {rule : Rule} {kinds : List VariableKind}
    (hmissing : rule.missingKinds (kinds.map VariableKind.name) = []) {placement : Placement}
    {position : Nat} {e : Error}
    (h : placementBlocks placements grid rule position placement = .error e) :
    e = .wrongValue ∨ (∀ group ∈ placement.groups, group.value.toValue.isWritable = true) ∧
      ∃ call ∈ rule.calls grid placement.groups (some position), ∃ fault,
        call.answer placements grid = .error fault ∧
          e = .generatorFailed call.rule call.position fault.reason := by
  obtain h | ⟨_, _, h⟩ := bind_eq_error.1 h
  · obtain hlines | ⟨lines, hlines, _⟩ := bind_eq_error.1 h
    · obtain ⟨⟨group, index⟩, _, hline⟩ := mapM_eq_error hlines
      exact .inl (groupLine_eq_error hmissing hline)
    · rw [placementBlock_of_lines hlines, map_eq_error] at h
      split at h
      next => simp at h
      next hskipped =>
        exact .inr ⟨isWritable_of_groupLines hlines, generated_eq_error hskipped h⟩
  · simp at h

theorem kindSections_eq_error {kinds : List VariableKind} {e : Error}
    (h : kinds.mapM kindSection = .error e) : e = .wrongValue := by
  obtain ⟨kind, _, h⟩ := mapM_eq_error h
  unfold kindSection at h
  split at h
  · simp at h
  · exact (Except.error.inj h).symm

section Accepted

variable {catalog : Catalog} {puzzle : Puzzle} {selection : Selection} {calls : List GeneratorCall}

/-- A fault of the selected rules is one of their generators, which are called without groups. No
lookup of a rule fails. -/
theorem selectedBlocks_eq_error (h : Selection.Accepted catalog puzzle grid selection)
    (hcalls : generatorCalls catalog puzzle grid = .ok calls) {e : Error}
    (he : selectedBlocks puzzle grid selection = .error e) :
    ∃ call ∈ calls, (∀ group ∈ call.groups, group.value.toValue.isWritable = true) ∧ ∃ fault,
      call.answer puzzle.placements grid = .error fault ∧
        e = .generatorFailed call.rule call.position fault.reason := by
  rw [← Selection.map_replace_self selection, selectedBlocks_replace h] at he
  obtain ⟨use, huse, he⟩ := mapM_eq_error he
  have hmem := List.mem_append_left puzzle.placedUses huse
  obtain ⟨rule, _, hget, hcatalog⟩ := h.exists_get hmem
  obtain ⟨id, _, rfl⟩ := List.mem_map.1 huse
  rw [hget, ok_bind, Rule.replace_self] at he
  obtain ⟨call, hcall, hfails⟩ := selectedBlock_eq_error he
  refine ⟨call, (mem_generatorCalls hcalls).2 ⟨_, hmem, rule, hcatalog, hcall⟩, ?_, hfails⟩
  have hnil : call.groups = [] := congrArg RuleUse.groups (mem_calls hcall).2
  simp [hnil]

/-- A fault of the placements is a group with a number that is too long, or one of a generator,
which is called for groups that have been written. No lookup of a rule fails. -/
theorem allPlacementBlocks_eq_error (h : Selection.Accepted catalog puzzle grid selection)
    (hcalls : generatorCalls catalog puzzle grid = .ok calls) {e : Error}
    (he : allPlacementBlocks puzzle grid selection = .error e) :
    e = .wrongValue ∨ ∃ call ∈ calls,
      (∀ group ∈ call.groups, group.value.toValue.isWritable = true) ∧ ∃ fault,
        call.answer puzzle.placements grid = .error fault ∧
          e = .generatorFailed call.rule call.position fault.reason := by
  obtain he | ⟨_, _, he⟩ := bind_eq_error.1 he
  case inr => simp at he
  obtain ⟨⟨placement, position⟩, hplaced, he⟩ := mapM_eq_error he
  have huse := Puzzle.mem_ruleUses.2 (.inr ⟨placement, position, hplaced, rfl⟩)
  obtain ⟨rule, hrule, hget, hcatalog⟩ := h.exists_get huse
  dsimp only at he hget
  rw [hget, ok_bind] at he
  have hmissing := (Selection.checkRule_eq_ok (h.fits rule hrule)).1
  obtain he | ⟨hvalues, call, hcall, hfails⟩ := placementBlocks_eq_error hmissing he
  · exact .inl he
  · have hgroups : call.groups = placement.groups := congrArg RuleUse.groups (mem_calls hcall).2
    exact .inr ⟨call, (mem_generatorCalls hcalls).2 ⟨_, huse, rule, hcatalog, hcall⟩,
      hgroups ▸ hvalues, hfails⟩

/-- The sections of a puzzle that has passed validation fail where a row of zeros cannot be counted
or a number is too long, or where a call of the puzzle fails. The size of the grid and the values of
the groups of the call can be written then. -/
theorem sections_eq_error (h : Selection.Accepted catalog puzzle grid selection)
    (hcalls : generatorCalls catalog puzzle grid = .ok calls) {e : Error}
    (he : sections puzzle grid selection = .error e) :
    (¬grid.IsHeld ∧ e = .misuse .overflow) ∨ e = .wrongValue ∨
      Error.isWritableSize grid.rows grid.cols = true ∧ ∃ call ∈ calls,
        (∀ group ∈ call.groups, group.value.toValue.isWritable = true) ∧ ∃ fault,
          call.answer puzzle.placements grid = .error fault ∧
            e = .generatorFailed call.rule call.position fault.reason := by
  obtain ⟨clues, _, hsections⟩ := exists_sections_eq h
  rw [hsections] at he
  by_cases hheld : grid.IsHeld
  case neg =>
    rw [gridSection_eq_error hheld, error_bind] at he
    exact .inl ⟨hheld, (Except.error.inj he).symm⟩
  right
  rw [gridSection_of_isHeld hheld] at he
  split at he
  case isFalse => exact .inl (Except.error.inj he).symm
  next hsize =>
    rw [ok_bind] at he
    obtain he | ⟨kinds, _, he⟩ := bind_eq_error.1 he
    · exact .inl (kindSections_eq_error he)
    obtain he | ⟨selected, _, he⟩ := bind_eq_error.1 he
    · exact .inr ⟨hsize, selectedBlocks_eq_error h hcalls he⟩
    obtain hvalue | hfails := allPlacementBlocks_eq_error h hcalls (map_eq_error.1 he)
    · exact .inl hvalue
    · exact .inr ⟨hsize, hfails⟩

end Accepted

/-! ## Outcomes -/

variable {catalog : Catalog} {puzzle : Puzzle} {selection : Selection}

theorem compile_eq (haccepted : Selection.ofPuzzle catalog puzzle = .ok (grid, selection)) :
    compile catalog puzzle = (sections puzzle grid selection >>= fun parts ↦
      (Document.check (documentText parts) (shapes puzzle grid)).map fun _ ↦
        ⟨documentText parts, parts.flatMap Emission.warnings⟩) := by
  unfold compile
  rw [haccepted, ok_bind]
  dsimp only
  cases sections puzzle grid selection with
  | error e => rfl
  | ok parts =>
    rw [ok_bind, ok_bind]
    cases Document.check (documentText parts) (shapes puzzle grid) <;> rfl

/-- A document that is returned consists of the sections of an accepted puzzle and has passed its
check. -/
theorem exists_sections_of_compile {document : Emission}
    (h : compile catalog puzzle = .ok document) : ∃ grid selection parts,
      Selection.ofPuzzle catalog puzzle = .ok (grid, selection) ∧
      sections puzzle grid selection = .ok parts ∧
      Document.check (documentText parts) (shapes puzzle grid) = .ok () ∧
      document = ⟨documentText parts, parts.flatMap Emission.warnings⟩ := by
  obtain ⟨⟨grid, selection⟩, haccepted, _⟩ := bind_eq_ok.1 h
  rw [compile_eq haccepted] at h
  obtain ⟨parts, hparts, h⟩ := bind_eq_ok.1 h
  obtain ⟨⟨⟩, hcheck, heq⟩ := map_eq_ok.1 h
  exact ⟨grid, selection, parts, haccepted, hparts, hcheck, heq.symm⟩

/-- A grid that is not held fails before any generator is called. -/
theorem compile_of_not_isHeld
    (haccepted : Selection.ofPuzzle catalog puzzle = .ok (grid, selection)) (hheld : ¬grid.IsHeld)
    (f : Replacement) : compile (catalog.replace f) puzzle = .error (.misuse .overflow) := by
  rw [compile_eq (Selection.ofPuzzle_replace f haccepted), sections, gridSection_eq_error hheld]
  rfl

variable {calls : List GeneratorCall}

/-- The sections ask for the calls of the puzzle, whichever list of them is at hand. -/
theorem asks_of_generatorCalls (h : Selection.Accepted catalog puzzle grid selection)
    (hcalls : generatorCalls catalog puzzle grid = .ok calls) (hwritable : puzzle.IsWritable grid)
    (hheld : grid.IsHeld) : Asks puzzle.placements grid calls fun f ↦
      sections puzzle grid (selection.map (Rule.replace f)) := by
  obtain ⟨own, hown, hasks⟩ := asks_sections h hwritable hheld
  rwa [Except.ok.inj (hcalls.symm.trans hown)]

theorem compile_replace_congr
    (haccepted : Selection.ofPuzzle catalog puzzle = .ok (grid, selection))
    (hcalls : generatorCalls catalog puzzle grid = .ok calls)
    (hwritable : puzzle.IsWritable grid) (hheld : grid.IsHeld) {f : Replacement}
    (hf : ∀ call ∈ GeneratorCall.made puzzle.placements grid calls,
      (call.replace f).answer puzzle.placements grid = call.answer puzzle.placements grid) :
    compile (catalog.replace f) puzzle = compile catalog puzzle := by
  have h := Selection.ofPuzzle_eq_ok haccepted
  have hsections := (asks_of_generatorCalls h hcalls hwritable hheld).congr hf
  rw [Selection.map_replace_self] at hsections
  rw [compile_eq (Selection.ofPuzzle_replace f haccepted), hsections, compile_eq haccepted]

/-- A puzzle that has passed validation is rejected for a row of zeros that cannot be counted, for a
number that is too long, for a call of the puzzle that fails, or by the check of its finished
document. -/
theorem compile_eq_error (haccepted : Selection.ofPuzzle catalog puzzle = .ok (grid, selection))
    (hcalls : generatorCalls catalog puzzle grid = .ok calls) {e : Error}
    (he : compile catalog puzzle = .error e) :
    (¬grid.IsHeld ∧ e = .misuse .overflow) ∨ e = .wrongValue ∨
      (∃ call ∈ calls, ∃ fault, call.answer puzzle.placements grid = .error fault ∧
        e = .generatorFailed call.rule call.position fault.reason) ∨
      ∃ parts, sections puzzle grid selection = .ok parts ∧ e.category = .assembly ∧
        Document.check (documentText parts) (shapes puzzle grid) = .error e := by
  rw [compile_eq haccepted] at he
  obtain he | ⟨parts, hparts, he⟩ := bind_eq_error.1 he
  · obtain hheld | hvalue | ⟨_, call, hcall, _, hfails⟩ :=
      sections_eq_error (Selection.ofPuzzle_eq_ok haccepted) hcalls he
    · exact .inl hheld
    · exact .inr (.inl hvalue)
    · exact .inr (.inr (.inl ⟨call, hcall, hfails⟩))
  · have hcheck := map_eq_error.1 he
    obtain hcategory | ⟨hvalue, _⟩ := Document.check_eq_error hcheck
    · exact .inr (.inr (.inr ⟨parts, hparts, hcategory, hcheck⟩))
    · exact .inr (.inl hvalue)

def raisingRule : Rule where
  id := "g"
  name := "g"
  scope := .wholeGrid
  generator := some fun _ _ _ ↦ .error (.raised "ValueError" "boom")

def Catalog.raising : Catalog := ⟨[raisingRule], by simp⟩

/-- One row of cells without regions, in which the raising rule is selected. -/
def Puzzle.raisingRow (cols : Nat) (hcols : 0 < cols) : Puzzle where
  grid := some ⟨1, cols, none, Nat.one_pos, hcols⟩
  selected := [.text "g"]

end GridPuzzle
