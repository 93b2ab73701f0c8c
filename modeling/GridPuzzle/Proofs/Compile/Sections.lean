import GridPuzzle.Proofs.Compile.Blocks
import GridPuzzle.Proofs.Compile.Declarations

/-!
# Sections of a document

The sections of a puzzle that has passed validation against the standard catalog are known as text:
which names they declare, which of these the check of the document finds, and that every reference
with literal coordinates lies within the grid.
-/

namespace GridPuzzle

open Fallible Document Standard
open CellReference (ofElement placeText Refers)

variable {puzzle : Puzzle} {grid : Grid} {selection : Selection}

/-! ## References -/

/-- An array over the grid has the shape of the grid. -/
theorem lookup_shapes {array : String} (h : array ∈ puzzle.kinds.map VariableKind.array) :
    (shapes puzzle grid).lookup array = some (grid.rows, grid.cols) := by
  have hconst (arrays : List String) (hmem : array ∈ arrays) :
      (arrays.map (·, (grid.rows, grid.cols))).lookup array = some (grid.rows, grid.cols) := by
    induction arrays with
    | nil => simp at hmem
    | cons first rest ih =>
      rw [List.map_cons, List.lookup_cons]
      split
      · rfl
      next hne =>
        refine ih ((List.mem_cons.1 hmem).resolve_left fun heq ↦ ?_)
        simp [heq] at hne
  have hshapes : shapes puzzle grid = ("regions" :: puzzle.kinds.map VariableKind.array).map
      (·, (grid.rows, grid.cols)) := by simp [shapes]
  rw [hshapes]
  exact hconst _ (List.mem_cons_of_mem _ h)

/-- An element at the place of a cell of the grid lies within the shape of its array. -/
theorem isWithin_ofElement (hsize : Error.isWritableSize grid.rows grid.cols = true)
    {array : String} (harray : array ∈ puzzle.kinds.map VariableKind.array) {cell : Cell}
    (hcell : grid.contains cell = true) :
    IsWithin (shapes puzzle grid) (ofElement array.toList (cell.row + 1) (cell.col + 1)) := by
  have hwritable := isWritablePlace_of_contains hsize hcell
  simp only [isWritablePlace, toEmitted, Bool.and_eq_true] at hwritable
  have hrow : (Text.decimal (cell.row + 1)).length ≤ Text.maxDigits :=
    Text.length_decimal_le_maxDigits hwritable.1
  have hcol : (Text.decimal (cell.col + 1)).length ≤ Text.maxDigits :=
    Text.length_decimal_le_maxDigits hwritable.2
  simp only [Grid.contains, Grid.containsAt, Bool.and_eq_true, decide_eq_true_eq] at hcell
  refine ⟨?_, grid.rows, grid.cols, ?_, by simp [ofElement], ?_, by simp [ofElement], ?_⟩
  · simp [CellReference.isReadable, ofElement, hrow, hcol]
  · simpa [ofElement] using lookup_shapes harray
  · simp only [ofElement]
    omega
  · simp only [ofElement]
    omega

/-- A puzzle with a rule that reads digits has an array for them. -/
theorem digitKind_mem (h : Selection.Accepted .standard puzzle grid selection) {rule : Rule}
    (hrule : rule ∈ selection) (hgenerator : rule.generator.isSome = true) :
    digitKind ∈ puzzle.kinds.map VariableKind.array := by
  have hmissing := (Selection.checkRule_eq_ok (h.fits rule hrule)).1
  obtain ⟨kind, hkind, hfamily⟩ := exists_family hmissing
    (requires_digits rule (h.known rule hrule) hgenerator)
  have hdigits : family "numbers-all" = digitKind := by
    rw [family, String.toList_ofList]
    rfl
  exact List.mem_map.2 ⟨kind, hkind, hfamily.symm.trans hdigits⟩

/-- The digits of the placed cells may be referred to where a rule with a generator is in use. -/
theorem isWithin_digitReference (hsize : Error.isWritableSize grid.rows grid.cols = true)
    (h : Selection.Accepted .standard puzzle grid selection) {rule : Rule}
    (hrule : rule ∈ selection)
    (hgenerator : rule.generator.isSome = true) :
    ∀ cell ∈ puzzle.placements.flatMap Placement.cells,
      IsWithin (shapes puzzle grid) cell.digitReference := by
  intro cell hcell
  obtain ⟨placement, hplacement, hcell⟩ := List.mem_flatMap.1 hcell
  exact isWithin_ofElement hsize (digitKind_mem h hrule hgenerator)
    (h.cells placement hplacement cell hcell)

/-! ## Clues -/

variable {good : CellReference → Prop}

theorem isBody_emitted (value : ClueValue) : IsBody good value.emitted.toList := by
  cases value with
  | int n => exact .intText n
  | bool b => cases b <;> exact .fixed (by decide)

theorem toList_clueLine (kind : VariableKind) (clue : Clue) : (clueLine kind clue).toList =
    constraintStart ++ (kind.array.toList ++ (placeText (clue.cell.row + 1) (clue.cell.col + 1) ++
      (' ' :: '=' :: ' ' :: clue.value.emitted.toList ++ [';']))) := by
  rw [clueLine, String.toList_append, String.toList_append, String.toList_append,
    String.toList_append, toList_constraintStart, toList_elementText]
  simp

/-- A constraint of which a line feed behind a name ends the first line. -/
theorem emits_constraint_break {name body : List Char} (hname : isPlainIdentifier name = true)
    (hbody : IsBody good body) (hhead : body.head?.all (!declarationStarts.contains ·) = true) :
    Emits good (constraintStart ++ (name ++ '\n' :: (body ++ [';']))) [] [] := by
  have hfirst : ∀ c ∈ constraintStart ++ name, isBodyChar c = true := by
    have hstart : constraintStart.all isBodyChar = true := by decide
    intro c hc
    obtain hc | hc := List.mem_append.1 hc
    · exact List.all_eq_true.1 hstart c hc
    · exact isBodyChar_of_isIdentifierChar (isIdentifierChar_of_plain hname c hc)
  obtain ⟨hline, hpercent, hcolon, hsemicolon, hbreak⟩ := isLine_of_isBodyChar hfirst
  obtain ⟨hline', hpercent', hcolon', hsemicolon', hbreak'⟩ := isLine_of_isBodyChar hbody.chars
  have hblock : IsBlock good ((constraintStart ++ name) ++ '\n' :: (body ++ [';'])) [] [] := by
    refine ⟨?_, ?_, ?_⟩
    · have hrefers := (@IsBody.refers good _ (isBody_of_plain hname) '\n' (by decide)
        (by decide)).append (hbody.refers ';' (by decide) (by decide))
      have hall := (Refers.of_isInert (s := constraintStart) (by decide)).append hrefers
      simpa using hall
    · have hsecond : Declares (body ++ [';']) [] := by
        refine .of_head (by simp [hbreak']) (by simp [hcolon']) ?_
        cases body with
        | nil => decide
        | cons c rest => exact hhead
      exact (Declares.of_head hbreak hcolon rfl).append hsecond
    · have hname' : ';' ∉ name ++ '\n' :: body := by
        simp only [List.mem_append, not_or] at hsemicolon
        simp [hsemicolon.2, hsemicolon']
      simpa using Introduces.constraint hname'
  have hsecond : Text.IsLine (body ++ [';']) := Text.isLine_append.2 ⟨hline', by decide⟩
  rw [← List.append_assoc]
  exact .two_lines ⟨hline, hpercent⟩ ⟨hsecond, by simp [hpercent']⟩ hblock

/-- The constraint of a clue refers to the clue's cell, unless a line feed ends its array. -/
theorem emits_clueLine (kind : VariableKind) (clue : Clue)
    (hgood : good (ofElement kind.array.toList (clue.cell.row + 1) (clue.cell.col + 1))) :
    Emits good (clueLine kind clue).toList [] [] := by
  obtain ⟨hname, hcases⟩ := kind.identifier_cases
  have hvalue := @isBody_emitted good clue.value
  rw [toList_clueLine]
  obtain harray | harray := hcases
  · rw [harray] at hgood ⊢
    have hbody := (IsBody.element hname hgood).operator (m := ['=']) (by decide) (by decide) hvalue
    simpa using Emits.constraint hbody
  · have hplace : IsBody good (placeText (clue.cell.row + 1) (clue.cell.col + 1)) :=
      .of_refers (isBodyChar_of_mem_placeText _ _)
        (.of_not_letters CellReference.isAsciiLetter_of_mem_placeText)
    have hbody := hplace.operator (m := ['=']) (by decide) (by decide) hvalue
    simpa [harray] using emits_constraint_break hname hbody rfl

theorem mem_of_kindOf_eq_ok {clue : Clue} {kind : VariableKind}
    (h : puzzle.kindOf clue = .ok kind) : kind ∈ puzzle.kinds := by
  have hfound := kindOf_eq_ok.1 h
  unfold Puzzle.kind? at hfound
  split at hfound
  · exact List.mem_of_find?_eq_some (Except.ok.inj hfound)
  · cases hfound

/-- The clues of a puzzle declare nothing and lie in the grid. -/
theorem emits_clueSections (hsize : Error.isWritableSize grid.rows grid.cols = true)
    (h : Selection.Accepted .standard puzzle grid selection) {lines : List String}
    (hlines : puzzle.clueLines = .ok lines) :
    EmitsAll (IsWithin (shapes puzzle grid)) (clueSections lines) [] [] := by
  unfold clueSections
  split
  · exact .nil
  refine .singleton (EmitsAll.unlines (.cons_silent (.comment _) (.silent fun line hline ↦ ?_)))
  obtain ⟨clue, hclue, hmade⟩ := exists_mem_of_mapM_eq_ok hlines hline
  obtain ⟨kind, hkind, rfl⟩ := map_eq_ok.1 hmade
  obtain ⟨own, hown, hcell, _⟩ := h.clues clue hclue
  have hmem := List.mem_map_of_mem (f := VariableKind.array) (mem_of_kindOf_eq_ok hkind)
  exact emits_clueLine kind clue (isWithin_ofElement hsize hmem hcell)

/-! ## Rules in use -/

/-- The names that the blocks of the rules in use declare. -/
def Puzzle.ruleNames (puzzle : Puzzle) (grid : Grid) (selection : Selection) : List String :=
  ((puzzle.selected.filterMap selection.find?).flatMap
    fun rule ↦ rule.selectedNames puzzle.placements grid) ++
  (puzzle.placements.zipIdx 1).flatMap fun (placement, position) ↦
    (selection.find? (.text placement.rule)).toList.flatMap fun rule ↦
      rule.placedNames puzzle.placements grid position

/-! ## Sections -/

/-- An item that declares nothing and refers to nothing. -/
theorem emits_silentItem {body : List Char} (hchars : body.all isBodyChar = true)
    (hinert : CellReference.isInert (body ++ [';']) = true)
    (hhead : (body ++ [';']).head?.all (!declarationStarts.contains ·) = true)
    (hname : itemName? body = none) : Emits good (body ++ [';']) [] [] := by
  obtain ⟨hline, hpercent, hcolon, hsemicolon, hbreak⟩ :=
    isLine_of_isBodyChar (List.all_eq_true.1 hchars)
  have hitem := Introduces.item hsemicolon
  rw [hname] at hitem
  refine .line (fun c hc ↦ ?_) (by simp [hpercent]) ⟨.of_isInert hinert, ?_, hitem⟩
  · obtain hc | hc := List.mem_append.1 hc
    · exact hline c hc
    · obtain rfl := List.mem_singleton.1 hc
      decide
  · exact .of_head (by simp [hbreak]) (by simp [hcolon]) hhead

theorem emits_prelude : Emits good prelude.toList [] [] := by
  have htext : prelude.toList = ("include \"globals.mzn\"".toList) ++ [';'] := by
    rw [prelude, String.toList_ofList, String.toList_ofList]
    rfl
  rw [htext, String.toList_ofList]
  exact emits_silentItem (by decide) (by decide) (by decide) rfl

theorem emits_solveItem : Emits good solveItem.toList [] [] := by
  have htext : solveItem.toList = ("solve satisfy".toList) ++ [';'] := by
    rw [solveItem, String.toList_ofList, String.toList_ofList]
    rfl
  rw [htext, String.toList_ofList]
  exact emits_silentItem (by decide) (by decide) (by decide) rfl

/-- The sections of the variable kinds. -/
theorem emits_kinds {kinds : List VariableKind} {texts : List String}
    (h : kinds.mapM kindSection = .ok texts) : EmitsAll good texts
      (kinds.flatMap VariableKind.found) (kinds.map VariableKind.identifier) := by
  have hkind : ∀ kind ∈ kinds, ∀ text, kindSection kind = .ok text →
      EmitsAll good [text] kind.found [kind.identifier] := by
    intro kind _ text htext
    unfold kindSection at htext
    split at htext
    · obtain rfl := Except.ok.inj htext
      exact .singleton (emits_declareKind kind)
    · simp at htext
  have hall := EmitsAll.of_mapM h hkind
  simpa [List.flatMap_singleton', ← List.map_eq_flatMap] using hall

/-- The blocks of the selected rules. -/
theorem emits_selectedBlocks (hsize : Error.isWritableSize grid.rows grid.cols = true)
    (h : Selection.Accepted .standard puzzle grid selection) {blocks : List Emission}
    (hblocks : selectedBlocks puzzle grid selection = .ok blocks) :
    let names := ((puzzle.selected.filterMap selection.find?).flatMap fun rule ↦
      rule.selectedNames puzzle.placements grid).map String.toList
    EmitsAll (IsWithin (shapes puzzle grid)) (blocks.map Emission.text) names names := by
  have hblock : ∀ rule ∈ puzzle.selected.filterMap selection.find?, ∀ block,
      selectedBlock puzzle.placements grid rule = .ok block →
        EmitsAll (IsWithin (shapes puzzle grid)) [block.text]
          ((rule.selectedNames puzzle.placements grid).map String.toList)
          ((rule.selectedNames puzzle.placements grid).map String.toList) := by
    intro rule hrule block hblock
    obtain ⟨hmem, _⟩ := h.mem_of_found hrule
    exact .singleton (emits_selectedBlock (h.known rule hmem) hblock
      (isWithin_digitReference hsize h hmem))
  rw [selectedBlocks, h.mapM_get, ok_bind] at hblocks
  have hall := EmitsAll.of_mapM hblocks hblock
  simpa [← List.map_eq_flatMap, List.map_flatMap] using hall

theorem emits_placementBlocks_find (hsize : Error.isWritableSize grid.rows grid.cols = true)
    (h : Selection.Accepted .standard puzzle grid selection) {placement : Placement}
    (hplacement : placement ∈ puzzle.placements) {position : Nat} {own : List Emission}
    (hown : (selection.get (.text placement.rule) >>= fun rule ↦
      placementBlocks puzzle.placements grid rule position placement) = .ok own) :
    let names := ((selection.find? (.text placement.rule)).toList.flatMap fun rule ↦
      rule.placedNames puzzle.placements grid position).map String.toList
    EmitsAll (IsWithin (shapes puzzle grid)) (own.map Emission.text) names names := by
  obtain ⟨rule, hrule, hown⟩ := bind_eq_ok.1 hown
  rw [Selection.get_eq_ok] at hrule
  obtain ⟨hmem, hid⟩ := Selection.find?_text hrule
  have hemits := emits_placementBlocks (h.known rule hmem) (h.find?_placed hplacement hrule) hid
    hown fun hgenerator cell hcell ↦ by
      refine isWithin_digitReference hsize h hmem hgenerator cell ?_
      obtain hcell | hcell := List.mem_append.1 hcell
      · exact List.mem_flatMap.2 ⟨placement, hplacement, hcell⟩
      · exact hcell
  simpa [hrule] using hemits

/-- The blocks of the placements. -/
theorem emits_allPlacementBlocks (hsize : Error.isWritableSize grid.rows grid.cols = true)
    (h : Selection.Accepted .standard puzzle grid selection) {blocks : List Emission}
    (hblocks : allPlacementBlocks puzzle grid selection = .ok blocks) :
    let names := ((puzzle.placements.zipIdx 1).flatMap fun (placement, position) ↦
      (selection.find? (.text placement.rule)).toList.flatMap fun rule ↦
        rule.placedNames puzzle.placements grid position).map String.toList
    EmitsAll (IsWithin (shapes puzzle grid)) (blocks.map Emission.text) names names := by
  obtain ⟨found, hfound, hblocks⟩ := bind_eq_ok.1 hblocks
  obtain rfl := Except.ok.inj hblocks
  have hall := EmitsAll.of_mapM hfound fun x hx own hown ↦
    emits_placementBlocks_find hsize h (List.fst_mem_of_mem_zipIdx hx) hown
  simpa [List.map_flatten, List.flatMap_def, Function.comp_def] using hall

/-- The sections of a puzzle that has passed validation. -/
theorem emits_sections (h : Selection.Accepted .standard puzzle grid selection)
    {parts : List Emission} (hparts : sections puzzle grid selection = .ok parts) :
    EmitsAll (IsWithin (shapes puzzle grid)) (parts.map Emission.text)
      (gridNames.map String.toList ++ puzzle.kinds.flatMap VariableKind.found ++
        (puzzle.ruleNames grid selection).map String.toList)
      (gridNames.map String.toList ++ puzzle.kinds.map VariableKind.identifier ++
        (puzzle.ruleNames grid selection).map String.toList) := by
  obtain ⟨clues, hclues, hsections⟩ := exists_sections_eq h
  rw [hsections] at hparts
  obtain ⟨size, hgrid, hparts⟩ := bind_eq_ok.1 hparts
  obtain ⟨kinds, hkinds, hparts⟩ := bind_eq_ok.1 hparts
  obtain ⟨selected, hselected, hparts⟩ := bind_eq_ok.1 hparts
  obtain ⟨placed, hplaced, rfl⟩ := map_eq_ok.1 hparts
  obtain ⟨⟨_, hsize⟩, rfl⟩ := gridSection_eq_ok_iff.1 hgrid
  have hopening := EmitsAll.cons_silent emits_prelude
    (.cons (emits_declareGrid grid) ((emits_kinds hkinds).append
      (emits_clueSections hsize h hclues)))
  have hrules := (emits_selectedBlocks hsize h hselected).append
    (emits_allPlacementBlocks hsize h hplaced)
  have hall := hopening.append (hrules.append (.singleton emits_solveItem))
  simpa [Puzzle.ruleNames, Emission.plain, Function.comp_def] using hall

end GridPuzzle
