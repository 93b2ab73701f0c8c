import GridPuzzle.Proofs.Compile.Encoding

/-!
# The skeleton of a puzzle

The text that a puzzle is compiled to tells the grid with its region map, the arrays with their
domains, the clues, the selected rules, and the rules of the placements, each in their order. It
does not tell the puzzle: the full name of a variable kind stands in a comment only, from which
white space at the end is gone.
-/

namespace GridPuzzle

open Fallible Standard Text

variable {puzzle other : Puzzle} {grid : Grid} {selection : Selection}

/-! ## Markers -/

namespace Marker

/-- The id under which a rule of the whole grid was selected. -/
def selected? : Marker → Option Value
  | wholeGrid id => some (.text id)
  | _ => none

/-- The rule of a placement. -/
def placed? : Marker → Option String
  | placed id _ => some id
  | _ => none

end Marker

/-- No id of the standard catalog has a blank. -/
theorem blank_notMem_id : ∀ rule ∈ rules, ' ' ∉ rule.id.toList := by decide

theorem RuleBlock.IsOf.blank_notMem (hvalid : Selection.Accepted .standard puzzle grid selection)
    {block : RuleBlock} (h : block.IsOf puzzle grid selection) :
    ' ' ∉ block.marker.rule.toList := by
  cases h with
  | wholeGrid hrule => exact blank_notMem_id _ (hvalid.known _ hrule)
  | shared hrule => exact blank_notMem_id _ (hvalid.known _ hrule)
  | placed hrule => exact blank_notMem_id _ (hvalid.known _ hrule)

section Accepted

variable {catalog : Catalog} (h : Selection.Accepted catalog puzzle grid selection)

include h

/-- The selected rules are told by the markers. -/
theorem filterMap_selected?_markers :
    (puzzle.markers grid selection).filterMap Marker.selected? = puzzle.selected := by
  have hplaced : ((puzzle.placements.zipIdx 1).flatMap fun x ↦
      (selection.find? (.text x.1.rule)).toList.flatMap fun rule ↦
        rule.markersAt puzzle.placements grid x.2).filterMap Marker.selected? = [] := by
    apply List.filterMap_eq_nil_iff.2
    intro marker hmarker
    obtain ⟨x, _, hmarker⟩ := List.mem_flatMap.1 hmarker
    obtain ⟨rule, _, hmarker⟩ := List.mem_flatMap.1 hmarker
    obtain hmarker | hmarker := List.mem_append.1 hmarker
    · obtain ⟨_, _, rfl⟩ := List.mem_map.1 hmarker
      rfl
    · rw [List.mem_singleton.1 hmarker]
      rfl
  have hwhole : ∀ id ∈ puzzle.selected, ((selection.find? id).bind
      (Marker.selected? ∘ fun rule ↦ .wholeGrid rule.id)) = some id := by
    intro id hid
    obtain ⟨rule, hfind⟩ := h.exists_find?_selected hid
    rw [hfind, (h.find?_selected hid hfind).1]
    rfl
  rw [Puzzle.markers, List.filterMap_append, hplaced, List.append_nil, List.filterMap_map,
    List.filterMap_filterMap, List.filterMap_congr hwhole, List.filterMap_some]

/-- The rules of the placements are told by the markers. -/
theorem filterMap_placed?_markers : (puzzle.markers grid selection).filterMap Marker.placed? =
    puzzle.placements.map Placement.rule := by
  have hwhole : ((puzzle.selected.filterMap selection.find?).map fun rule ↦
      Marker.wholeGrid rule.id).filterMap Marker.placed? = [] := by
    apply List.filterMap_eq_nil_iff.2
    intro marker hmarker
    obtain ⟨_, _, rfl⟩ := List.mem_map.1 hmarker
    rfl
  have hplaced : ∀ x ∈ puzzle.placements.zipIdx 1,
      ((selection.find? (.text x.1.rule)).toList.flatMap fun rule ↦
        rule.markersAt puzzle.placements grid x.2).filterMap Marker.placed? = [x.1.rule] := by
    intro x hx
    obtain ⟨rule, hfind, _, hid⟩ := h.exists_find?_placed (List.fst_mem_of_mem_zipIdx hx)
    have hshared : ((rule.sharedFragment puzzle.placements grid x.2).toList.map fun _ ↦
        Marker.shared rule.id).filterMap Marker.placed? = [] := by
      cases rule.sharedFragment puzzle.placements grid x.2 <;> rfl
    rw [hfind, Option.toList_some, List.flatMap_singleton, Rule.markersAt, List.filterMap_append,
      hshared, hid]
    rfl
  calc
    (puzzle.markers grid selection).filterMap Marker.placed?
      = (puzzle.placements.zipIdx 1).flatMap fun x ↦ [x.1.rule] := by
        rw [Puzzle.markers, List.filterMap_append, hwhole, List.nil_append, List.filterMap_flatMap]
        exact List.flatMap_congr hplaced
    _ = ((puzzle.placements.zipIdx 1).map Prod.fst).map Placement.rule := by
        rw [← List.map_eq_flatMap, List.map_map]
        rfl
    _ = puzzle.placements.map Placement.rule := by rw [List.zipIdx_map_fst]

end Accepted

/-! ## Sections -/

/-- The characters at the beginning of a section that tell what kind of section it is. -/
def sectionMark (text : String) : List Char := text.toList.take 3

theorem sectionMark_eq_take {start : List Char} {text : String} (h : start <+: text.toList)
    (hlength : 3 ≤ start.length) : sectionMark text = start.take 3 := by
  obtain ⟨rest, hrest⟩ := h
  rw [sectionMark, ← hrest, List.take_append_of_le_length hlength]

/-- A comment on a text begins with the text up to a place in front of which no white space is. -/
theorem prefix_comment {l s : String} (hl : IsLine l.toList) (hend : EndsText l.toList)
    (hs : s ≠ "") : ("% " ++ l).toList <+: (comment (l ++ s)).toList := by
  obtain ⟨first, rest, hlines⟩ := List.exists_cons_of_ne_nil (lines_ne_nil hs)
  have hstart : EndsText ("% " ++ l).toList := by
    rw [String.toList_append]
    exact endsText_append _ hend
  obtain ⟨kept, hkept, _⟩ := exists_trimEnd_append hstart first.toList
  have hline : ("% " ++ l).toList <+: (commentLine (l ++ first)).toList := by
    refine ⟨kept, ?_⟩
    rw [← hkept, commentLine, stripEnd, String.toList_ofList, ← String.append_assoc,
      String.toList_append (s := "% " ++ l)]
  rw [comment, lines_append hl hs, hlines, List.modifyHead_cons, List.map_cons]
  exact hline.trans (prefix_unlines _ _)

theorem sectionMark_declareKind (kind : VariableKind) :
    sectionMark (declareKind kind) = ['%', ' ', 'v'] := by
  have hname : "variable kind: " ++ kind.name = "variable kind:" ++ (" " ++ kind.name) := by
    rw [← String.append_assoc]
    rfl
  have hcomment : ("% " ++ "variable kind:").toList <+: (declareKind kind).toList := by
    rw [declareKind, hname]
    exact (prefix_comment (by decide) (by decide) (by simp)).trans (prefix_unlines _ _)
  rw [sectionMark_eq_take hcomment (by decide)]
  rfl

theorem sectionMark_clueSections {clues : List String} {text : String}
    (h : text ∈ clueSections clues) : sectionMark text = ['%', ' ', 'c'] := by
  have hcomment : comment "clues" = "% clues" := comment_of_endsText (by decide) (by decide)
  unfold clueSections at h
  split at h
  · simp at h
  · rw [List.mem_singleton.1 h, hcomment, sectionMark_eq_take (prefix_unlines _ _) (by decide)]
    rfl

theorem sectionMark_solveItem : sectionMark solveItem = ['s', 'o', 'l'] := rfl

/-- The section of a block is marked by its scope. -/
theorem RuleBlock.IsMarked.sectionMark {block : RuleBlock} (h : block.IsMarked) :
    sectionMark block.emission.text = ['%', ' ', 'g'] ∨
      sectionMark block.emission.text = ['%', ' ', 'l'] := by
  have hhead : (lines block.emission.text).head? = some block.marker.line := by
    rw [lines_emission h]
    rfl
  have hline := (isSolid_emission h).prefix_of_head? hhead
  have hstarts : ∀ start ∈ markerStarts, 3 ≤ ('%' :: ' ' :: start).length ∧
      (('%' :: ' ' :: start).take 3 = ['%', ' ', 'g'] ∨
        ('%' :: ' ' :: start).take 3 = ['%', ' ', 'l']) := by decide
  obtain ⟨start, hstart, hbegins⟩ := block.marker.exists_start
  obtain ⟨hlength, htake⟩ := hstarts start hstart
  rwa [sectionMark_eq_take (hbegins.trans hline) hlength]

def Puzzle.laterTexts (puzzle : Puzzle) (clues : List String) (blocks : List RuleBlock) :
    List String :=
  puzzle.kinds.map declareKind ++ clueSections clues ++
    (blocks.map (fun block ↦ block.emission.text) ++ [solveItem])

theorem texts_eq_cons (puzzle : Puzzle) (grid : Grid) (clues : List String)
    (blocks : List RuleBlock) : puzzle.texts grid clues blocks =
      prelude :: declareGrid grid :: puzzle.laterTexts clues blocks := by
  simp [Puzzle.texts, Puzzle.opening, Puzzle.laterTexts]

theorem filter_of_forall {α : Type} {test : α → Bool} {l : List α} {b : Bool}
    (h : ∀ a ∈ l, test a = b) : l.filter test = if b then l else [] := by
  cases b with
  | true => exact List.filter_eq_self.2 h
  | false => exact List.filter_eq_nil_iff.2 fun a ha ↦ by simp [h a ha]

/-- The sections of a kind are found by what marks them. -/
theorem filter_laterTexts {clues : List String} {blocks : List RuleBlock}
    (hblocks : ∀ block ∈ blocks, block.IsMarked) {test : List Char → Bool} {b : Bool}
    (hglobal : test ['%', ' ', 'g'] = b) (hlocal : test ['%', ' ', 'l'] = b)
    (hsolve : test ['s', 'o', 'l'] = false) :
    (puzzle.laterTexts clues blocks).filter (fun text ↦ test (sectionMark text)) =
      (if test ['%', ' ', 'v'] then puzzle.kinds.map declareKind else []) ++
        (if test ['%', ' ', 'c'] then clueSections clues else []) ++
        if b then blocks.map (fun block ↦ block.emission.text) else [] := by
  have hkinds : ∀ text ∈ puzzle.kinds.map declareKind,
      test (sectionMark text) = test ['%', ' ', 'v'] := by
    intro text htext
    obtain ⟨kind, _, rfl⟩ := List.mem_map.1 htext
    rw [sectionMark_declareKind]
  have hclues : ∀ text ∈ clueSections clues, test (sectionMark text) = test ['%', ' ', 'c'] :=
    fun text htext ↦ by rw [sectionMark_clueSections htext]
  have hrules : ∀ text ∈ blocks.map fun block ↦ block.emission.text,
      test (sectionMark text) = b := by
    intro text htext
    obtain ⟨block, hblock, rfl⟩ := List.mem_map.1 htext
    obtain hmark | hmark := (hblocks block hblock).sectionMark
    · rw [hmark, hglobal]
    · rw [hmark, hlocal]
  have hlast : ∀ text ∈ [solveItem], test (sectionMark text) = false := by
    simp [sectionMark_solveItem, hsolve]
  rw [Puzzle.laterTexts, List.filter_append, List.filter_append, List.filter_append,
    filter_of_forall hkinds, filter_of_forall hclues, filter_of_forall hrules,
    filter_of_forall hlast]
  simp

/-- The sections of a document tell which of them are about the grid, the variable kinds, the clues
and the rules. -/
theorem texts_inj {own : Grid} {clues clues' : List String} {blocks blocks' : List RuleBlock}
    (hblocks : ∀ block ∈ blocks, block.IsMarked) (hblocks' : ∀ block ∈ blocks', block.IsMarked)
    (h : puzzle.texts grid clues blocks = other.texts own clues' blocks') :
    declareGrid grid = declareGrid own ∧
      puzzle.kinds.map declareKind = other.kinds.map declareKind ∧
      clueSections clues = clueSections clues' ∧
      blocks.map (fun block ↦ block.emission.text) =
        blocks'.map fun block ↦ block.emission.text := by
  rw [texts_eq_cons, texts_eq_cons] at h
  obtain ⟨_, h⟩ := List.cons.inj h
  obtain ⟨hgrid, hlater⟩ := List.cons.inj h
  have hparts (test : List Char → Bool) {b : Bool} (hglobal : test ['%', ' ', 'g'] = b)
      (hlocal : test ['%', ' ', 'l'] = b) (hsolve : test ['s', 'o', 'l'] = false) :=
    calc
      _ = (puzzle.laterTexts clues blocks).filter (fun text ↦ test (sectionMark text)) :=
        (filter_laterTexts hblocks hglobal hlocal hsolve).symm
      _ = (other.laterTexts clues' blocks').filter (fun text ↦ test (sectionMark text)) := by
        rw [hlater]
      _ = _ := filter_laterTexts hblocks' hglobal hlocal hsolve
  refine ⟨hgrid, ?_, ?_, ?_⟩
  · simpa using hparts (· == ['%', ' ', 'v']) rfl rfl rfl
  · simpa using hparts (· == ['%', ' ', 'c']) rfl rfl rfl
  · simpa using hparts (fun mark ↦ mark == ['%', ' ', 'g'] || mark == ['%', ' ', 'l']) rfl rfl rfl

/-! ## Documents -/

/-- A document tells the sections that it is made up of. -/
theorem eq_of_join_eq {texts texts' : List String} (hne : texts ≠ []) (hne' : texts' ≠ [])
    (h : ∀ t ∈ texts, IsSolid t) (h' : ∀ t ∈ texts', IsSolid t)
    (heq : join "\n\n" texts ++ "\n" = join "\n\n" texts' ++ "\n") : texts = texts' := by
  have hlists := congrArg String.toList heq
  rw [String.toList_append, String.toList_append] at hlists
  have hjoin : join "\n\n" texts = join "\n\n" texts' :=
    String.toList_inj.1 (List.append_cancel_right hlists)
  rw [← IsSolid.paragraphs_join hne h, hjoin, IsSolid.paragraphs_join hne' h']

/-- The texts of blocks tell their markers, since the marker is the first line of a block. -/
theorem map_marker_eq {own : Grid} {selection' : Selection} {blocks blocks' : List RuleBlock}
    (hvalid : Selection.Accepted .standard puzzle grid selection)
    (hvalid' : Selection.Accepted .standard other own selection')
    (hof : ∀ block ∈ blocks, block.IsOf puzzle grid selection)
    (hof' : ∀ block ∈ blocks', block.IsOf other own selection')
    (h : blocks.map (fun block ↦ block.emission.text) =
      blocks'.map fun block ↦ block.emission.text) :
    blocks.map RuleBlock.marker = blocks'.map RuleBlock.marker := by
  apply map_eq_map_of_map_eq_map _ h
  intro block hblock block' hblock' heq
  apply Marker.line_inj ((hof block hblock).blank_notMem hvalid)
    ((hof' block' hblock').blank_notMem hvalid')
  apply Option.some.inj
  rw [← (hof block hblock).head?_lines hvalid, ← (hof' block' hblock').head?_lines hvalid', heq]

/-- Two puzzles that are compiled to one text have the same grid, arrays with the same domains, the
same clues, the same selected rules and placements of the same rules, all in the same order. -/
theorem compile_skeleton_inj {document document' : Emission}
    (h : compile .standard puzzle = .ok document) (h' : compile .standard other = .ok document')
    (htext : document.text = document'.text) :
    puzzle.grid = other.grid ∧
      puzzle.kinds.map (fun kind ↦ (kind.array, kind.domain)) =
        other.kinds.map (fun kind ↦ (kind.array, kind.domain)) ∧
      (∃ pins, puzzle.pins = .ok pins ∧ other.pins = .ok pins) ∧
      puzzle.selected = other.selected ∧
      puzzle.placements.map Placement.rule = other.placements.map Placement.rule := by
  obtain ⟨grid, selection, clues, blocks, haccepted, hclues, hblocks, hjoin, hsolid⟩ :=
    compile_eq_ok h
  obtain ⟨own, selection', clues', blocks', haccepted', hclues', hblocks', hjoin', hsolid'⟩ :=
    compile_eq_ok h'
  have hvalid := Selection.ofPuzzle_eq_ok haccepted
  have hvalid' := Selection.ofPuzzle_eq_ok haccepted'
  obtain ⟨hmarkers, hof⟩ := blocks_eq_ok hvalid hblocks
  obtain ⟨hmarkers', hof'⟩ := blocks_eq_ok hvalid' hblocks'
  have htexts : puzzle.texts grid clues blocks = other.texts own clues' blocks' :=
    eq_of_join_eq (by simp [Puzzle.texts]) (by simp [Puzzle.texts]) hsolid hsolid'
      (by rw [← hjoin, htext, hjoin'])
  obtain ⟨hgrid, hkinds, hsections, hrules⟩ :=
    texts_inj (fun block hblock ↦ (hof block hblock).isMarked hvalid)
      (fun block hblock ↦ (hof' block hblock).isMarked hvalid') htexts
  have hsame : puzzle.markers grid selection = other.markers own selection' := by
    rw [← hmarkers, ← hmarkers', map_marker_eq hvalid hvalid' hof hof' hrules]
  refine ⟨?_, ?_, ?_, ?_, ?_⟩
  · rw [hvalid.grid_eq, hvalid'.grid_eq, declareGrid_injective hgrid]
  · apply map_eq_map_of_map_eq_map _ hkinds
    intro kind _ kind' _ heq
    obtain ⟨harray, hdomain⟩ := declareKind_inj heq
    exact Prod.ext harray hdomain
  · rw [clueLines_eq] at hclues hclues'
    obtain ⟨pins, hpins, rfl⟩ := map_eq_ok.1 hclues
    obtain ⟨pins', hpins', rfl⟩ := map_eq_ok.1 hclues'
    have heq := clueSections_inj (isArrayText_of_pins hpins) (isArrayText_of_pins hpins') hsections
    exact ⟨pins, hpins, by rw [hpins', heq]⟩
  · rw [← filterMap_selected?_markers hvalid, ← filterMap_selected?_markers hvalid', hsame]
  · rw [← filterMap_placed?_markers hvalid, ← filterMap_placed?_markers hvalid', hsame]

/-! ## Kinds whose names read alike -/

/-- A line feed at the end of a comment leaves no trace. -/
theorem comment_append_break {l : String} (hl : IsLine l.toList) (hne : l ≠ "") :
    comment (l ++ "\n") = comment l := by
  have hlines : lines (l ++ "\n") = [l] := by
    have hbreak : (l ++ "\n").toList = l.toList ++ '\n' :: [] := String.toList_append
    rw [lines, hbreak, splitLines_append_break hl]
    simp [splitLines]
  rw [comment, comment, hlines, lines_of_isLine hl hne]

namespace VariableKind

/-- Digits under a name with two parts. -/
def allDigits : VariableKind := ⟨"numbers-all", fourDigits.domain, by decide, by decide⟩

/-- Digits under the same name with a line feed behind it. -/
def brokenDigits : VariableKind := ⟨"numbers-all\n", fourDigits.domain, by decide, by decide⟩

theorem declareKind_brokenDigits : declareKind brokenDigits = declareKind allDigits := by
  have hcomment : comment ("variable kind: numbers-all" ++ "\n") =
      comment "variable kind: numbers-all" := comment_append_break (by decide) (by decide)
  have hname : "variable kind: " ++ brokenDigits.name = "variable kind: numbers-all" ++ "\n" := by
    rw [← String.toList_inj]
    simp [brokenDigits]
  have hname' : "variable kind: " ++ allDigits.name = "variable kind: numbers-all" := by
    rw [← String.toList_inj]
    simp [allDigits]
  have harray : brokenDigits.array = allDigits.array := rfl
  have hdomain : brokenDigits.domain = allDigits.domain := rfl
  rw [declareKind, declareKind, hname, hname', hcomment, harray, hdomain]

end VariableKind

/-- Two cells on a thermometer, the first of which is given. -/
def Puzzle.givenRow (kind : VariableKind) : Puzzle where
  grid := some .twoCells
  kinds := [kind]
  placements := [⟨thermometer.id, [⟨[⟨0, 0⟩, ⟨0, 1⟩], .absent⟩]⟩]
  clues := [⟨⟨0, 0⟩, .text kind.name, .int 1⟩]

theorem kind?_givenRow (kind : VariableKind) :
    (Puzzle.givenRow kind).kind? (.text kind.name) = .ok (some kind) := by
  simp [Puzzle.kind?, Value.isKey, Puzzle.givenRow]

/-- The puzzle passes validation if its kind has the digits up to four and the thermometer reads it.
-/
theorem Selection.ofPuzzle_givenRow {kind : VariableKind}
    (hdomain : kind.domain = .int 1 4 (by decide))
    (hrules : [thermometer].forM (checkRule .standard [kind]) = .ok ()) :
    ofPuzzle .standard (.givenRow kind) = .ok (.twoCells, [thermometer]) := by
  have haccepts : kind.accepts (.int 1) = true := by simp [VariableKind.accepts, hdomain]
  have hclues : (Puzzle.givenRow kind).clues.forM (checkClue (.givenRow kind) .twoCells) =
      .ok () := by
    refine forM_eq_ok.2 fun clue hclue ↦ ?_
    obtain rfl := List.mem_singleton.1 hclue
    exact checkClue_of_accepts (kind?_givenRow kind) rfl haccepts
  have harrays : checkArrays [kind] = .ok () := checkArrays_eq_ok.2 (List.nodup_singleton _)
  have hplaced : resolvePlacements .standard .twoCells [] (Puzzle.givenRow kind).placements =
      .ok [thermometer] := rfl
  exact ofPuzzle_of_checks rfl harrays hclues rfl hplaced hrules

theorem exists_compile_givenRow {kind : VariableKind} (hdomain : kind.domain = .int 1 4 (by decide))
    (hrules : [thermometer].forM (Selection.checkRule .standard [kind]) = .ok ()) :
    ∃ document, compile .standard (.givenRow kind) = .ok document := by
  have hfaulty : ∀ placement ∈ (Puzzle.givenRow kind).placements, ¬placement.IsFaulty := by
    have hids : thermometer.id ≠ killerCage.id ∧ thermometer.id ≠ arrow.id := by decide
    simp [Puzzle.givenRow, Placement.IsFaulty, hids.1, hids.2]
  exact exists_compile_twoCells (Selection.ofPuzzle_givenRow hdomain hrules)
    (congrArg (fun domain ↦ [domain]) hdomain)
    (by simp [Puzzle.givenRow, GroupValue.toValue, Value.isWritable]) hfaulty

/-- A kind with a line feed behind its name gives the same text. -/
theorem text_givenRow_brokenDigits {document document' : Emission}
    (h : compile .standard (.givenRow .allDigits) = .ok document)
    (h' : compile .standard (.givenRow .brokenDigits) = .ok document') :
    document.text = document'.text := by
  obtain ⟨grid, selection, clues, blocks, haccepted, hclues, hblocks, hjoin, _⟩ := compile_eq_ok h
  obtain ⟨own, selection', clues', blocks', haccepted', hclues', hblocks', hjoin', _⟩ :=
    compile_eq_ok h'
  rw [Selection.ofPuzzle_givenRow rfl rfl] at haccepted haccepted'
  obtain ⟨rfl, rfl⟩ := Prod.mk.inj (Except.ok.inj haccepted)
  obtain ⟨rfl, rfl⟩ := Prod.mk.inj (Except.ok.inj haccepted')
  have hlines (kind : VariableKind) : (Puzzle.givenRow kind).clueLines =
      .ok [clueLine kind ⟨⟨0, 0⟩, .text kind.name, .int 1⟩] := by
    have hgiven : (Puzzle.givenRow kind).clues = [⟨⟨0, 0⟩, .text kind.name, .int 1⟩] := rfl
    rw [Puzzle.clueLines, hgiven, List.mapM_cons, kindOf_eq_ok.2 (kind?_givenRow kind)]
    rfl
  have harray : VariableKind.brokenDigits.array = VariableKind.allDigits.array := rfl
  rw [hlines, clueLine_eq] at hclues hclues'
  rw [harray] at hclues'
  obtain rfl := Except.ok.inj (hclues.symm.trans hclues')
  obtain rfl := Except.ok.inj (hblocks.symm.trans hblocks')
  have hkinds : (Puzzle.givenRow .brokenDigits).kinds.map declareKind =
      (Puzzle.givenRow .allDigits).kinds.map declareKind :=
    congrArg (fun text ↦ [text]) VariableKind.declareKind_brokenDigits
  rw [hjoin, hjoin', Puzzle.texts, Puzzle.texts, Puzzle.opening, Puzzle.opening, hkinds]

theorem compile_givenRow_skeleton : ∃ document document',
    compile .standard (.givenRow .allDigits) = .ok document ∧
      compile .standard (.givenRow .brokenDigits) = .ok document' ∧
      document.text = document'.text ∧
      ∃ pins, (Puzzle.givenRow .allDigits).pins = .ok pins ∧
        (Puzzle.givenRow .brokenDigits).pins = .ok pins := by
  obtain ⟨document, h⟩ := @exists_compile_givenRow .allDigits rfl rfl
  obtain ⟨document', h'⟩ := @exists_compile_givenRow .brokenDigits rfl rfl
  have htext := text_givenRow_brokenDigits h h'
  obtain ⟨_, _, hpins, _⟩ := compile_skeleton_inj h h' htext
  exact ⟨document, document', h, h', htext, hpins⟩

end GridPuzzle
