import GridPuzzle.Proofs.Compile.Layout

/-!
# Where lines come from

The marker over a block says where the lines of the block come from, if it is the nearest marker
above them. No line that is emitted has the form of a marker, so only a remark on a group can stand
between, and it does where the group's value holds a line break with the text of a marker behind it.
-/

namespace GridPuzzle

open Fallible Standard Text

variable {puzzle : Puzzle} {grid : Grid} {selection : Selection}

/-! ## Nearest markers -/

/-- The nearest marker at the end of some lines: the last of them in the form of a marker. -/
def IsNearestMarker (before : List String) (l : String) : Prop :=
  ∃ earlier between, before = earlier ++ l :: between ∧ IsMarkerLine l ∧
    ∀ m ∈ between, ¬IsMarkerLine m

open Classical in
noncomputable def markerLines (ls : List String) : List String := ls.filter (IsMarkerLine ·)

theorem markerLines_append (ls ms : List String) :
    markerLines (ls ++ ms) = markerLines ls ++ markerLines ms := List.filter_append ls ms

theorem markerLines_cons {l : String} (hl : IsMarkerLine l) (ls : List String) :
    markerLines (l :: ls) = l :: markerLines ls := List.filter_cons_of_pos (by simpa using hl)

theorem markerLines_flatMap {α : Type} (l : List α) (f : α → List String) :
    markerLines (l.flatMap f) = l.flatMap fun a ↦ markerLines (f a) := List.filter_flatMap

theorem markerLines_eq_nil {ls : List String} (h : ∀ l ∈ ls, ¬IsMarkerLine l) :
    markerLines ls = [] := List.filter_eq_nil_iff.2 fun l hl ↦ by simpa using h l hl

theorem isNearestMarker_iff {before : List String} {l : String} :
    IsNearestMarker before l ↔ (markerLines before).getLast? = some l := by
  constructor
  · rintro ⟨earlier, between, rfl, hl, hbetween⟩
    rw [markerLines_append, markerLines_cons hl, markerLines_eq_nil hbetween]
    exact List.getLast?_concat
  · intro h
    obtain ⟨front, hfront⟩ := List.getLast?_eq_some_iff.1 h
    obtain ⟨earlier, rest, rfl, _, hrest⟩ := List.filter_eq_append_iff.1 hfront
    obtain ⟨skipped, between, rfl, _, hl, hbetween⟩ := List.filter_eq_cons_iff.1 hrest
    refine ⟨earlier ++ skipped, between, (List.append_assoc ..).symm, by simpa using hl, ?_⟩
    intro m hm
    simpa using List.filter_eq_nil_iff.1 hbetween m hm

/-- What stands above a marker does not matter, nor do lines that have not the form of a marker. -/
theorem isNearestMarker_below {above own other front : List String} {l : String}
    (hl : IsMarkerLine l) (hown : markerLines own = markerLines other)
    (hfront : ∀ m ∈ front, ¬IsMarkerLine m) (m : String) :
    IsNearestMarker (above ++ (l :: own) ++ front) m ↔ IsNearestMarker (l :: other) m := by
  have hlines : markerLines (above ++ (l :: own) ++ front) =
      markerLines above ++ markerLines (l :: other) := by
    rw [markerLines_append, markerLines_eq_nil hfront, List.append_nil, markerLines_append,
      markerLines_cons hl, hown, markerLines_cons hl]
  have hne : markerLines (l :: other) ≠ [] := by
    rw [markerLines_cons hl]
    exact List.cons_ne_nil l _
  rw [isNearestMarker_iff, isNearestMarker_iff, hlines, List.getLast?_append_of_ne_nil _ hne]

/-! ## Remarks -/

/-- The comment lines that a text opens below the first line of a remark. A closing bracket stands
behind the text. -/
def GroupValue.furtherLines : GroupValue → List String
  | text s => (lines (s ++ ")")).tail.map commentLine
  | _ => []

theorem isLine_elementText {array : String} (harray : IsLine array.toList) (row col : Int) :
    IsLine (elementText array row col).toList := by
  simp only [elementText, String.toList_append, isLine_append]
  exact ⟨⟨⟨⟨⟨harray, by decide⟩, isLine_intText _⟩, by decide⟩, isLine_intText _⟩, by decide⟩

/-- The cells of a group of a rule of the standard catalog stand on one line. -/
theorem isLine_groupCells {rule : Rule} (hrule : rule ∈ rules) {group : Group} {cells : String}
    (h : groupCells rule group = .ok cells) : IsLine cells.toList := by
  have hkinds : ∀ rule ∈ rules, rule.primaryKind?.isSome = true ∧
      ∀ kind ∈ rule.primaryKind?, IsLine (family kind).toList := by decide
  obtain ⟨hsome, hfamily⟩ := hkinds rule hrule
  obtain ⟨kind, hkind⟩ := Option.isSome_iff_exists.1 hsome
  unfold groupCells at h
  rw [hkind] at h
  obtain ⟨refs, hrefs, h⟩ := bind_eq_ok.1 h
  obtain rfl := Except.ok.inj h
  rw [toList_join]
  refine isLine_intercalate (by decide) fun piece hpiece ↦ ?_
  obtain ⟨text, htext, rfl⟩ := List.mem_map.1 hpiece
  obtain ⟨cell, _, hcell⟩ := exists_mem_of_mapM_eq_ok hrefs htext
  obtain ⟨array, harray, hcell⟩ := bind_eq_ok.1 hcell
  obtain rfl := arrayName_eq_ok harray
  split at hcell
  · obtain rfl := Except.ok.inj hcell
    exact isLine_elementText (hfamily kind hkind) _ _
  · simp at hcell

/-- What a remark on a group says of its value. -/
def GroupValue.suffix : GroupValue → String
  | absent => ""
  | value => " (value=" ++ value.toValue.shown ++ ")"

/-- A remark is a comment on a text that starts as no marker does, with the value behind it. -/
theorem exists_groupLine_eq {rule : Rule} (hrule : rule ∈ rules) {index : Nat} {group : Group}
    {line : String} (h : groupLine rule index group = .ok line) :
    ∃ front : String, IsLine front.toList ∧
      (∀ rest, IsPlainLine (commentLine (front ++ rest)) ∧ front ++ rest ≠ "") ∧
      line = comment (front ++ group.value.suffix) := by
  obtain ⟨cells, hcells, h⟩ := bind_eq_ok.1 h
  have hshown : IsLine (if cells.isEmpty then "(empty)" else cells).toList := by
    split
    · decide
    · exact isLine_groupCells hrule hcells
  refine ⟨"group " ++ natText index ++ ": " ++ (if cells.isEmpty then "(empty)" else cells), ?_,
    fun rest ↦ ⟨isPlainLine_commentLine fun start hstart hprefix ↦ ?_, by simp⟩, ?_⟩
  · simp only [String.toList_append, isLine_append]
    exact ⟨⟨⟨by decide, isLine_natText index⟩, by decide⟩, hshown⟩
  · simp only [markerStarts, List.mem_cons, List.not_mem_nil, or_false] at hstart
    obtain rfl | rfl := hstart <;> simp [String.toList_append] at hprefix
  · cases hwritable : group.value.toValue.isWritable with
    | false =>
      rw [hwritable] at h
      exact absurd h (by simp)
    | true =>
      rw [hwritable] at h
      obtain rfl := Except.ok.inj h
      cases group.value <;> rfl

/-- The first line of a remark is plain, and only a text can open further lines. -/
theorem lines_groupLine {rule : Rule} (hrule : rule ∈ rules) {index : Nat} {group : Group}
    {line : String} (h : groupLine rule index group = .ok line) :
    ∃ first, IsPlainLine first ∧ lines line = first :: group.value.furtherLines := by
  obtain ⟨front, hfront, hplain, rfl⟩ := exists_groupLine_eq hrule h
  have hsingle {rest : String} (hrest : IsLine rest.toList) :
      lines (comment (front ++ rest)) = [commentLine (front ++ rest)] := by
    have hline : IsLine (front ++ rest).toList := by
      rw [String.toList_append]
      exact isLine_append.2 ⟨hfront, hrest⟩
    rw [lines_comment, lines_of_isLine hline (hplain rest).2, List.map_singleton]
  have hliteral {literal : String} (hvalue : IsLine literal.toList) :
      IsLine (" (value=" ++ literal ++ ")").toList := by
    simp only [String.toList_append, isLine_append]
    exact ⟨⟨by decide, hvalue⟩, by decide⟩
  cases group.value with
  | absent => exact ⟨_, (hplain "").1, hsingle isLine_nil⟩
  | int n => exact ⟨_, (hplain _).1, hsingle (hliteral (GroupValue.isLine_literal (.int n)))⟩
  | float x => exact ⟨_, (hplain _).1, hsingle (hliteral (GroupValue.isLine_literal (.float x)))⟩
  | text s =>
    -- The text opens its first line behind the cells, and a bracket closes its last one.
    obtain ⟨first, more, hlines⟩ :=
      List.exists_cons_of_ne_nil (lines_ne_nil (s := s ++ ")") (by simp))
    have hopen : IsLine (front ++ " (value=").toList := by
      rw [String.toList_append]
      exact isLine_append.2 ⟨hfront, by decide⟩
    refine ⟨_, (hplain (" (value=" ++ first)).1, ?_⟩
    calc lines (comment (front ++ (" (value=" ++ s ++ ")")))
        = (lines (front ++ " (value=" ++ (s ++ ")"))).map commentLine := by
          rw [lines_comment]
          simp only [String.append_assoc]
      _ = ((front ++ " (value=" ++ first) :: more).map commentLine := by
          rw [lines_append hopen (by simp), hlines]
          rfl
      _ = commentLine (front ++ (" (value=" ++ first)) :: (GroupValue.text s).furtherLines := by
          simp [GroupValue.furtherLines, hlines, String.append_assoc]

/-- The lines that the values of a placement's groups open in the remarks on the groups. -/
def Puzzle.valueLines (puzzle : Puzzle) : Marker → List String
  | .placed _ position => (puzzle.placements[position - 1]?).toList.flatMap fun placement ↦
      placement.groups.flatMap fun group ↦ group.value.furtherLines
  | _ => []

theorem markerLines_remarks {rule : Rule} (hrule : rule ∈ rules) {groups : List Group}
    {remarks : List String} (h : rule.remarks groups = .ok remarks) :
    markerLines (remarks.flatMap lines) =
      markerLines (groups.flatMap fun group ↦ group.value.furtherLines) := by
  have hremark (x : Group × Nat) (_ : x ∈ groups.zipIdx 1) (remark : String)
      (hmade : groupLine rule x.2 x.1 = .ok remark) :
      markerLines (lines remark) = markerLines x.1.value.furtherLines := by
    obtain ⟨first, hfirst, hlines⟩ := lines_groupLine hrule hmade
    rw [hlines, ← List.singleton_append, markerLines_append,
      markerLines_eq_nil (by simpa using hfirst.not_isMarkerLine), List.nil_append]
  calc markerLines (remarks.flatMap lines)
      = (groups.zipIdx 1).flatMap fun x ↦ markerLines x.1.value.furtherLines := by
        rw [markerLines_flatMap, flatMap_of_mapM_eq_ok h hremark]
    _ = ((groups.zipIdx 1).map Prod.fst).flatMap fun group ↦
          markerLines group.value.furtherLines := by
        rw [List.flatMap_map]
    _ = markerLines (groups.flatMap fun group ↦ group.value.furtherLines) := by
        rw [List.zipIdx_map_fst, markerLines_flatMap]

/-- Of the remarks of a block, only the lines that values open can have the form of a marker. -/
theorem RuleBlock.IsOf.markerLines_remarkLines
    (hvalid : Selection.Accepted .standard puzzle grid selection) {block : RuleBlock}
    (h : block.IsOf puzzle grid selection) :
    markerLines block.remarkLines = markerLines (puzzle.valueLines block.marker) := by
  cases h with
  | wholeGrid => rfl
  | shared => rfl
  | @placed rule placement position remarks body hrule hscope hplacement hid hremarks hbody =>
    have hget : puzzle.placements[position - 1]? = some placement :=
      (List.mk_mem_zipIdx_iff_le_and_getElem?_sub.1 hplacement).2
    have hvalues : puzzle.valueLines (.placed rule.id position) =
        placement.groups.flatMap fun group ↦ group.value.furtherLines := by
      simp [Puzzle.valueLines, hget]
    change markerLines (remarks.flatMap lines) = markerLines (puzzle.valueLines (.placed _ _))
    rw [hvalues, markerLines_remarks (hvalid.known rule hrule) hremarks]

/-! ## Lines of a document -/

/-- The lines of the sections before those of some blocks, each with an empty line behind it. -/
def Puzzle.linesAbove (puzzle : Puzzle) (grid : Grid) (clues : List String)
    (before : List RuleBlock) : List String :=
  (puzzle.opening grid clues ++ before.map fun block ↦ block.emission.text).flatMap fun text ↦
    lines text ++ [""]

theorem intercalate_append_cons (sep : List String) (front : List (List String))
    (l : List String) (back : List (List String)) :
    ∃ below, sep.intercalate (front ++ l :: back) = front.flatMap (· ++ sep) ++ l ++ below := by
  induction front with
  | nil =>
    cases back with
    | nil => exact ⟨[], by simp [List.intercalate]⟩
    | cons next back => exact ⟨sep ++ sep.intercalate (next :: back), by simp [List.intercalate]⟩
  | cons first front ih =>
    obtain ⟨below, hbelow⟩ := ih
    refine ⟨below, ?_⟩
    have hcons : sep.intercalate (first :: (front ++ l :: back)) =
        first ++ (sep ++ sep.intercalate (front ++ l :: back)) := by
      cases front <;> simp [List.intercalate]
    rw [List.cons_append, hcons, hbelow]
    simp

/-- In a document that is compiled against the standard catalog, the nearest marker above an emitted
line of a block is that of the block, unless a line that the value of one of the block's groups
opens has the form of a marker; then it is the last of these. -/
theorem compile_nearestMarker {document : Emission} (h : compile .standard puzzle = .ok document) :
    ∃ grid selection clues blocks, Selection.ofPuzzle .standard puzzle = .ok (grid, selection) ∧
      puzzle.clueLines = .ok clues ∧ puzzle.blocks grid selection = .ok blocks ∧
      blocks.map RuleBlock.marker = puzzle.markers grid selection ∧
      ∀ before block after, blocks = before ++ block :: after →
        (∃ below, lines document.text =
          puzzle.linesAbove grid clues before ++ block.allLines ++ below) ∧
        (∀ l ∈ block.remarkLines, l.toList.head? = some '%') ∧
        ∀ front l back, block.bodyLines = front ++ l :: back → ∀ m,
          IsNearestMarker (puzzle.linesAbove grid clues before ++
            (block.marker.line :: block.remarkLines) ++ front) m ↔
          IsNearestMarker (block.marker.line :: puzzle.valueLines block.marker) m := by
  obtain ⟨grid, selection, clues, blocks, haccepted, hclues, hblocks, htext, hsolid⟩ :=
    compile_eq_ok h
  have hvalid := Selection.ofPuzzle_eq_ok haccepted
  obtain ⟨hmarkers, hof⟩ := blocks_eq_ok hvalid hblocks
  refine ⟨grid, selection, clues, blocks, haccepted, hclues, hblocks, hmarkers, ?_⟩
  rintro before block after rfl
  have hblock : block.IsOf puzzle grid selection := hof block (by simp)
  have hmarked := hblock.isMarked hvalid
  refine ⟨?_, fun l hl ↦ ?_, fun front l back hbody m ↦ ?_⟩
  · have htexts : puzzle.texts grid clues (before ++ block :: after) =
        (puzzle.opening grid clues ++ before.map fun block ↦ block.emission.text) ++
          block.emission.text :: (after.map (fun block ↦ block.emission.text) ++ [solveItem]) := by
      simp [Puzzle.texts]
    obtain ⟨below, hbelow⟩ := intercalate_append_cons [""]
      ((puzzle.opening grid clues ++ before.map fun block ↦ block.emission.text).map lines)
      (lines block.emission.text)
      ((after.map (fun block ↦ block.emission.text) ++ [solveItem]).map lines)
    refine ⟨below, ?_⟩
    rw [htext, IsSolid.lines_document (by simp [Puzzle.texts]) hsolid, htexts, List.map_append,
      List.map_cons, hbelow, RuleBlock.lines_emission hmarked, List.flatMap_map, Puzzle.linesAbove]
  · obtain ⟨remark, hremark, hl⟩ := List.mem_flatMap.1 hl
    exact (hmarked.remarks remark hremark).head?_of_mem hl
  · refine isNearestMarker_below ⟨block.marker, rfl⟩ (hblock.markerLines_remarkLines hvalid) ?_ m
    intro other hother
    refine hmarked.unmarked other ?_
    rw [hbody]
    exact List.mem_append_left _ hother

/-- Two cells on a thermometer, of which the value has the text of a marker on its second line. -/
def Puzzle.misledRow : Puzzle where
  grid := some .twoCells
  kinds := [.fourDigits]
  placements :=
    [⟨thermometer.id, [⟨[⟨0, 0⟩, ⟨0, 1⟩], .text "\nlocal rule: thermometer (instance 9"⟩]⟩]

theorem Selection.ofPuzzle_misledRow :
    ofPuzzle .standard .misledRow = .ok (.twoCells, [thermometer]) := rfl

/-- The value of the thermometer opens one line in the form of a marker. -/
theorem furtherLines_misledRow :
    (GroupValue.text "\nlocal rule: thermometer (instance 9").furtherLines =
      [(Marker.placed thermometer.id 9).line] := by
  have htext : "\nlocal rule: thermometer (instance 9" ++ ")" =
      "\n" ++ (Marker.placed thermometer.id 9).text := by
    have hnine : natText 9 = "9" := by
      rw [natText, decimal]
      rfl
    rw [← String.toList_inj]
    simp [Marker.text, hnine, thermometer]
  have hlines : lines ("\n" ++ (Marker.placed thermometer.id 9).text) =
      "" :: lines (Marker.placed thermometer.id 9).text := by
    have hbreak : ("\n" ++ (Marker.placed thermometer.id 9).text).toList =
        [] ++ '\n' :: (Marker.placed thermometer.id 9).text.toList := String.toList_append
    rw [lines, hbreak, splitLines_append_break isLine_nil]
    rfl
  obtain ⟨hid, hend⟩ := isLine_id thermometer (by simp [rules])
  obtain ⟨hline, hcomment⟩ := @Marker.comment_text (.placed thermometer.id 9) hid hend
  rw [GroupValue.furtherLines, htext, hlines, List.tail_cons, ← lines_comment, hcomment,
    lines_of_isLine hline (by simp [Marker.line])]

theorem markers_misledRow : Puzzle.misledRow.markers .twoCells [thermometer] =
    [.placed thermometer.id 1] := by
  have hfind : Selection.find? [thermometer] (.text thermometer.id) = some thermometer := by
    simp [Selection.find?]
  have hshared : thermometer.sharedFragment Puzzle.misledRow.placements .twoCells 1 = none := rfl
  simp [Puzzle.markers, Puzzle.misledRow, hfind, Rule.markersAt] at hshared ⊢
  exact hshared

/-- The one block of the puzzle emits one line. -/
theorem bodyLines_misledRow {block : RuleBlock}
    (h : block.IsOf .misledRow .twoCells [thermometer])
    (hmarker : block.marker = .placed thermometer.id 1) :
    block.bodyLines = [(Item.less ⟨0, 0⟩ ⟨0, 1⟩).text] := by
  cases h with
  | wholeGrid => simp at hmarker
  | shared => simp [Rule.fragmentBlock] at hmarker
  | @placed rule placement position remarks body hrule hscope hplacement hid hremarks hbody =>
    obtain rfl := List.mem_singleton.1 hrule
    obtain ⟨rfl, rfl⟩ := Prod.mk.inj (List.mem_singleton.1 hplacement)
    obtain ⟨hskipped, _⟩ | ⟨_, hnone, _⟩ | ⟨drafter, draft, _, _, hdrafter, hdraft, hon, rfl⟩ :=
      Rule.body_eq_ok (by simp [rules]) hbody
    · exact absurd hskipped (by decide)
    · exact absurd hnone (Option.some_ne_none _)
    · obtain rfl : drafter = Line.thermometer := by
        simpa [libraryDrafters, thermometer] using hdrafter
      have hitems : draft.items = [.less ⟨0, 0⟩ ⟨0, 1⟩] := by
        rw [← Except.ok.inj hdraft]
        rfl
      have hline : IsLine (Item.less ⟨0, 0⟩ ⟨0, 1⟩).text.toList := by
        refine isLine_constraintText ?_
        simp only [String.toList_append, isLine_append]
        exact ⟨⟨Cell.isLine_digitText _, by decide⟩, Cell.isLine_digitText _⟩
      have hlines := lines_of_isLine hline (by simp [Item.text, constraintText])
      rw [RuleBlock.bodyLines, List.flatMap_singleton, lines_tidy (by simp [hitems]) hon,
        hitems, List.flatMap_singleton, hlines]

theorem compile_misledRow : ∃ document, compile .standard .misledRow = .ok document ∧
    ∃ above below, lines document.text = above ++ (Item.less ⟨0, 0⟩ ⟨0, 1⟩).text :: below ∧
      IsNearestMarker above (Marker.placed thermometer.id 9).line := by
  have hfaulty : ∀ placement ∈ Puzzle.misledRow.placements, ¬placement.IsFaulty := by
    have hids : thermometer.id ≠ killerCage.id ∧ thermometer.id ≠ arrow.id := by decide
    simp [Puzzle.misledRow, Placement.IsFaulty, hids.1, hids.2]
  obtain ⟨document, h⟩ := exists_compile_twoCells Selection.ofPuzzle_misledRow rfl
    (by simp [Puzzle.misledRow, GroupValue.toValue, Value.isWritable]) hfaulty
  refine ⟨document, h, ?_⟩
  obtain ⟨grid, selection, clues, blocks, haccepted, _, hblocks, hmarkers, hnearest⟩ :=
    compile_nearestMarker h
  obtain ⟨rfl, rfl⟩ : .twoCells = grid ∧ [thermometer] = selection :=
    Prod.mk.inj (Except.ok.inj (Selection.ofPuzzle_misledRow.symm.trans haccepted))
  rw [markers_misledRow] at hmarkers
  obtain ⟨block, rfl, hmarker⟩ := List.map_eq_singleton_iff.1 hmarkers
  have hof := (blocks_eq_ok (Selection.ofPuzzle_eq_ok haccepted) hblocks).2 block (by simp)
  have hbody := bodyLines_misledRow hof hmarker
  obtain ⟨⟨below, hlines⟩, _, hiff⟩ := hnearest [] block [] rfl
  refine ⟨Puzzle.misledRow.linesAbove .twoCells clues [] ++
    (block.marker.line :: block.remarkLines), below, ?_, ?_⟩
  · rw [hlines, RuleBlock.allLines, hbody]
    simp
  · have hmisled := (hiff [] _ [] hbody (Marker.placed thermometer.id 9).line).2
    rw [List.append_nil] at hmisled
    refine hmisled ⟨[block.marker.line], [], ?_, ⟨_, rfl⟩, by simp⟩
    rw [hmarker]
    simp [Puzzle.valueLines, Puzzle.misledRow, furtherLines_misledRow]

end GridPuzzle
