import GridPuzzle.Proofs.Compile.BlockLines
import GridPuzzle.Proofs.Compile.GeneratorFailure

/-!
# The layout of a document

A document that is compiled against the standard catalog can be cut into its sections again, since
no section holds a blank line and none is empty, whatever the values of groups are. The fragment of
a placed rule stands in one section of its own, before the section of the first placement of the
rule, and in no other.
-/

namespace GridPuzzle

open Fallible Standard Text

variable {puzzle : Puzzle} {grid : Grid} {selection : Selection} {rule : Rule} {fragment : String}

/-! ## What the sections are -/

def Puzzle.IsClueLine (puzzle : Puzzle) (clue : Clue) (line : String) : Prop :=
  ∃ kind, puzzle.kindOf clue = .ok kind ∧ line = clueLine kind clue

/-- A section of a selected rule: the marker of a rule of the whole grid is its first line. -/
def IsSelectedSection (id : Value) (text : String) : Prop :=
  ∃ rule ∈ rules, rule.scope = .wholeGrid ∧ id = .text rule.id ∧
    (lines text).head? = some (Marker.wholeGrid rule.id).line

/-- The sections of a placement. The marker of a placed rule with the position is the first line of
the last section, and only the section of the fragment can stand before it. -/
def Puzzle.ArePlacedSections (puzzle : Puzzle) (grid : Grid) (placed : Placement × Nat)
    (texts : List String) : Prop :=
  ∃ rule ∈ rules, rule.scope = .placed ∧ placed.1.rule = rule.id ∧
    ∃ own, (lines own).head? = some (Marker.placed rule.id placed.2).line ∧
      texts = (rule.sharedFragment puzzle.placements grid placed.2).toList.map (fun fragment ↦
        (sharedBlock rule fragment).text) ++ [own]

/-- Whether the lines of a fragment stand in a text one below the other. -/
def holds (fragment text : String) : Bool := lines (strip fragment) <:+: lines text

/-! ## Sections with a fragment -/

theorem predicateLines_inj : ∀ first ∈ predicateLines, ∀ second ∈ predicateLines,
    first.2 = second.2 → first.1 = second.1 := by
  simp [predicateLines]

theorem lines_fragment (hrule : rule ∈ rules) (hscope : rule.scope = .placed)
    (hfragment : rule.fragment = some fragment) : lines (strip fragment) = [strip fragment] := by
  obtain ⟨hline, hhead⟩ := isLine_of_placed hrule hscope hfragment
  refine lines_of_isLine hline fun hempty ↦ ?_
  simp [hempty] at hhead

/-- The section of a fragment has a line for the marker and one for the fragment. -/
theorem lines_sharedBlock (hrule : rule ∈ rules) (hscope : rule.scope = .placed)
    (hfragment : rule.fragment = some fragment) :
    lines (sharedBlock rule fragment).text =
      (Marker.shared rule.id).line :: lines (strip fragment) := by
  change lines (rule.fragmentBlock fragment).emission.text = _
  rw [RuleBlock.lines_emission (RuleBlock.isMarked_fragmentBlock hrule hscope hfragment)]
  simp [RuleBlock.allLines, RuleBlock.remarkLines, RuleBlock.bodyLines, Rule.fragmentBlock,
    Emission.plain]

/-- A quiet text does not hold the fragment of a placed rule. -/
theorem holds_of_isQuiet (hrule : rule ∈ rules) (hscope : rule.scope = .placed)
    (hfragment : rule.fragment = some fragment) {text : String} (h : IsQuiet text) :
    holds fragment text = false := by
  obtain ⟨_, hhead⟩ := isLine_of_placed hrule hscope hfragment
  rw [holds, lines_fragment hrule hscope hfragment, decide_eq_false_iff_not,
    List.singleton_infix_iff]
  exact fun hmem ↦ h.good _ hmem hhead

theorem filter_of_isQuiet (hrule : rule ∈ rules) (hscope : rule.scope = .placed)
    (hfragment : rule.fragment = some fragment) {texts : List String}
    (h : ∀ text ∈ texts, IsQuiet text) : texts.filter (holds fragment) = [] :=
  List.filter_eq_nil_iff.2 fun text htext ↦ by
    simp [holds_of_isQuiet hrule hscope hfragment (h text htext)]

/-- The section of the fragment of a placed rule holds no other such fragment. -/
theorem holds_sharedBlock (hrule : rule ∈ rules) (hscope : rule.scope = .placed)
    (hfragment : rule.fragment = some fragment) {other : Rule} (hother : other ∈ rules)
    (hotherScope : other.scope = .placed) {text : String} (htext : other.fragment = some text) :
    holds fragment (sharedBlock other text).text = (other.id == rule.id) := by
  obtain ⟨_, hhead⟩ := isLine_of_placed hrule hscope hfragment
  rw [Bool.eq_iff_iff, beq_iff_eq, holds, lines_fragment hrule hscope hfragment,
    decide_eq_true_iff, List.singleton_infix_iff, lines_sharedBlock hother hotherScope htext,
    lines_fragment hother hotherScope htext]
  constructor
  · intro hmem
    obtain heq | hmem := List.mem_cons.1 hmem
    · exact absurd ⟨_, heq⟩ (not_isMarkerLine_of_head hhead (by decide))
    · exact (predicateLines_inj _ (strip_fragment_mem hrule hscope hfragment) _
        (strip_fragment_mem hother hotherScope htext) (List.mem_singleton.1 hmem)).symm
  · intro hid
    obtain rfl := List.inj_on_of_nodup_map Catalog.standard.distinct hother hrule hid
    obtain rfl := Option.some.inj (htext.symm.trans hfragment)
    simp

/-! ## First placements -/

/-- What a list contributes if every member contributes what it does behind the members before it.
-/
theorem flatMap_take_append {α β : Type} (f : List α → α → List β) (l : List α) (a : α) :
    (((l ++ [a]).zipIdx 1).flatMap fun x ↦ f ((l ++ [a]).take (x.2 - 1)) x.1) =
      ((l.zipIdx 1).flatMap fun x ↦ f (l.take (x.2 - 1)) x.1) ++ f l a := by
  have hfront : ((l.zipIdx 1).flatMap fun x ↦ f ((l ++ [a]).take (x.2 - 1)) x.1) =
      (l.zipIdx 1).flatMap fun x ↦ f (l.take (x.2 - 1)) x.1 := by
    refine List.flatMap_congr fun x hx ↦ ?_
    have hposition : x.2 < 1 + l.length := (List.mem_zipIdx hx).2.1
    rw [List.take_append_of_le_length (by omega)]
  rw [List.zipIdx_append, List.flatMap_append, hfront, List.zipIdx_singleton,
    List.flatMap_singleton, Nat.add_sub_cancel_left, List.take_left]

/-- Of the members of a list that pass a test, one is the first. -/
theorem flatMap_first {α β : Type} (test : α → Bool) (b : β) (l : List α) :
    ((l.zipIdx 1).flatMap fun x ↦
      if test x.1 && (l.take (x.2 - 1)).all (!test ·) then [b] else []) =
    if l.any test then [b] else [] := by
  -- from the end, since whether a member is the first depends on those in front of it
  induction l using List.reverseRecOn with
  | nil => rfl
  | append_singleton l a ih =>
    have happend := flatMap_take_append
      (fun before a ↦ if test a && before.all (!test ·) then [b] else []) l a
    rw [happend, ih, List.any_append, List.any_cons, List.any_nil, Bool.or_false]
    cases hany : l.any test <;> cases ha : test a <;> simp_all

/-- The section of the fragment of a rule stands before the first placement of the rule, and no
other section of a placement holds the fragment. -/
theorem filter_blocksAt (hvalid : Selection.Accepted .standard puzzle grid selection)
    (hrule : rule ∈ rules) (hscope : rule.scope = .placed)
    (hfragment : rule.fragment = some fragment) {placed : Placement × Nat}
    (hplaced : placed ∈ puzzle.placements.zipIdx 1) {own : List RuleBlock}
    (hown : puzzle.blocksAt grid selection placed = .ok own) :
    (own.map fun block ↦ block.emission.text).filter (holds fragment) =
      if placed.1.rule == rule.id && rule.isFirstAt puzzle.placements placed.2 then
        if rule.isSkipped grid then [] else [(sharedBlock rule fragment).text]
      else [] := by
  obtain ⟨other, hother, hotherScope, _, hid, hall, block, hmarker, rfl⟩ :=
    blocksAt_eq_ok hvalid hplaced hown
  have hknown : other ∈ rules := hvalid.known other hother
  have hquiet : IsQuiet block.emission.text :=
    (hall block (by simp)).isQuiet_emission hvalid (by simp [hmarker])
  have hshared : ((other.sharedFragment puzzle.placements grid placed.2).toList.map fun text ↦
      (sharedBlock other text).text).filter (holds fragment) =
        if other.id == rule.id then
          (other.sharedFragment puzzle.placements grid placed.2).toList.map fun text ↦
            (sharedBlock other text).text
        else [] := by
    cases htext : other.sharedFragment puzzle.placements grid placed.2 with
    | none => simp
    | some text =>
      have hholds := holds_sharedBlock hrule hscope hfragment hknown hotherScope
        (sharedFragment_eq_some htext).1
      simp [List.filter_singleton, hholds]
  have htexts : (((other.sharedFragment puzzle.placements grid placed.2).toList.map
      other.fragmentBlock ++ [block]).map fun block ↦ block.emission.text) =
        ((other.sharedFragment puzzle.placements grid placed.2).toList.map fun text ↦
          (sharedBlock other text).text) ++ [block.emission.text] := by
    rw [List.map_append, List.map_map]
    rfl
  rw [htexts, List.filter_append, hshared,
    filter_of_isQuiet hrule hscope hfragment (by simpa using hquiet), List.append_nil, hid]
  by_cases hsame : other.id = rule.id
  · obtain rfl := List.inj_on_of_nodup_map Catalog.standard.distinct hknown hrule hsame
    unfold Rule.sharedFragment
    cases other.isFirstAt puzzle.placements placed.2 <;> cases other.isSkipped grid <;>
      simp [hfragment]
  · simp [hsame]

/-- Of all sections, that of the fragment of a placed rule is the only one to hold the fragment. -/
theorem filter_texts (hvalid : Selection.Accepted .standard puzzle grid selection)
    {clues : List String} (hclues : puzzle.clueLines = .ok clues) {whole : List RuleBlock}
    (hwhole : puzzle.wholeBlocks grid selection = .ok whole) {placed : List (List RuleBlock)}
    (hplaced : (puzzle.placements.zipIdx 1).mapM (puzzle.blocksAt grid selection) = .ok placed)
    (hrule : rule ∈ rules) (hscope : rule.scope = .placed)
    (hfragment : rule.fragment = some fragment) :
    (puzzle.texts grid clues (whole ++ placed.flatten)).filter (holds fragment) =
      if puzzle.placements.any (·.rule == rule.id) && !rule.isSkipped grid then
        [(sharedBlock rule fragment).text]
      else [] := by
  have hselected : ∀ text ∈ whole.map fun block ↦ block.emission.text, IsQuiet text := by
    intro text htext
    obtain ⟨block, hblock, rfl⟩ := List.mem_map.1 htext
    obtain ⟨own, hown, hmade⟩ := exists_mem_of_mapM_eq_ok hwhole hblock
    obtain ⟨id, hid, hfind⟩ := List.mem_filterMap.1 hown
    obtain ⟨hmarker, hof⟩ := wholeBlock_eq_ok hvalid hid hfind hmade
    exact hof.isQuiet_emission hvalid (by simp [hmarker])
  have hshared := flatMap_of_mapM_eq_ok
    (g := fun own ↦ (own.map fun block ↦ block.emission.text).filter (holds fragment)) hplaced
    fun x hx own hown ↦ filter_blocksAt hvalid hrule hscope hfragment hx hown
  have hplacedTexts : (placed.flatten.map fun block ↦ block.emission.text).filter (holds fragment) =
      placed.flatMap fun own ↦
        (own.map fun block ↦ block.emission.text).filter (holds fragment) := by
    rw [List.map_flatten, List.filter_flatten, List.map_map]
    rfl
  have hfirst := flatMap_first (·.rule == rule.id)
    (sharedBlock rule fragment).text puzzle.placements
  rw [Puzzle.texts, List.map_append, List.filter_append, List.filter_append, List.filter_append,
    filter_of_isQuiet hrule hscope hfragment (isQuiet_opening hclues grid),
    filter_of_isQuiet hrule hscope hfragment hselected, hplacedTexts, hshared,
    filter_of_isQuiet hrule hscope hfragment (by simpa using isQuiet_solveItem)]
  cases rule.isSkipped grid with
  | true => simp
  | false => simpa [Rule.isFirstAt] using hfirst

/-! ## Recovering the sections -/

/-- The text of a document without its last line feed is cut at the blank lines into the sections of
the puzzle: the inclusion, the grid, the variable kinds, the clues if there are any, the selected
rules, the placements, and the demand for a solution. The fragment of a placed rule that is in use
and not skipped stands in one section only. -/
theorem compile_layout {document : Emission} (h : compile .standard puzzle = .ok document) :
    ∃ grid text clues selected placed, puzzle.grid = some grid ∧ document.text = text ++ "\n" ∧
      paragraphs text = prelude :: declareGrid grid :: puzzle.kinds.map declareKind ++
        (if puzzle.clues.isEmpty then [] else [unlines ("% clues" :: clues)]) ++
        selected ++ placed.flatten ++ [solveItem] ∧
      List.Forall₂ puzzle.IsClueLine puzzle.clues clues ∧
      List.Forall₂ IsSelectedSection puzzle.selected selected ∧
      List.Forall₂ (puzzle.ArePlacedSections grid) (puzzle.placements.zipIdx 1) placed ∧
      ∀ rule ∈ rules, rule.scope = .placed → ∀ fragment, rule.fragment = some fragment →
        lines (sharedBlock rule fragment).text =
          (Marker.shared rule.id).line :: lines (strip fragment) ∧
        (paragraphs text).filter (holds fragment) =
          if puzzle.placements.any (·.rule == rule.id) && !rule.isSkipped grid then
            [(sharedBlock rule fragment).text]
          else [] := by
  obtain ⟨grid, selection, clues, blocks, haccepted, hclues, hblocks, htext, hsolid⟩ :=
    compile_eq_ok h
  have hvalid := Selection.ofPuzzle_eq_ok haccepted
  have hparagraphs : paragraphs (join "\n\n" (puzzle.texts grid clues blocks)) =
      puzzle.texts grid clues blocks := IsSolid.paragraphs_join (by simp [Puzzle.texts]) hsolid
  obtain ⟨whole, hwhole, hblocks⟩ := bind_eq_ok.1 hblocks
  obtain ⟨placed, hplaced, hblocks⟩ := bind_eq_ok.1 hblocks
  obtain rfl := Except.ok.inj hblocks
  refine ⟨grid, _, clues, whole.map fun block ↦ block.emission.text,
    placed.map (List.map fun block ↦ block.emission.text), hvalid.grid_eq, htext, ?_, ?_, ?_, ?_,
    fun rule hrule hscope fragment hfragment ↦ ⟨lines_sharedBlock hrule hscope hfragment, ?_⟩⟩
  · have hcomment : comment "clues" = "% clues" := comment_of_endsText (by decide) (by decide)
    rw [hparagraphs, ← isEmpty_clueLines hclues, ← hcomment]
    simp [Puzzle.texts, Puzzle.opening, clueSections]
  · refine forall₂_of_mapM_eq_ok hclues fun clue _ line hline ↦ ?_
    obtain ⟨kind, hkind, hline⟩ := map_eq_ok.1 hline
    exact ⟨kind, hkind, hline.symm⟩
  · refine List.forall₂_map_right_iff.2
      (forall₂_of_filterMap_mapM_eq_ok hwhole fun id hid ↦ ?_)
    obtain ⟨rule, hfind⟩ := hvalid.exists_find?_selected hid
    obtain ⟨heq, hscope⟩ := hvalid.find?_selected hid hfind
    have hrule : rule ∈ rules := hvalid.known rule (List.mem_of_find?_eq_some hfind)
    refine ⟨rule, hfind, fun block hblock ↦ ⟨rule, hrule, hscope, heq, ?_⟩⟩
    obtain ⟨hmarker, hof⟩ := wholeBlock_eq_ok hvalid hid hfind hblock
    rw [hof.head?_lines hvalid, hmarker]
  · refine List.forall₂_map_right_iff.2 (forall₂_of_mapM_eq_ok hplaced fun x hx own hown ↦ ?_)
    obtain ⟨rule, hrule, hscope, _, hid, hall, block, hmarker, rfl⟩ :=
      blocksAt_eq_ok hvalid hx hown
    refine ⟨rule, hvalid.known rule hrule, hscope, hid, block.emission.text, ?_, ?_⟩
    · rw [(hall block (by simp)).head?_lines hvalid, hmarker]
    · rw [List.map_append, List.map_map]
      rfl
  · rw [hparagraphs]
    exact filter_texts hvalid hclues hwhole hplaced hrule hscope hfragment

theorem checkNames_eq (hrule : rule ∈ rules) (kinds : List VariableKind) :
    Selection.checkNames kinds rule = (predicates.lookup rule.id).toList.forM fun name ↦
      match kinds.find? (·.array == name) with
      | some kind => .error (.nameClash kind.name name rule.id)
      | none => .ok () := by
  rw [← declared_eq hrule]
  rfl

/-- The digits up to four are enough for a rule that needs no kind but the digits. -/
theorem checkRule_fourDigits (hrule : rule ∈ rules) (hdigits : rule.missingKinds [digitKind] = []) :
    Selection.checkRule .standard [.fourDigits] rule = .ok () := by
  unfold Selection.checkRule
  rw [checkNames_eq hrule]
  fin_cases hrule <;> first | rfl | exact absurd hdigits (by decide)

abbrev Grid.twoCells : Grid := ⟨1, 2, none, Nat.one_pos, Nat.two_pos⟩

/-- A puzzle on two cells with a kind of the digits up to four is compiled if it has passed
validation and no placement is faulty. -/
theorem exists_compile_twoCells
    (haccepted : Selection.ofPuzzle .standard puzzle = .ok (.twoCells, selection))
    (hkinds : puzzle.kinds.map VariableKind.domain = [.int 1 4 (by decide)])
    (hvalues : ∀ placement ∈ puzzle.placements, ∀ group ∈ placement.groups,
      group.value.toValue.isWritable = true)
    (hfaulty : ∀ placement ∈ puzzle.placements, ¬placement.IsFaulty) :
    ∃ document, compile .standard puzzle = .ok document := by
  have hone : Text.isWritable 1 = true := Text.isWritable_of_lt (by decide)
  have htwo : Text.isWritable 2 = true := Text.isWritable_of_lt (by decide)
  have hfour : Text.isWritable 4 = true := Text.isWritable_of_lt (by decide)
  have hwritable : puzzle.IsWritable .twoCells := by
    refine ⟨by simp [Error.isWritableSize, hone, htwo], fun kind hkind ↦ ?_, hvalues⟩
    have hdomain : kind.domain ∈ puzzle.kinds.map VariableKind.domain := List.mem_map_of_mem hkind
    rw [hkinds, List.mem_singleton] at hdomain
    simp [hdomain, Domain.isWritable, hone, hfour]
  obtain ⟨hrules, htotal⟩ := ruleNames_of_isNone (Selection.ofPuzzle_eq_ok haccepted) rfl
  exact exists_compile_eq_ok haccepted (.inr (by decide +kernel)) hwritable hrules
    (fun h ↦ absurd h htotal) hfaulty

/-- Two cells with a white dot between them, of which the value is a blank line. -/
def Puzzle.dottedRow : Puzzle where
  grid := some .twoCells
  kinds := [.fourDigits]
  selected := [.text latinSquare.id]
  placements := [⟨whiteDot.id, [⟨[⟨0, 0⟩, ⟨0, 1⟩], .text "\n\n"⟩]⟩]
  clues := [⟨⟨0, 0⟩, .text digitKind, .int 1⟩]

theorem Selection.ofPuzzle_dottedRow :
    ofPuzzle .standard .dottedRow = .ok (.twoCells, [latinSquare, whiteDot]) := by
  have hkind : Puzzle.dottedRow.kind? (.text digitKind) = .ok (some .fourDigits) := by
    simp [Puzzle.kind?, Value.isKey, Puzzle.dottedRow, VariableKind.fourDigits]
  have hclues : Puzzle.dottedRow.clues.forM (checkClue .dottedRow .twoCells) = .ok () := by
    refine forM_eq_ok.2 fun clue hclue ↦ ?_
    obtain rfl := List.mem_singleton.1 hclue
    exact checkClue_of_accepts hkind rfl rfl
  have hknown : [latinSquare, whiteDot] ⊆ rules := by simp [rules]
  have hdigits : ∀ rule ∈ [latinSquare, whiteDot], rule.missingKinds [digitKind] = [] := by decide
  have hrules : [latinSquare, whiteDot].forM (checkRule .standard Puzzle.dottedRow.kinds) =
      .ok () :=
    forM_eq_ok.2 fun rule hrule ↦ checkRule_fourDigits (hknown hrule) (hdigits rule hrule)
  have hselected : resolveSelected .standard [] Puzzle.dottedRow.selected = .ok [latinSquare] := rfl
  have hplaced : resolvePlacements .standard .twoCells [latinSquare] Puzzle.dottedRow.placements =
      .ok [latinSquare, whiteDot] := rfl
  exact ofPuzzle_of_checks rfl rfl hclues hselected hplaced hrules

theorem compile_dottedRow : ∃ document, compile .standard .dottedRow = .ok document ∧
    ∃ text, document.text = text ++ "\n" ∧ ∀ fragment, whiteDot.fragment = some fragment →
      (paragraphs text).filter (holds fragment) = [(sharedBlock whiteDot fragment).text] := by
  have hfaulty : ∀ placement ∈ Puzzle.dottedRow.placements, ¬placement.IsFaulty := by
    have hids : whiteDot.id ≠ killerCage.id ∧ whiteDot.id ≠ arrow.id := by decide
    simp [Puzzle.dottedRow, Placement.IsFaulty, hids.1, hids.2]
  obtain ⟨document, h⟩ := exists_compile_twoCells Selection.ofPuzzle_dottedRow rfl
    (by simp [Puzzle.dottedRow, GroupValue.toValue, Value.isWritable]) hfaulty
  obtain ⟨grid, text, _, _, _, hgrid, htext, _, _, _, _, hshared⟩ := compile_layout h
  obtain rfl : .twoCells = grid := Option.some.inj hgrid
  refine ⟨document, h, text, htext, fun fragment hfragment ↦ ?_⟩
  obtain ⟨_, hholds⟩ := hshared whiteDot (by simp [rules]) rfl fragment hfragment
  rw [hholds]
  exact if_pos (by decide)

end GridPuzzle
