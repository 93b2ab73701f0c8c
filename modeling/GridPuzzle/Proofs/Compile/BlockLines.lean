import GridPuzzle.Proofs.Compile.Lines

/-!
# Lines of blocks

The first line of a block is its marker. Behind it stand the lines of the remarks on the groups of a
placement, and then those of what is emitted. Of these, only lines of remarks can have the form of a
marker, since they quote the values of groups; the rest is known from the rules of the standard
catalog.
-/

namespace GridPuzzle

open Fallible Standard Text

variable {puzzle : Puzzle} {grid : Grid} {selection : Selection} {placements : List Placement}

/-! ## Markers -/

namespace Marker

def rule : Marker → String
  | wholeGrid rule => rule
  | shared rule => rule
  | placed rule _ => rule

def line (marker : Marker) : String := "% " ++ marker.text

end Marker

/-- A line in the form of a marker. -/
def IsMarkerLine (l : String) : Prop := ∃ marker : Marker, l = marker.line

theorem Marker.exists_start (marker : Marker) :
    ∃ start ∈ markerStarts, ('%' :: ' ' :: start) <+: marker.line.toList := by
  cases marker with
  | wholeGrid rule =>
    exact ⟨_, List.mem_cons_self, rule.toList, by simp [line, text, String.toList_append]⟩
  | shared rule =>
    exact ⟨_, List.mem_cons_of_mem _ List.mem_cons_self, (rule ++ " (shared definitions)").toList,
      by simp [line, text, String.toList_append]⟩
  | placed rule position =>
    exact ⟨_, List.mem_cons_of_mem _ List.mem_cons_self,
      (rule ++ " (instance " ++ natText position ++ ")").toList,
      by simp [line, text, String.toList_append]⟩

theorem IsPlainLine.not_isMarkerLine {l : String} (h : IsPlainLine l) : ¬IsMarkerLine l := by
  rintro ⟨marker, rfl⟩
  obtain ⟨start, hstart, hprefix⟩ := marker.exists_start
  exact h.2 start hstart hprefix

theorem not_isMarkerLine_of_head {l : String} {c : Char} (h : l.toList.head? = some c)
    (hc : c ≠ '%') : ¬IsMarkerLine l := by
  rintro ⟨marker, rfl⟩
  have hpercent : marker.line.toList.head? = some '%' := by
    simp [Marker.line, String.toList_append]
  exact hc (Option.some.inj (h.symm.trans hpercent))

/-- The comment line on a line that ends with text. -/
theorem commentLine_of_endsText {l : String} (hend : EndsText l.toList) :
    commentLine l = "% " ++ l := by
  rw [commentLine, stripEnd, String.toList_append, trimEnd_of_endsText (endsText_append _ hend),
    ← String.toList_append, String.ofList_toList]

theorem comment_of_endsText {l : String} (hl : IsLine l.toList) (hend : EndsText l.toList) :
    comment l = "% " ++ l := by
  have hne : l ≠ "" := by
    rintro rfl
    simp [EndsText] at hend
  rw [comment, lines_of_isLine hl hne, List.map_singleton, unlines_singleton,
    commentLine_of_endsText hend]

/-- A marker on a rule whose id is a line is a line as it stands. -/
theorem Marker.comment_text {marker : Marker} (hl : IsLine marker.rule.toList)
    (hend : EndsText marker.rule.toList) :
    IsLine marker.line.toList ∧ comment marker.text = marker.line := by
  have htext : IsLine marker.text.toList ∧ EndsText marker.text.toList := by
    cases marker with
    | wholeGrid rule =>
      simp only [text, String.toList_append, isLine_append]
      exact ⟨⟨by decide, hl⟩, endsText_append _ hend⟩
    | shared rule =>
      simp only [text, String.toList_append, isLine_append]
      exact ⟨⟨⟨by decide, hl⟩, by decide⟩, endsText_append _ (by decide)⟩
    | placed rule position =>
      simp only [text, String.toList_append, isLine_append]
      exact ⟨⟨⟨⟨⟨by decide, hl⟩, by decide⟩, isLine_natText position⟩, by decide⟩,
        endsText_append _ (by decide)⟩
  refine ⟨?_, comment_of_endsText htext.1 htext.2⟩
  rw [line, String.toList_append]
  exact isLine_append.2 ⟨by decide, htext.1⟩

/-- The ids of the standard catalog are lines. -/
theorem isLine_id : ∀ rule ∈ rules, IsLine rule.id.toList ∧ EndsText rule.id.toList := by decide

/-- What is said of a rule that is skipped is a note. -/
theorem isNote_skipped :
    ∀ rule ∈ rules, IsNote (rule.id ++ " skipped: no regions defined") := by decide

/-! ## Emitted text -/

/-- What is written of a rule of the standard catalog for groups: a neutral constraint if the rule
is skipped, nothing if it has no generator, and otherwise what the generator of the library drafts.
-/
theorem Rule.body_eq_ok {rule : Rule} (hrule : rule ∈ rules) {groups : List Group}
    {position : Option Nat} {body : List Emission}
    (h : rule.body placements grid groups position = .ok body) :
    (rule.isSkipped grid = true ∧ body = [skipped rule]) ∨
      (rule.isSkipped grid = false ∧ rule.generator = none ∧ body = []) ∨
      ∃ drafter draft, rule.isSkipped grid = false ∧
        rule.generator = some drafter.toGenerator ∧ (rule.id, drafter) ∈ libraryDrafters ∧
        drafter groups placements grid = .ok draft ∧
        (∀ item ∈ draft.items,
          item.IsOn (groups.flatMap Group.cells ++ placements.flatMap Placement.cells)) ∧
        body = [tidy ⟨Items.text draft.items, draft.warnings⟩] := by
  unfold Rule.body at h
  split at h
  next hskipped => exact .inl ⟨hskipped, (Except.ok.inj h).symm⟩
  next hskipped =>
    rw [Bool.not_eq_true] at hskipped
    unfold generated at h
    split at h
    next hgenerator => exact .inr (.inl ⟨hskipped, hgenerator, (Except.ok.inj h).symm⟩)
    next generator hgenerator =>
      split at h
      next emission hemission =>
        obtain rfl := Except.ok.inj h
        obtain ⟨drafter, draft, hdrafter, rfl, hdraft, rfl, hon, _⟩ :=
          generator_eq_ok hrule hgenerator hemission
        exact .inr (.inr ⟨drafter, draft, hskipped, hgenerator, hdrafter, hdraft, hon, rfl⟩)
      next => simp at h

/-- What is written of a rule of the standard catalog for groups is plain. -/
theorem Rule.isPlain_body {rule : Rule} (hrule : rule ∈ rules) {groups : List Group}
    {position : Option Nat} {body : List Emission}
    (h : rule.body placements grid groups position = .ok body) :
    ∀ part ∈ body, IsPlain part.text := by
  obtain ⟨_, rfl⟩ | ⟨_, _, rfl⟩ | ⟨_, draft, _, _, _, _, hon, rfl⟩ :=
    Rule.body_eq_ok hrule h
  · simpa [skipped] using isPlain_neutral (isNote_skipped rule hrule)
  · simp
  · simpa using isPlain_tidy hon

theorem Rule.isPlain_ownFragment (rule : Rule) (hrule : rule ∈ rules)
    (hscope : rule.scope = .wholeGrid) :
    ∀ text ∈ rule.ownFragment grid, IsPlain text := by
  intro text htext
  unfold Rule.ownFragment at htext
  split at htext
  · simp at htext
  · obtain ⟨fragment, hfragment, rfl⟩ := List.mem_map.1 htext
    obtain ⟨_, hplain⟩ | ⟨hplaced, _⟩ := fragment_cases hrule (Option.mem_toList.1 hfragment)
    · exact hplain
    · rw [hscope] at hplaced
      simp at hplaced

/-- The fragment of a placed rule is the line of its predicate. -/
theorem strip_fragment_mem {rule : Rule} (hrule : rule ∈ rules) (hscope : rule.scope = .placed)
    {fragment : String} (hfragment : rule.fragment = some fragment) :
    (rule.id, strip fragment) ∈ predicateLines := by
  obtain ⟨hwhole, _⟩ | ⟨_, hmem⟩ := fragment_cases hrule hfragment
  · rw [hscope] at hwhole
    simp at hwhole
  · exact hmem

/-- The fragment of a placed rule is a line that declares a predicate. -/
theorem isLine_of_placed {rule : Rule} (hrule : rule ∈ rules) (hscope : rule.scope = .placed)
    {fragment : String} (hfragment : rule.fragment = some fragment) :
    IsLine (strip fragment).toList ∧ (strip fragment).toList.head? = some 'p' := by
  have hline {l : String} {chars : List Char} (htext : l.toList = 'p' :: chars)
      (hchars : IsLine ('p' :: chars)) : IsLine l.toList ∧ l.toList.head? = some 'p' := by
    rw [htext]
    exact ⟨hchars, rfl⟩
  have hmem := strip_fragment_mem hrule hscope hfragment
  simp only [predicateLines, List.mem_cons, Prod.mk.injEq, List.not_mem_nil, or_false] at hmem
  obtain ⟨_, htext⟩ | ⟨_, htext⟩ := hmem
  · rw [htext]
    exact hline String.toList_ofList (by decide)
  · rw [htext]
    exact hline String.toList_ofList (by decide)

/-- The remarks on groups are comments. -/
theorem Rule.isComment_remarks {rule : Rule} {groups : List Group} {remarks : List String}
    (h : rule.remarks groups = .ok remarks) : ∀ remark ∈ remarks, IsComment remark := by
  intro remark hremark
  obtain ⟨⟨group, index⟩, _, hmade⟩ := exists_mem_of_mapM_eq_ok h hremark
  obtain ⟨_, text, rfl⟩ := groupLine_eq_comment hmade
  exact ⟨_, by simp, rfl⟩

/-! ## Blocks -/

namespace RuleBlock

def remarkLines (block : RuleBlock) : List String := block.remarks.flatMap lines

def bodyLines (block : RuleBlock) : List String := block.body.flatMap fun part ↦ lines part.text

def allLines (block : RuleBlock) : List String :=
  block.marker.line :: (block.remarkLines ++ block.bodyLines)

/-- A block whose marker is a line, whose remarks are comments, and whose body is solid and has no
line in the form of a marker. -/
structure IsMarked (block : RuleBlock) : Prop where
  line : IsLine block.marker.line.toList
  comment : comment block.marker.text = block.marker.line
  remarks : ∀ remark ∈ block.remarks, IsComment remark
  body : ∀ part ∈ block.body, IsSolid part.text
  unmarked : ∀ l ∈ block.bodyLines, ¬IsMarkerLine l

variable {block : RuleBlock}

theorem text_emission (h : block.IsMarked) : block.emission.text =
    unlines (block.marker.line :: (block.remarks ++ block.body.map Emission.text)) := by
  simp [RuleBlock.emission, Emission.stack, Emission.plain, h.comment, Function.comp_def]

theorem isSolid_pieces (h : block.IsMarked) :
    ∀ t ∈ block.marker.line :: (block.remarks ++ block.body.map Emission.text), IsSolid t := by
  intro t ht
  simp only [List.mem_cons, List.mem_append, List.mem_map] at ht
  obtain rfl | ht | ⟨part, hpart, rfl⟩ := ht
  · exact isSolid_of_isLine h.line (by simp [Marker.line])
  · exact (h.remarks t ht).isQuiet.toIsSolid
  · exact h.body part hpart

theorem isSolid_emission (h : block.IsMarked) : IsSolid block.emission.text := by
  rw [text_emission h]
  exact .stack (List.cons_ne_nil _ _) (isSolid_pieces h)

theorem lines_emission (h : block.IsMarked) : lines block.emission.text = block.allLines := by
  rw [text_emission h, IsSolid.lines_stack (isSolid_pieces h), List.flatMap_cons,
    lines_of_isLine h.line (by simp [Marker.line])]
  simp [allLines, remarkLines, bodyLines, List.flatMap_map]

/-- The body of a block is plain, or it is the predicate that all placements of a rule share. -/
theorem IsOf.body_cases (hvalid : Selection.Accepted .standard puzzle grid selection)
    (h : block.IsOf puzzle grid selection) :
    (∀ part ∈ block.body, IsPlain part.text) ∨
      ∃ rule ∈ rules, ∃ fragment, rule.scope = .placed ∧ rule.fragment = some fragment ∧
        block = rule.fragmentBlock fragment := by
  cases h with
  | @wholeGrid rule body hrule hscope hbody =>
    refine .inl fun part hpart ↦ ?_
    obtain hpart | hpart := List.mem_append.1 hpart
    · obtain ⟨text, htext, rfl⟩ := List.mem_map.1 hpart
      exact rule.isPlain_ownFragment (hvalid.known rule hrule) hscope text htext
    · exact Rule.isPlain_body (hvalid.known rule hrule) hbody part hpart
  | @shared rule fragment hrule hscope hfragment hskipped =>
    exact .inr ⟨rule, hvalid.known rule hrule, fragment, hscope, hfragment, rfl⟩
  | @placed rule placement position remarks body hrule hscope hplacement hid hremarks hbody =>
    exact .inl (Rule.isPlain_body (hvalid.known rule hrule) hbody)

theorem isMarked_of_plain {block : RuleBlock} {rule : Rule} (hrule : rule ∈ rules)
    (hid : block.marker.rule = rule.id) (hremarks : ∀ remark ∈ block.remarks, IsComment remark)
    (hplain : ∀ part ∈ block.body, IsPlain part.text) : block.IsMarked := by
  obtain ⟨hline, hend⟩ := isLine_id rule hrule
  obtain ⟨hmarker, hcomment⟩ := Marker.comment_text (hid ▸ hline) (hid ▸ hend)
  refine ⟨hmarker, hcomment, hremarks, fun part hpart ↦ (hplain part hpart).toIsSolid, ?_⟩
  intro l hl
  obtain ⟨part, hpart, hl⟩ := List.mem_flatMap.1 hl
  exact ((hplain part hpart).good l hl).not_isMarkerLine

/-- The block of the fragment of a placed rule is marked. -/
theorem isMarked_fragmentBlock {rule : Rule} (hrule : rule ∈ rules) (hscope : rule.scope = .placed)
    {fragment : String} (hfragment : rule.fragment = some fragment) :
    (rule.fragmentBlock fragment).IsMarked := by
  obtain ⟨hline, hhead⟩ := isLine_of_placed hrule hscope hfragment
  obtain ⟨hid, hend⟩ := isLine_id rule hrule
  have hshared : IsLine (Marker.shared rule.id).line.toList ∧
      comment (Marker.shared rule.id).text = (Marker.shared rule.id).line :=
    Marker.comment_text hid hend
  obtain ⟨hmarker, hcomment⟩ := hshared
  have hne : strip fragment ≠ "" := by
    intro hempty
    simp [hempty] at hhead
  refine ⟨hmarker, hcomment, by simp [Rule.fragmentBlock], ?_, ?_⟩
  · simpa [Rule.fragmentBlock, Emission.plain] using isSolid_of_isLine hline hne
  · simp only [bodyLines, Rule.fragmentBlock, Emission.plain, List.flatMap_singleton,
      lines_of_isLine hline hne, List.mem_singleton, forall_eq]
    exact not_isMarkerLine_of_head hhead (by decide)

/-- The blocks of a puzzle that has passed validation are marked. -/
theorem IsOf.isMarked (hvalid : Selection.Accepted .standard puzzle grid selection)
    (h : block.IsOf puzzle grid selection) : block.IsMarked := by
  obtain hplain | ⟨rule, hrule, fragment, hscope, hfragment, rfl⟩ := h.body_cases hvalid
  · cases h with
    | wholeGrid hrule => exact isMarked_of_plain (hvalid.known _ hrule) rfl (by simp) hplain
    | shared hrule =>
      exact isMarked_of_plain (hvalid.known _ hrule) rfl
        (fun _ hmem ↦ absurd hmem List.not_mem_nil) hplain
    | placed hrule _ _ _ hremarks =>
      exact isMarked_of_plain (hvalid.known _ hrule) rfl (Rule.isComment_remarks hremarks) hplain
  · exact isMarked_fragmentBlock hrule hscope hfragment

/-- All blocks but those of shared fragments are quiet. -/
theorem IsOf.isQuiet_emission (hvalid : Selection.Accepted .standard puzzle grid selection)
    (h : block.IsOf puzzle grid selection) (hmarker : ∀ id, block.marker ≠ .shared id) :
    IsQuiet block.emission.text := by
  obtain hplain | ⟨rule, _, _, _, _, rfl⟩ := h.body_cases hvalid
  · have hmarked := h.isMarked hvalid
    rw [text_emission hmarked]
    refine .stack (List.cons_ne_nil _ _) fun t ht ↦ ?_
    simp only [List.mem_cons, List.mem_append, List.mem_map] at ht
    obtain rfl | ht | ⟨part, hpart, rfl⟩ := ht
    · rw [← hmarked.comment]
      exact isQuiet_comment (by cases block.marker <;> simp [Marker.text])
    · exact (hmarked.remarks t ht).isQuiet
    · exact (hplain part hpart).isQuiet
  · exact absurd rfl (hmarker rule.id)

theorem IsOf.head?_lines (hvalid : Selection.Accepted .standard puzzle grid selection)
    (h : block.IsOf puzzle grid selection) :
    (lines block.emission.text).head? = some block.marker.line := by
  rw [lines_emission (h.isMarked hvalid)]
  rfl

end RuleBlock

/-! ## Documents -/

def Puzzle.texts (puzzle : Puzzle) (grid : Grid) (clues : List String) (blocks : List RuleBlock) :
    List String :=
  puzzle.opening grid clues ++ blocks.map (fun block ↦ block.emission.text) ++ [solveItem]

/-- A document that is compiled against the standard catalog consists of solid sections. -/
theorem compile_eq_ok {document : Emission} (h : compile .standard puzzle = .ok document) :
    ∃ grid selection clues blocks, Selection.ofPuzzle .standard puzzle = .ok (grid, selection) ∧
      puzzle.clueLines = .ok clues ∧ puzzle.blocks grid selection = .ok blocks ∧
      document.text = join "\n\n" (puzzle.texts grid clues blocks) ++ "\n" ∧
      ∀ text ∈ puzzle.texts grid clues blocks, IsSolid text := by
  obtain ⟨grid, selection, parts, haccepted, hparts, -, rfl⟩ := exists_sections_of_compile h
  have hvalid := Selection.ofPuzzle_eq_ok haccepted
  obtain ⟨clues, blocks, _, hclues, hblocks, rfl⟩ := sections_eq_ok hvalid hparts
  refine ⟨grid, selection, clues, blocks, haccepted, hclues, hblocks, ?_, fun text htext ↦ ?_⟩
  · simp [documentText, Puzzle.texts, Emission.plain, Function.comp_def]
  · simp only [Puzzle.texts, List.mem_append, List.mem_map, List.mem_singleton] at htext
    obtain (htext | ⟨block, hblock, rfl⟩) | rfl := htext
    · exact (isQuiet_opening hclues grid text htext).toIsSolid
    · have hof := (blocks_eq_ok hvalid hblocks).2 block hblock
      exact RuleBlock.isSolid_emission (hof.isMarked hvalid)
    · exact isQuiet_solveItem.toIsSolid

end GridPuzzle
