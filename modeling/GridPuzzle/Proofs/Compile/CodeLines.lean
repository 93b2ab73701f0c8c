import GridPuzzle.Proofs.Compile.BlockLines

/-!
# Lines of code

The lines of a document that are neither comments nor blank are those that a solver reads. The
markers and remarks of blocks have none, and the notes among generated items have none either. So
the lines of code of a document are those of its opening, then those of the bodies of its blocks.
-/

namespace GridPuzzle

open Fallible Standard Text

variable {puzzle : Puzzle} {grid : Grid} {selection : Selection} {placements : List Placement}

def isCodeLine (l : String) : Bool := l.toList.head? != some '%' && !isBlankText l

def codeLines (s : String) : List String := (lines s).filter isCodeLine

theorem codeLines_comment (s : String) : codeLines (comment s) = [] :=
  List.filter_eq_nil_iff.2 fun l hl ↦ by simp [isCodeLine, head?_of_mem_comment hl]

theorem codeLines_unlines {texts : List String} (h : ∀ t ∈ texts, IsSolid t) :
    codeLines (unlines texts) = texts.flatMap codeLines := by
  rw [codeLines, IsSolid.lines_stack h, List.filter_flatMap]
  rfl

/-- Blank lines between sections are no lines of code. -/
theorem filter_intercalate (sections : List (List String)) :
    ([""].intercalate sections).filter isCodeLine = sections.flatMap (List.filter isCodeLine) := by
  have hblank : isCodeLine "" = false := by simp [isCodeLine, isBlankText]
  induction sections with
  | nil => rfl
  | cons first rest ih =>
    cases rest with
    | nil => simp [List.intercalate]
    | cons next rest =>
      have hcons : [""].intercalate (first :: next :: rest) =
          first ++ "" :: [""].intercalate (next :: rest) := by simp [List.intercalate]
      rw [hcons, List.filter_append, List.filter_cons_of_neg (by simp [hblank]), ih]
      rfl

theorem codeLines_document {texts : List String} (hne : texts ≠ []) (h : ∀ t ∈ texts, IsSolid t) :
    codeLines (join "\n\n" texts ++ "\n") = texts.flatMap codeLines := by
  rw [codeLines, IsSolid.lines_document hne h, filter_intercalate, List.flatMap_map]
  rfl

theorem codeLines_neutralConstraint : codeLines neutralConstraint = [neutralConstraint] := by
  rw [codeLines, lines_of_isLine (by decide) (by decide)]
  exact List.filter_cons_of_pos (by decide)

theorem codeLines_neutral {reason : String} (h : IsNote reason) :
    codeLines (neutral reason) = [neutralConstraint] := by
  have htext : neutral reason = unlines [comment reason, neutralConstraint] := by
    rw [unlines_cons _ (List.cons_ne_nil _ _), unlines_singleton]
    rfl
  rw [htext, codeLines_unlines, List.flatMap_cons, List.flatMap_singleton, codeLines_comment,
    codeLines_neutralConstraint, List.nil_append]
  simpa using ⟨isSolid_comment h.1, isPlain_neutralConstraint.toIsSolid⟩

/-! ## Generated items -/

def Item.isNote : Item → Bool
  | note _ => true
  | _ => false

/-- The items of a draft that are no notes. -/
def Draft.demands (draft : Draft) : List Item := draft.items.filter (!·.isNote)

theorem codeLines_tidy {cells : List Cell} {draft : Draft} (hne : draft.items ≠ [])
    (hon : ∀ item ∈ draft.items, item.IsOn cells) :
    codeLines (tidy ⟨Items.text draft.items, draft.warnings⟩).text =
      draft.demands.flatMap fun item ↦ codeLines item.text := by
  have hnote (item : Item) (h : item.isNote = true) : codeLines item.text = [] := by
    cases item with
    | note text => exact codeLines_comment text
    | _ => simp [Item.isNote] at h
  rw [codeLines, lines_tidy hne hon, List.filter_flatMap, Draft.demands]
  induction draft.items with
  | nil => rfl
  | cons item rest ih =>
    rw [List.flatMap_cons, ih, List.filter_cons]
    change codeLines item.text ++ _ = _
    cases h : item.isNote with
    | true => simp [hnote item h]
    | false => simp

theorem codeLines_tidy_nil {draft : Draft} (h : draft.items = []) :
    codeLines (tidy ⟨Items.text draft.items, draft.warnings⟩).text = [neutralConstraint] := by
  rw [h]
  exact codeLines_neutral (by decide)

/-! ## Blocks and documents -/

def RuleBlock.code (block : RuleBlock) : List String :=
  block.body.flatMap fun part ↦ codeLines part.text

/-- Markers and remarks are no code. -/
theorem RuleBlock.codeLines_emission {block : RuleBlock} (h : block.IsMarked) :
    codeLines block.emission.text = block.code := by
  have hmarker : codeLines block.marker.line = [] := by
    rw [← h.comment]
    exact codeLines_comment _
  have hremarks : block.remarks.flatMap codeLines = [] := by
    refine List.flatMap_eq_nil_iff.2 fun remark hremark ↦ ?_
    obtain ⟨text, _, rfl⟩ := h.remarks remark hremark
    exact codeLines_comment text
  rw [text_emission h, codeLines_unlines (isSolid_pieces h), List.flatMap_cons, List.flatMap_append,
    hmarker, hremarks, List.flatMap_map]
  rfl

/-- The lines of code of a document that is compiled against the standard catalog. -/
theorem codeLines_compile {document : Emission} (h : compile .standard puzzle = .ok document) :
    ∃ grid selection clues whole placed,
      Selection.ofPuzzle .standard puzzle = .ok (grid, selection) ∧
      puzzle.clueLines = .ok clues ∧ puzzle.wholeBlocks grid selection = .ok whole ∧
      (puzzle.placements.zipIdx 1).mapM (puzzle.blocksAt grid selection) = .ok placed ∧
      codeLines document.text = (puzzle.opening grid clues).flatMap codeLines ++
        whole.flatMap RuleBlock.code ++ placed.flatMap (List.flatMap RuleBlock.code) ++
        codeLines solveItem := by
  obtain ⟨grid, selection, clues, blocks, haccepted, hclues, hblocks, htext, hsolid⟩ :=
    compile_eq_ok h
  have hvalid := Selection.ofPuzzle_eq_ok haccepted
  have hcode : (blocks.map fun block ↦ block.emission.text).flatMap codeLines =
      blocks.flatMap RuleBlock.code := by
    rw [List.flatMap_map]
    refine List.flatMap_congr fun block hblock ↦ ?_
    have hof := (blocks_eq_ok hvalid hblocks).2 block hblock
    exact RuleBlock.codeLines_emission (hof.isMarked hvalid)
  obtain ⟨whole, hwhole, hblocks⟩ := bind_eq_ok.1 hblocks
  obtain ⟨placed, hplaced, hblocks⟩ := bind_eq_ok.1 hblocks
  obtain rfl := Except.ok.inj hblocks
  refine ⟨grid, selection, clues, whole, placed, haccepted, hclues, hwhole, hplaced, ?_⟩
  rw [htext, codeLines_document (by simp [Puzzle.texts]) hsolid, Puzzle.texts, List.flatMap_append,
    List.flatMap_append, hcode, List.flatMap_append, List.flatMap_singleton]
  simp only [List.flatten_eq_flatMap, List.flatMap_assoc, List.append_assoc, id_eq]

end GridPuzzle
