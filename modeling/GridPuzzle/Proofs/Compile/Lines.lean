import GridPuzzle.Proofs.Compile.Parts
import GridPuzzle.Proofs.Text.Literal
import GridPuzzle.Proofs.Text.Paragraph

/-!
# Lines of emitted text

Every section of a document consists of lines of which none is empty, whatever the texts are that
its comments quote. The lines of most sections are plain: none of them has the form of a marker, and
none of them declares a predicate. Remarks on the groups of placements are the exception.
-/

namespace GridPuzzle

open Fallible Standard Text
open Document hiding isLine_append

/-- A line that does not start as the declaration of a predicate does. -/
def IsQuietLine (l : String) : Prop := l.toList.head? ≠ some 'p'

instance (l : String) : Decidable (IsQuietLine l) := inferInstanceAs (Decidable (_ ≠ _))

/-- A line that does not start as the declaration of a predicate does, nor as a marker. -/
def IsPlainLine (l : String) : Prop :=
  IsQuietLine l ∧ ∀ start ∈ markerStarts, ¬('%' :: ' ' :: start) <+: l.toList

instance (l : String) : Decidable (IsPlainLine l) := inferInstanceAs (Decidable (_ ∧ _))

/-- A solid text of which every line has a property. -/
structure IsStackOf (good : String → Prop) (s : String) : Prop extends IsSolid s where
  good : ∀ l ∈ lines s, good l

abbrev IsQuiet (s : String) : Prop := IsStackOf IsQuietLine s

abbrev IsPlain (s : String) : Prop := IsStackOf IsPlainLine s

theorem isPlainLine_of_head {l : String} {c : Char} (h : l.toList.head? = some c)
    (hc : c ≠ '%' ∧ c ≠ 'p') : IsPlainLine l := by
  refine ⟨fun heq ↦ hc.2 (Option.some.inj (h.symm.trans heq)), fun start _ hprefix ↦ hc.1 ?_⟩
  obtain ⟨tail, htail⟩ := hprefix
  rw [← htail] at h
  exact (Option.some.inj h).symm

/-! ## Putting texts together -/

theorem IsPlain.isQuiet {s : String} (h : IsPlain s) : IsQuiet s :=
  ⟨h.toIsSolid, fun l hl ↦ (h.good l hl).1⟩

theorem isStackOf_of_isLine {good : String → Prop} {l : String} (hl : IsLine l.toList)
    (hne : l ≠ "") (hgood : good l) : IsStackOf good l where
  toIsSolid := isSolid_of_isLine hl hne
  good := by simpa [lines_of_isLine hl hne] using hgood

theorem isPlain_line {l : String} {c : Char} (hl : IsLine l.toList) (h : l.toList.head? = some c)
    (hc : c ≠ '%' ∧ c ≠ 'p') : IsPlain l := by
  refine isStackOf_of_isLine hl ?_ (isPlainLine_of_head h hc)
  rintro rfl
  simp at h

theorem IsStackOf.stack {good : String → Prop} {texts : List String} (hne : texts ≠ [])
    (h : ∀ t ∈ texts, IsStackOf good t) : IsStackOf good (unlines texts) where
  toIsSolid := IsSolid.stack hne fun t ht ↦ (h t ht).toIsSolid
  good l hl := by
    rw [IsSolid.lines_stack fun t ht ↦ (h t ht).toIsSolid] at hl
    obtain ⟨t, ht, hl⟩ := List.mem_flatMap.1 hl
    exact (h t ht).good l hl

/-! ## Comments -/

theorem toList_commentLine (l : String) :
    ∃ rest, (commentLine l).toList = '%' :: rest ∧ rest <+: ' ' :: l.toList := by
  obtain ⟨rest, heq, hprefix⟩ :=
    exists_trimEnd_cons (by decide : isBlank '%' = false) (' ' :: l.toList)
  exact ⟨rest, by simpa [commentLine, stripEnd] using heq, hprefix⟩

theorem isLine_commentLine {l : String} (hl : IsLine l.toList) :
    IsLine (commentLine l).toList ∧ commentLine l ≠ "" := by
  obtain ⟨rest, heq, hprefix⟩ := toList_commentLine l
  refine ⟨?_, fun hempty ↦ by simp [hempty] at heq⟩
  rw [heq]
  exact isLine_cons.2 ⟨by decide, (isLine_cons.2 ⟨by decide, hl⟩).subset hprefix.subset⟩

theorem lines_comment (s : String) : lines (comment s) = (lines s).map commentLine := by
  refine lines_unlines fun l hl ↦ ?_
  obtain ⟨line, hline, rfl⟩ := List.mem_map.1 hl
  exact isLine_commentLine (isLine_of_mem_lines hline)

/-- A comment on any text that is not empty is solid. -/
theorem isSolid_comment {s : String} (h : s ≠ "") : IsSolid (comment s) := by
  refine isSolid_unlines ?_ fun l hl ↦ ?_
  · simpa using lines_ne_nil h
  · obtain ⟨line, hline, rfl⟩ := List.mem_map.1 hl
    exact isLine_commentLine (isLine_of_mem_lines hline)

/-- Every line of a comment is one. -/
theorem head?_of_mem_comment {s l : String} (h : l ∈ lines (comment s)) :
    l.toList.head? = some '%' := by
  rw [lines_comment] at h
  obtain ⟨line, _, rfl⟩ := List.mem_map.1 h
  obtain ⟨rest, heq, _⟩ := toList_commentLine line
  simp [heq]

/-- A comment declares nothing, whatever its text is. -/
theorem isQuiet_comment {s : String} (h : s ≠ "") : IsQuiet (comment s) where
  toIsSolid := isSolid_comment h
  good l hl := by simp [IsQuietLine, head?_of_mem_comment hl]

def IsComment (s : String) : Prop := ∃ text, text ≠ "" ∧ s = comment text

theorem IsComment.isQuiet {s : String} (h : IsComment s) : IsQuiet s := by
  obtain ⟨text, hne, rfl⟩ := h
  exact isQuiet_comment hne

theorem IsComment.head?_of_mem {s l : String} (h : IsComment s) (hl : l ∈ lines s) :
    l.toList.head? = some '%' := by
  obtain ⟨text, _, rfl⟩ := h
  exact head?_of_mem_comment hl

theorem isPlainLine_commentLine {l : String} (h : ∀ start ∈ markerStarts, ¬start <+: l.toList) :
    IsPlainLine (commentLine l) := by
  obtain ⟨rest, heq, hprefix⟩ := toList_commentLine l
  refine ⟨by simp [IsQuietLine, heq], fun start hstart hmarker ↦ h start hstart ?_⟩
  rw [heq] at hmarker
  have hrest := (List.cons_prefix_cons.1 hmarker).2.trans hprefix
  exact (List.cons_prefix_cons.1 hrest).2

/-- A comment of one line that does not start as a marker does. -/
theorem isPlain_comment {text : String} (h : IsNote text) : IsPlain (comment text) where
  toIsSolid := isSolid_comment h.1
  good := by
    rw [lines_comment, lines_of_isLine h.2.1 h.1]
    simpa using isPlainLine_commentLine h.2.2

theorem isPlain_neutralConstraint : IsPlain neutralConstraint :=
  isPlain_line (c := 'c') (by decide) rfl (by decide)

theorem isPlain_neutral {reason : String} (h : IsNote reason) : IsPlain (neutral reason) := by
  have hstack : IsPlain (unlines [comment reason, neutralConstraint]) :=
    .stack (by simp) (by simpa using ⟨isPlain_comment h, isPlain_neutralConstraint⟩)
  rwa [unlines_cons _ (List.cons_ne_nil _ _), unlines_singleton] at hstack

/-! ## Items -/

theorem isLine_of_isBody {s : List Char} (h : Document.IsBody (fun _ ↦ True) s) : IsLine s :=
  (Document.isLine_of_isBodyChar h.chars).1

theorem Cell.isLine_digitText (cell : Cell) : IsLine cell.digitText.toList :=
  isLine_of_isBody (isBody_digitText trivial)

theorem Term.isLine_text (term : Term) : IsLine term.text.toList :=
  isLine_of_isBody (Term.isBody_text fun _ _ ↦ trivial)

theorem isLine_constraintText {body : String} (h : IsLine body.toList) :
    IsLine (constraintText body).toList := by
  rw [toList_constraintText]
  exact isLine_append.2 ⟨by decide, isLine_append.2 ⟨h, by decide⟩⟩

theorem isPlain_constraintText {body : String} (h : IsLine body.toList) :
    IsPlain (constraintText body) := by
  refine isPlain_line (c := 'c') (isLine_constraintText h) ?_ (by decide)
  rw [toList_constraintText]
  rfl

theorem isLine_digits (sep : String) (hsep : IsLine sep.toList) (cells : List Cell) :
    IsLine (join sep (cells.map Cell.digitText)).toList := by
  rw [toList_join]
  refine isLine_intercalate hsep fun p hp ↦ ?_
  obtain ⟨piece, hpiece, rfl⟩ := List.mem_map.1 hp
  obtain ⟨cell, _, rfl⟩ := List.mem_map.1 hpiece
  exact cell.isLine_digitText

theorem Item.isPlain_text {cells : List Cell} {item : Item} (h : item.IsOn cells) :
    IsPlain item.text := by
  cases item with
  | note text => exact isPlain_comment (h.stated text rfl)
  | always => exact isPlain_neutralConstraint
  | allDifferent cells =>
    refine isPlain_constraintText ?_
    simp only [String.toList_append, isLine_append]
    exact ⟨⟨by decide, isLine_digits ", " (by decide) cells⟩, by decide⟩
  | equal left right =>
    refine isPlain_constraintText ?_
    simp only [String.toList_append, isLine_append]
    exact ⟨⟨left.isLine_text, by decide⟩, right.isLine_text⟩
  | less a b =>
    refine isPlain_constraintText ?_
    simp only [String.toList_append, isLine_append]
    exact ⟨⟨a.isLine_digitText, by decide⟩, b.isLine_digitText⟩
  | farApart a b =>
    refine isPlain_constraintText ?_
    simp only [String.toList_append, isLine_append]
    exact ⟨⟨⟨⟨by decide, a.isLine_digitText⟩, by decide⟩, b.isLine_digitText⟩, by decide⟩
  | dotted relation a b =>
    have hname : IsLine relation.predicate.toList := by cases relation <;> decide
    refine isPlain_constraintText ?_
    simp only [String.toList_append, isLine_append]
    exact ⟨⟨⟨⟨⟨hname, by decide⟩, a.isLine_digitText⟩, by decide⟩, b.isLine_digitText⟩, by decide⟩
  | defineTotal term =>
    refine isPlain_line (c := 'v') ?_ (by simp [Item.text]) (by decide)
    simp only [Item.text, String.toList_append, isLine_append]
    exact ⟨⟨⟨⟨by decide, by decide⟩, by decide⟩, term.isLine_text⟩, by decide⟩

/-- The items of a draft have no white space around them that could be taken away. -/
theorem text_tidy {cells : List Cell} {items : List Item} {warnings : List Warning}
    (hne : items ≠ []) (hon : ∀ item ∈ items, item.IsOn cells) :
    (tidy ⟨Items.text items, warnings⟩).text = unlines (items.map Item.text) := by
  obtain ⟨item, rest, rfl⟩ := List.exists_cons_of_ne_nil hne
  have hframed := isFramed_itemsText hon
  simp only [tidy, strip_of_isFramed hframed, isEmpty_of_startsText hframed.1, Bool.false_eq_true,
    if_false]
  rfl

/-- What a generator of the standard catalog writes is plain, also when the white space around it is
gone. -/
theorem isPlain_tidy {cells : List Cell} {items : List Item} {warnings : List Warning}
    (hon : ∀ item ∈ items, item.IsOn cells) : IsPlain (tidy ⟨Items.text items, warnings⟩).text := by
  cases items with
  | nil => exact isPlain_neutral (by decide)
  | cons item rest =>
    rw [text_tidy (List.cons_ne_nil item rest) hon]
    refine IsStackOf.stack (by simp) fun t ht ↦ ?_
    obtain ⟨own, hown, rfl⟩ := List.mem_map.1 ht
    exact Item.isPlain_text (hon own hown)

/-- The lines of what a generator writes are those of its items. -/
theorem lines_tidy {cells : List Cell} {items : List Item} {warnings : List Warning}
    (hne : items ≠ []) (hon : ∀ item ∈ items, item.IsOn cells) :
    lines (tidy ⟨Items.text items, warnings⟩).text = items.flatMap fun item ↦ lines item.text := by
  have hsolid : ∀ t ∈ items.map Item.text, IsSolid t := by
    intro t ht
    obtain ⟨item, hitem, rfl⟩ := List.mem_map.1 ht
    exact (Item.isPlain_text (hon item hitem)).toIsSolid
  rw [text_tidy hne hon, IsSolid.lines_stack hsolid, List.flatMap_map]

/-! ## Fragments -/

theorem strip_fragmentText {ls : List String} (hne : ls ≠ [])
    (hframed : IsFramed (unlines ls).toList) : strip (fragmentText ls) = unlines ls := by
  rw [strip, toList_fragmentText hne, trim_concat_break hframed, String.ofList_toList]

/-- The lines of a fragment that start and end with text. -/
theorem strip_fragmentText_of_ends {ls : List String} (hne : ls ≠ [])
    (hstart : StartsText (ls.head hne).toList) (hend : EndsText (ls.getLast hne).toList) :
    strip (fragmentText ls) = unlines ls := by
  refine strip_fragmentText hne ⟨?_, endsText_unlines hne hend⟩
  rw [← List.cons_head_tail hne]
  exact startsText_unlines hstart _

/-- Whether a line of a fragment starts neither as a predicate nor as a marker. -/
def isPlainChars (l : List Char) : Bool :=
  l.all (!isLineBreak ·) && l.head?.any (· != 'p') &&
    markerStarts.all fun start ↦ !('%' :: ' ' :: start).isPrefixOf l

theorem isPlain_of_isPlainChars {s : String} {l : List Char} (hs : s.toList = l)
    (h : isPlainChars l = true) : IsPlain s := by
  simp only [isPlainChars, Bool.and_eq_true, List.all_eq_true, Bool.not_eq_true'] at h
  obtain ⟨⟨hline, hhead⟩, hstarts⟩ := h
  apply isStackOf_of_isLine
  · rw [hs]
    exact hline
  · rintro rfl
    obtain rfl : [] = l := hs
    simp at hhead
  · constructor
    · rw [IsQuietLine, hs]
      intro heq
      simp [heq] at hhead
    · intro start hstart hprefix
      have hnot := hstarts start hstart
      rw [hs] at hprefix
      rw [List.isPrefixOf_iff_prefix.2 hprefix] at hnot
      exact Bool.noConfusion hnot

/-- The lines of the predicates that placements share, under the ids of the rules. -/
def predicateLines : List (String × String) :=
  [(blackDot.id, "predicate kropki_ratio(var int: a, var int: b) = a = 2 * b \\/ b = 2 * a;"),
    (whiteDot.id, "predicate kropki_consecutive(var int: a, var int: b) = abs(a - b) = 1;")]

/-- The fragments of rules of the whole grid are plain, and those of placed rules are the line of a
predicate. -/
theorem fragment_cases {rule : Rule} (hrule : rule ∈ rules) {fragment : String}
    (hfragment : rule.fragment = some fragment) :
    (rule.scope = .wholeGrid ∧ IsPlain (strip fragment)) ∨
      (rule.scope = .placed ∧ (rule.id, strip fragment) ∈ predicateLines) := by
  have hwhole {ls : List String} (hne : ls ≠ []) (htext : fragment = fragmentText ls)
      (hstart : StartsText (ls.head hne).toList) (hend : EndsText (ls.getLast hne).toList)
      (hlines : ∀ l ∈ ls, IsPlain l) : IsPlain (strip fragment) := by
    rw [htext, strip_fragmentText_of_ends hne hstart hend]
    exact .stack hne hlines
  have hplaced {l : String} (htext : fragment = fragmentText [l]) (hstart : StartsText l.toList)
      (hend : EndsText l.toList) : strip fragment = l := by
    rw [htext, strip_fragmentText_of_ends (List.cons_ne_nil l []) hstart hend, unlines_singleton]
  have hrows : IsPlain rowsDiffer := isPlain_of_isPlainChars String.toList_ofList (by decide)
  have hcols : IsPlain colsDiffer := isPlain_of_isPlainChars String.toList_ofList (by decide)
  simp only [rules, List.mem_cons, List.not_mem_nil, or_false] at hrule
  obtain rfl | rfl | rfl | rfl | rfl | rfl | rfl | rfl | rfl | rfl | rfl | rfl := hrule
  all_goals first | exact absurd hfragment (Option.some_ne_none fragment).symm | skip
  all_goals have htext := (Option.some.inj hfragment).symm
  · refine .inl ⟨rfl, hwhole (List.cons_ne_nil _ _) htext (startsText_ofList (by decide))
      (endsText_ofList_append (by decide)) ?_⟩
    simp only [List.forall_mem_cons, List.not_mem_nil, false_implies, implies_true, and_true]
    exact ⟨isPlain_of_isPlainChars String.toList_ofList (by decide),
      isPlain_of_isPlainChars (toList_ofList_append _ _) (by decide)⟩
  · refine .inl ⟨rfl, hwhole (List.cons_ne_nil _ _) htext (startsText_ofList (by decide))
      (endsText_ofList (by decide)) ?_⟩
    simp only [List.forall_mem_cons, List.not_mem_nil, false_implies, implies_true, and_true]
    exact ⟨isPlain_of_isPlainChars String.toList_ofList (by decide), hrows, hcols⟩
  · refine .inl ⟨rfl, hwhole (List.cons_ne_nil _ _) htext (startsText_ofList (by decide))
      (endsText_ofList_append (by decide)) ?_⟩
    simp only [List.forall_mem_cons, List.not_mem_nil, false_implies, implies_true, and_true]
    exact ⟨isPlain_of_isPlainChars String.toList_ofList (by decide),
      isPlain_of_isPlainChars (toList_ofList_append _ _) (by decide),
      isPlain_of_isPlainChars (toList_ofList_append _ _) (by decide)⟩
  · refine .inl ⟨rfl, hwhole (List.cons_ne_nil _ _) htext (startsText_ofList (by decide))
      (endsText_ofList (by decide)) ?_⟩
    simp only [List.forall_mem_cons, List.not_mem_nil, false_implies, implies_true, and_true]
    exact ⟨isPlain_of_isPlainChars String.toList_ofList (by decide), hrows, hcols,
      isPlain_of_isPlainChars String.toList_ofList (by decide),
      isPlain_of_isPlainChars String.toList_ofList (by decide),
      isPlain_of_isPlainChars String.toList_ofList (by decide)⟩
  · rw [hplaced htext (startsText_ofList (by decide)) (endsText_ofList (by decide))]
    exact .inr ⟨rfl, List.mem_cons_self⟩
  · rw [hplaced htext (startsText_ofList (by decide)) (endsText_ofList (by decide))]
    exact .inr ⟨rfl, List.mem_cons_of_mem _ List.mem_cons_self⟩

/-! ## Declarations and clues -/

theorem isQuiet_ofList {c : Char} {l : List Char} (hl : IsLine (c :: l)) (hc : c ≠ 'p') :
    IsQuiet (String.ofList (c :: l)) :=
  isStackOf_of_isLine (by rwa [String.toList_ofList]) (by simp) (by simpa [IsQuietLine] using hc)

theorem isQuiet_toList {s : String} {c : Char} {l : List Char} (hs : s.toList = c :: l)
    (hl : IsLine (c :: l)) (hc : c ≠ 'p') : IsQuiet s := by
  rw [← String.ofList_toList (s := s), hs]
  exact isQuiet_ofList hl hc

/-- A line feed behind an array ends a line, and both lines are quiet. -/
theorem isQuiet_of_array (kind : VariableKind) {s : String} {front back : List Char} {c d : Char}
    (hs : s.toList = c :: front ++ (kind.array.toList ++ d :: back)) (hfront : IsLine (c :: front))
    (hback : IsLine (d :: back)) (hc : c ≠ 'p') (hd : d ≠ 'p') : IsQuiet s := by
  obtain ⟨hplain, hcases⟩ := kind.identifier_cases
  have hname : IsLine kind.identifier :=
    isLine_of_isBody (isBody_of_plain hplain)
  obtain harray | harray := hcases
  · refine isQuiet_toList (c := c) (l := front ++ (kind.identifier ++ d :: back)) ?_ ?_ hc
    · rw [hs, harray, List.cons_append]
    · rw [← List.cons_append]
      exact isLine_append.2 ⟨hfront, isLine_append.2 ⟨hname, hback⟩⟩
  · have htext : s = unlines
        [String.ofList (c :: (front ++ kind.identifier)), String.ofList (d :: back)] := by
      rw [← String.toList_inj, toList_unlines_cons, unlines_singleton, hs, harray]
      simp
    rw [htext]
    refine .stack (List.cons_ne_nil _ _) ?_
    simp only [List.forall_mem_cons, List.not_mem_nil, false_implies, implies_true, and_true]
    refine ⟨isQuiet_ofList ?_ hc, isQuiet_ofList hback hd⟩
    rw [← List.cons_append]
    exact isLine_append.2 ⟨hfront, hname⟩

theorem isQuiet_declareGrid (grid : Grid) : IsQuiet (declareGrid grid) := by
  have hline {start : String} {rest : List Char} (hstart : start.toList = 'i' :: rest)
      (hrest : IsLine rest) (n : Nat) : IsQuiet (start ++ natText n ++ ";") := by
    refine isQuiet_toList (c := 'i') (l := rest ++ ((natText n).toList ++ [';'])) ?_ ?_ (by decide)
    · simp [hstart]
    · exact isLine_cons.2 ⟨by decide, isLine_append.2 ⟨hrest, isLine_append.2
        ⟨isLine_natText n, by decide⟩⟩⟩
  refine .stack (List.cons_ne_nil _ _) ?_
  simp only [List.forall_mem_cons, List.not_mem_nil, false_implies, implies_true, and_true]
  refine ⟨?_, hline String.toList_ofList (by decide) _, hline String.toList_ofList (by decide) _,
    hline String.toList_ofList (by decide) _, ?_⟩
  · split <;> exact (isPlain_comment (by decide)).isQuiet
  · have hmatrix : IsLine (matrixText grid.emittedMap).toList :=
      isLine_of_isBody (isBody_matrixText _)
    refine (isPlain_line (c := 'a') ?_ ?_ (by decide)).isQuiet
    · simp only [String.toList_append, isLine_append]
      exact ⟨⟨by decide, hmatrix⟩, by decide⟩
    · simp [String.toList_append]

theorem isQuiet_declareKind (kind : VariableKind) : IsQuiet (declareKind kind) := by
  have htype : IsLine kind.domain.text.toList := by
    have hbody := isLine_of_isBody kind.domain.isBody_typeText
    exact (isLine_append.1 hbody).2
  refine .stack (List.cons_ne_nil _ _) ?_
  simp only [List.forall_mem_cons, List.not_mem_nil, false_implies, implies_true, and_true]
  refine ⟨isQuiet_comment (by simp), ?_⟩
  have hs : ("array[1..rows, 1..cols] of var " ++ kind.domain.text ++ ": " ++ kind.array ++
      ";").toList = 'a' :: ("rray[1..rows, 1..cols] of var ".toList ++
        (kind.domain.text.toList ++ [':', ' '])) ++ (kind.array.toList ++ ';' :: []) := by
    simp [String.toList_append]
  apply isQuiet_of_array kind hs
  · exact isLine_cons.2 ⟨by decide, isLine_append.2 ⟨by decide, isLine_append.2
      ⟨htype, by decide⟩⟩⟩
  · decide
  · decide
  · decide

theorem isQuiet_clueLine (kind : VariableKind) (clue : Clue) : IsQuiet (clueLine kind clue) := by
  have hvalue : IsLine clue.value.emitted.toList :=
    isLine_of_isBody (isBody_emitted clue.value)
  have hplace : IsLine (CellReference.placeText (clue.cell.row + 1) (clue.cell.col + 1)) :=
    (isLine_of_isBodyChar (isBodyChar_of_mem_placeText _ _)).1
  have hback := isLine_append.2 ⟨hplace, isLine_append (s := " = ".toList).2
    ⟨by decide, isLine_append.2 ⟨hvalue, (by decide : IsLine [';'])⟩⟩⟩
  exact isQuiet_of_array kind (toList_clueLine kind clue) (by decide) hback (by decide)
    (by decide)

theorem isQuiet_clueSections {clues : List String} (h : ∀ line ∈ clues, IsQuiet line) :
    ∀ s ∈ clueSections clues, IsQuiet s := by
  unfold clueSections
  split
  · simp
  · simp only [List.mem_singleton, forall_eq]
    exact .stack (List.cons_ne_nil _ _)
      (List.forall_mem_cons.2 ⟨isQuiet_comment (by decide), h⟩)

/-- The first sections of a document declare no predicate. -/
theorem isQuiet_opening {puzzle : Puzzle} {clues : List String}
    (hclues : puzzle.clueLines = .ok clues) (grid : Grid) :
    ∀ s ∈ puzzle.opening grid clues, IsQuiet s := by
  have hline : ∀ line ∈ clues, IsQuiet line := by
    intro line hline
    obtain ⟨clue, _, hmade⟩ := exists_mem_of_mapM_eq_ok hclues hline
    obtain ⟨kind, _, rfl⟩ := map_eq_ok.1 hmade
    exact isQuiet_clueLine kind clue
  intro s hs
  simp only [Puzzle.opening, List.mem_append, List.mem_cons, List.mem_map] at hs
  obtain (rfl | rfl | ⟨kind, _, rfl⟩) | hs := hs
  · exact (isPlain_line (c := 'i') (by decide) rfl (by decide)).isQuiet
  · exact isQuiet_declareGrid grid
  · exact isQuiet_declareKind kind
  · exact isQuiet_clueSections hline s hs

theorem isQuiet_solveItem : IsQuiet solveItem :=
  (isPlain_line (c := 's') (by decide) rfl (by decide)).isQuiet

end GridPuzzle
