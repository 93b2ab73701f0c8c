import GridPuzzle.Proofs.Compile.Names

/-!
# Repeated declarations

A document that is returned has passed its check, and still it may declare a name twice. The check
does not see the declaration of an array with a line feed behind its name, nor one with a minus sign
in its type. These are the only ways: a name is repeated exactly when a kind's array is another name
of the document with a line feed behind it, or is that of the shared total, with a negative bound,
where the shared total is declared.
-/

namespace GridPuzzle

open Fallible Document Standard

variable {puzzle : Puzzle} {grid : Grid} {selection : Selection}

/-! ## Identifiers of arrays -/

namespace VariableKind

theorem identifier_of_break {kind : VariableKind} {name : String} (h : kind.array = name ++ "\n") :
    kind.identifier = name.toList := by
  simp [identifier, h, dropFinalBreak]

theorem identifier_of_not_mem {kind : VariableKind} (h : '\n' ∉ kind.array.toList) :
    kind.identifier = kind.array.toList := by
  obtain heq | heq := kind.identifier_cases.2
  · exact heq.symm
  · simp [heq] at h

theorem break_not_mem_identifier (kind : VariableKind) : '\n' ∉ kind.identifier := fun hmem ↦
  absurd (isIdentifierChar_of_plain kind.identifier_cases.1 '\n' hmem) (by decide)

/-- An array is its identifier, or that with a line feed behind it. -/
theorem array_eq_or (kind : VariableKind) : kind.array = String.ofList kind.identifier ∨
    kind.array = String.ofList kind.identifier ++ "\n" := by
  obtain heq | heq := kind.identifier_cases.2
  · exact .inl (by rw [← heq, String.ofList_toList])
  · refine .inr (String.toList_injective ?_)
    simp [heq]

/-- Kinds with distinct arrays declare one name just if the arrays differ in a line feed. -/
theorem identifier_eq_iff {first second : VariableKind} (hne : first.array ≠ second.array) :
    first.identifier = second.identifier ↔
      first.array = second.array ++ "\n" ∨ second.array = first.array ++ "\n" := by
  constructor
  · intro heq
    obtain hfirst | hfirst := first.array_eq_or <;> obtain hsecond | hsecond := second.array_eq_or
    · exact absurd (by rw [hfirst, hsecond, heq]) hne
    · exact .inr (by rw [hsecond, hfirst, heq])
    · exact .inl (by rw [hsecond, hfirst, heq])
    · exact absurd (by rw [hfirst, hsecond, heq]) hne
  · have hbreak {kind other : VariableKind} (h : kind.array = other.array ++ "\n") :
        kind.identifier = other.identifier := by
      have hown := identifier_of_break h
      have hnone : '\n' ∉ other.array.toList := hown ▸ kind.break_not_mem_identifier
      rw [hown, identifier_of_not_mem hnone]
    rintro (h | h)
    · exact hbreak h
    · exact (hbreak h).symm

end VariableKind

/-! ## The shared total -/

/-- The shared total is declared where the rule on it is selected and there is something to sum. -/
theorem sharedTotal_mem_ruleNames (h : Selection.Accepted .standard puzzle grid selection) :
    sharedTotal ∈ puzzle.ruleNames grid selection ↔
      .text globalRegionSumLines.id ∈ puzzle.selected ∧
        RegionSum.declaresTotal puzzle.placements grid = true := by
  constructor
  · intro hname
    obtain hname | hname := List.mem_append.1 hname
    · obtain ⟨rule, hrule, hname⟩ := List.mem_flatMap.1 hname
      obtain ⟨_, hid, hdeclares⟩ := of_mem_selectedNames h hrule hname
      exact ⟨hid ▸ (h.mem_of_found hrule).2.2, hdeclares⟩
    · exact absurd hname (sharedTotal_not_mem_placed h)
  · rintro ⟨hid, hdeclares⟩
    obtain ⟨rule, hrule⟩ := h.exists_find?_selected hid
    obtain ⟨hmem, hrule'⟩ := Selection.find?_text hrule
    refine List.mem_append_left _ (List.mem_flatMap.2 ⟨rule, ?_, ?_⟩)
    · exact List.mem_filterMap.2 ⟨_, hid, hrule⟩
    have hscope := (h.find?_selected hid hrule).2
    have hregions : grid.regions.isSome = true := (Bool.and_eq_true_iff.1 hdeclares).1
    have hskipped : rule.isSkipped grid = false := by
      simp [Rule.isSkipped, ← Option.not_isSome, hregions]
    rw [selectedNames_of_wholeGrid (h.known rule hmem) hscope, hskipped]
    exact mem_total.2 ⟨rfl, hrule'.symm, hdeclares⟩

/-! ## Repeats -/

/-- A kind declares a name of the document once more where the check does not see it. -/
def Puzzle.HasHiddenRepeat (puzzle : Puzzle) (grid : Grid) (selection : Selection) : Prop :=
  ∃ kind ∈ puzzle.kinds,
    (∃ name ∈ gridNames ++ puzzle.kinds.map VariableKind.array ++ puzzle.ruleNames grid selection,
      kind.array = name ++ "\n") ∨
    (kind.array = sharedTotal ∧ kind.domain.isUnsigned = false ∧
      .text globalRegionSumLines.id ∈ puzzle.selected ∧
        RegionSum.declaresTotal puzzle.placements grid = true)

def Puzzle.modelNames (puzzle : Puzzle) (grid : Grid) (selection : Selection) :
    List (List Char) :=
  gridNames.map String.toList ++ puzzle.kinds.map VariableKind.identifier ++
    (puzzle.ruleNames grid selection).map String.toList

/-- A hidden repeat is a repeat. -/
theorem not_nodup_of_hasHiddenRepeat (h : Selection.Accepted .standard puzzle grid selection)
    (hrepeat : puzzle.HasHiddenRepeat grid selection) :
    ¬(puzzle.modelNames grid selection).Nodup := by
  intro hnodup
  obtain ⟨hfront, _, hrules⟩ := List.nodup_append.1 hnodup
  obtain ⟨_, hkinds, hgrid⟩ := List.nodup_append.1 hfront
  obtain ⟨kind, hkind, ⟨name, hname, harray⟩ | ⟨harray, _, hselected, hdeclares⟩⟩ := hrepeat
  · have hown := VariableKind.identifier_of_break harray
    have hmem : name.toList ∈ puzzle.kinds.map VariableKind.identifier :=
      List.mem_map.2 ⟨kind, hkind, hown⟩
    simp only [List.mem_append] at hname
    obtain (hname | hname) | hname := hname
    · exact hgrid _ (List.mem_map_of_mem hname) _ hmem rfl
    · obtain ⟨other, hother, rfl⟩ := List.mem_map.1 hname
      have hbreak : '\n' ∉ other.array.toList := hown ▸ kind.break_not_mem_identifier
      have hsame := hown.trans (VariableKind.identifier_of_not_mem hbreak).symm
      obtain rfl := List.inj_on_of_nodup_map hkinds hkind hother hsame
      rw [harray] at hbreak
      simp at hbreak
    · exact hrules _ (List.mem_append_right _ hmem) _ (List.mem_map_of_mem hname) rfl
  · have hbreak : '\n' ∉ kind.array.toList := by
      rw [harray]
      decide
    have hown := VariableKind.identifier_of_not_mem hbreak
    have hmem : sharedTotal.toList ∈ puzzle.kinds.map VariableKind.identifier :=
      List.mem_map.2 ⟨kind, hkind, by rw [hown, harray]⟩
    have htotal := (sharedTotal_mem_ruleNames h).2 ⟨hselected, hdeclares⟩
    exact hrules _ (List.mem_append_right _ hmem) _ (List.mem_map_of_mem htotal) rfl

/-- Where no repeat is hidden, a kind that declares a name of the document has it as its array. -/
theorem array_eq_of_identifier (hnot : ¬puzzle.HasHiddenRepeat grid selection)
    {kind : VariableKind} (hkind : kind ∈ puzzle.kinds) {name : String}
    (hname : name ∈ gridNames ++ puzzle.kinds.map VariableKind.array ++
      puzzle.ruleNames grid selection) (heq : kind.identifier = name.toList) :
    kind.array = name := by
  have harray := kind.array_eq_or
  rw [heq, String.ofList_toList] at harray
  exact harray.resolve_right fun hbreak ↦ hnot ⟨kind, hkind, .inl ⟨name, hname, hbreak⟩⟩

/-- Kinds with distinct arrays then declare distinct names. -/
theorem nodup_identifiers (harrays : (puzzle.kinds.map VariableKind.array).Nodup)
    (hnot : ¬puzzle.HasHiddenRepeat grid selection) :
    (puzzle.kinds.map VariableKind.identifier).Nodup := by
  refine List.pairwise_map.2 ((List.pairwise_map.1 harrays).imp_of_mem ?_)
  intro first second hfirst hsecond hne heq
  have hmem {kind : VariableKind} (hkind : kind ∈ puzzle.kinds) : kind.array ∈
      gridNames ++ puzzle.kinds.map VariableKind.array ++ puzzle.ruleNames grid selection :=
    List.mem_append_left _ (List.mem_append_right _ (List.mem_map_of_mem hkind))
  obtain hbreak | hbreak := (VariableKind.identifier_eq_iff hne).1 heq
  · exact hnot ⟨first, hfirst, .inl ⟨second.array, hmem hsecond, hbreak⟩⟩
  · exact hnot ⟨second, hsecond, .inl ⟨first.array, hmem hfirst, hbreak⟩⟩

/-- No kind declares a name of a rule where the check finds no name twice. -/
theorem identifier_ne_ruleName (h : Selection.Accepted .standard puzzle grid selection)
    (hfound : ∀ own ∈ puzzle.kinds.flatMap VariableKind.found,
      ∀ name ∈ (puzzle.ruleNames grid selection).map String.toList, own ≠ name)
    (hnot : ¬puzzle.HasHiddenRepeat grid selection) {kind : VariableKind}
    (hkind : kind ∈ puzzle.kinds) {name : String} (hname : name ∈ puzzle.ruleNames grid selection) :
    kind.identifier ≠ name.toList := by
  intro heq
  have harray := array_eq_of_identifier hnot hkind (by simp [hname]) heq
  obtain rfl | hnone := (ruleNames_fresh h hname).2
  · cases hunsigned : kind.domain.isUnsigned with
    | true =>
      have hseen : sharedTotal.toList ∈ kind.found := by
        simp [VariableKind.found, harray, heq, hunsigned]
      exact hfound _ (List.mem_flatMap.2 ⟨kind, hkind, hseen⟩) _ (List.mem_map_of_mem hname) rfl
    | false =>
      have htotal := (sharedTotal_mem_ruleNames h).1 hname
      exact hnot ⟨kind, hkind, .inr ⟨harray, hunsigned, htotal⟩⟩
  · exact hnone (harray ▸ List.mem_map_of_mem hkind)

/-- There are no other repeats than the hidden ones where the check finds no name twice. -/
theorem nodup_of_not_hasHiddenRepeat (h : Selection.Accepted .standard puzzle grid selection)
    (hfound : (gridNames.map String.toList ++ puzzle.kinds.flatMap VariableKind.found ++
      (puzzle.ruleNames grid selection).map String.toList).Nodup)
    (hnot : ¬puzzle.HasHiddenRepeat grid selection) :
    (puzzle.modelNames grid selection).Nodup := by
  obtain ⟨hfront, hrules, hdisjoint⟩ := List.nodup_append.1 hfound
  have hgrid := (List.nodup_append.1 hfront).1
  have hkinds := nodup_identifiers h.arrays hnot
  refine List.nodup_append.2 ⟨List.nodup_append.2 ⟨hgrid, hkinds, ?_⟩, hrules, ?_⟩
  · rintro _ hgridName _ hidentifier rfl
    obtain ⟨name, hname, rfl⟩ := List.mem_map.1 hgridName
    obtain ⟨kind, hkind, heq⟩ := List.mem_map.1 hidentifier
    have harray := array_eq_of_identifier hnot hkind (by simp [hname]) heq
    exact array_not_mem_gridNames kind (harray ▸ hname)
  · rintro _ hearlier _ hrule rfl
    obtain hgridName | hidentifier := List.mem_append.1 hearlier
    · exact hdisjoint _ (List.mem_append_left _ hgridName) _ hrule rfl
    · obtain ⟨name, hname, rfl⟩ := List.mem_map.1 hrule
      obtain ⟨kind, hkind, heq⟩ := List.mem_map.1 hidentifier
      exact identifier_ne_ruleName h (fun own hown ↦ hdisjoint own (List.mem_append_right _ hown))
        hnot hkind hname heq

/-! ## A puzzle that repeats the shared total -/

namespace RegionSum

theorem segments_oneRegion : segments .oneRegion [⟨0, 0⟩] = .ok [[⟨0, 0⟩]] := by
  have hlabelled : labelled .oneRegion [⟨0, 0⟩] = .ok [(0, ⟨0, 0⟩)] := rfl
  rw [segments, hlabelled, ok_bind]
  simp only [List.map_cons, List.map_nil, sortedDistinct_singleton]
  rfl

theorem sharedDraft_shortLine : sharedDraft [] [.shortLine] .oneRegion =
    .ok ⟨sharedItems [[⟨0, 0⟩]], []⟩ := by
  have hlines : placedLines [.shortLine] = [⟨[⟨0, 0⟩], .absent⟩] := rfl
  have hregions : Grid.oneRegion.regions.isNone = false := rfl
  simp [sharedDraft, hlines, hregions, segments_oneRegion]

theorem lineDraft_shortLine : lineDraft Placement.shortLine.groups [.shortLine] .oneRegion =
    .ok ⟨[], []⟩ := by
  have hregions : Grid.oneRegion.regions.isNone = false := rfl
  have hitems : lineItems .oneRegion 1 ⟨[⟨0, 0⟩], .absent⟩ = .ok [] := by
    simp [lineItems, segments_oneRegion]
  simp [lineDraft, hregions, Placement.shortLine, hitems]

end RegionSum

/-- The kind with the name of the shared total. -/
def VariableKind.negativeTotal : VariableKind :=
  ⟨sharedTotal, .int (-1) 4 (by decide), by decide, by decide⟩

def Puzzle.shortLine : Puzzle where
  grid := some .oneRegion
  kinds := [.fourDigits, .negativeTotal]
  selected := [.text globalRegionSumLines.id]
  placements := [.shortLine]

theorem Selection.ofPuzzle_shortLine :
    ofPuzzle .standard .shortLine = .ok (.oneRegion, [globalRegionSumLines, regionSumLine]) := rfl

def GeneratorCall.shortLine : List GeneratorCall :=
  [⟨globalRegionSumLines.id, RegionSum.sharedDraft.toGenerator, [], none⟩,
    ⟨regionSumLine.id, RegionSum.lineDraft.toGenerator, Placement.shortLine.groups, some 1⟩]

theorem generatorCalls_shortLine :
    generatorCalls .standard .shortLine .oneRegion = .ok GeneratorCall.shortLine := rfl

theorem answer_shortLine : ∀ call ∈ GeneratorCall.shortLine,
    ∃ emission, call.answer [.shortLine] .oneRegion = .ok emission := by
  have hone : Text.isWritable 1 = true := Text.isWritable_of_lt (by decide)
  have hplace : isWritablePlace 0 0 = true := by simp [isWritablePlace, toEmitted, hone]
  simp only [GeneratorCall.shortLine, List.forall_mem_cons, List.not_mem_nil, false_implies,
    implies_true, and_true]
  constructor
  · have hitems : (RegionSum.sharedItems [[⟨0, 0⟩]]).all Item.isWritable = true := by
      simp [RegionSum.sharedItems, Item.isWritable, Term.isWritable, areWritableCells, hplace]
    simp [GeneratorCall.answer, Drafter.toGenerator, RegionSum.sharedDraft_shortLine, Except.bind,
      Draft.emission, hitems]
  · simp [GeneratorCall.answer, Drafter.toGenerator, RegionSum.lineDraft_shortLine, Except.bind,
      Draft.emission]

theorem compile_shortLine : ∃ document, compile .standard .shortLine = .ok document := by
  have hone : Text.isWritable 1 = true := Text.isWritable_of_lt (by decide)
  have h := Selection.ofPuzzle_eq_ok Selection.ofPuzzle_shortLine
  have hwritable : Puzzle.shortLine.IsWritable .oneRegion := by
    refine ⟨by simp [Error.isWritableSize, hone, Grid.oneRegion], ?_, ?_⟩
    · have hdomains : Domain.isWritable (.int 1 4 (by decide)) = true ∧
          Domain.isWritable (.int (-1) 4 (by decide)) = true := by
        simp [Domain.isWritable, Text.isWritable_of_lt]
      simpa [Puzzle.shortLine, VariableKind.fourDigits, VariableKind.negativeTotal] using hdomains
    · simp [Puzzle.shortLine, Placement.shortLine, GroupValue.toValue, Value.isWritable]
  have hasks := asks_of_generatorCalls h generatorCalls_shortLine hwritable (.inl rfl)
  obtain ⟨parts, hparts⟩ := hasks.exists_eq_ok answer_shortLine
  rw [Selection.map_replace_self] at hparts
  have hunseen : ∀ kind ∈ Puzzle.shortLine.kinds, sharedTotal.toList ∉ kind.found := by
    have hdigits : VariableKind.fourDigits.array ≠ sharedTotal := by decide
    have hnegative : VariableKind.negativeTotal.domain.isUnsigned = false := rfl
    simp only [Puzzle.shortLine, List.forall_mem_cons, List.not_mem_nil, false_implies,
      implies_true, and_true]
    refine ⟨fun hfound ↦ hdigits (String.toList_injective (mem_found hfound)).symm, ?_⟩
    simp [VariableKind.found, hnegative]
  have hcheck := (check_documentText h (by simp [Puzzle.shortLine]) hunseen hparts).2.2
  refine ⟨⟨documentText parts, parts.flatMap Emission.warnings⟩, ?_⟩
  rw [compile_eq Selection.ofPuzzle_shortLine, hparts, ok_bind, hcheck]
  rfl

/-! ## Names of a returned document -/

/-- The names that a returned document declares. No name is declared twice exactly if no kind of the
puzzle repeats one where the check of the document does not see it. -/
theorem compile_topLevelNames {document : Emission} (h : compile .standard puzzle = .ok document) :
    ∃ grid selection, Selection.ofPuzzle .standard puzzle = .ok (grid, selection) ∧
      topLevelNames (codeOf document.text) = puzzle.modelNames grid selection ∧
      ((topLevelNames (codeOf document.text)).Nodup ↔
        ¬puzzle.HasHiddenRepeat grid selection) := by
  obtain ⟨grid, selection, parts, haccepted, hparts, hcheck, rfl⟩ := exists_sections_of_compile h
  have hvalid := Selection.ofPuzzle_eq_ok haccepted
  obtain ⟨_, hnames, hdeclared⟩ := (emits_sections hvalid hparts).document
  have hfound := nodup_of_check_eq_ok hcheck
  rw [hnames] at hfound
  refine ⟨grid, selection, haccepted, hdeclared, ?_⟩
  rw [hdeclared]
  exact ⟨fun hnodup hrepeat ↦ not_nodup_of_hasHiddenRepeat hvalid hrepeat hnodup,
    nodup_of_not_hasHiddenRepeat hvalid hfound.of_map⟩

theorem compile_shortLine_repeats : ∃ document, compile .standard .shortLine = .ok document ∧
    ¬(topLevelNames (codeOf document.text)).Nodup := by
  obtain ⟨document, hdocument⟩ := compile_shortLine
  refine ⟨document, hdocument, ?_⟩
  obtain ⟨grid, selection, haccepted, _, hiff⟩ := compile_topLevelNames hdocument
  rw [hiff, not_not]
  rw [Selection.ofPuzzle_shortLine] at haccepted
  obtain ⟨rfl, rfl⟩ := Prod.ext_iff.1 (Except.ok.inj haccepted)
  have hselected : .text globalRegionSumLines.id ∈ Puzzle.shortLine.selected := by
    simp [Puzzle.shortLine]
  exact ⟨.negativeTotal, by simp [Puzzle.shortLine], .inr ⟨rfl, rfl, hselected, rfl⟩⟩

end GridPuzzle
