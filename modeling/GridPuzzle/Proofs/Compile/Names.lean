import GridPuzzle.Proofs.Compile.Sections
import GridPuzzle.Proofs.Puzzle.Session

/-!
# The names of a document

The check of a document finds no name twice in what is compiled from an authored puzzle, unless a
kind of the puzzle has the array that the standard catalog uses for the shared total. What the
document declares can still repeat a name, since the check does not find every declaration.
-/

namespace GridPuzzle

open Fallible Document Standard

variable {puzzle : Puzzle} {grid : Grid} {selection : Selection} {rule : Rule} {name : String}

/-! ## Names of rules -/

/-- A name that a fragment declares is neither a name of the grid nor the shared total. -/
theorem not_mem_of_mem_declared (hrule : rule ∈ rules) (hname : name ∈ rule.declared) :
    name ∉ gridNames ∧ name ≠ sharedTotal := by
  have hpredicates : ∀ rule ∈ rules, ∀ name ∈ (predicates.lookup rule.id).toList,
      name ∉ gridNames ∧ name ≠ sharedTotal := by decide
  rw [declared_eq hrule] at hname
  exact hpredicates rule hrule name hname

theorem mem_total {placements : List Placement} : name ∈ rule.total placements grid ↔
    name = sharedTotal ∧ rule.id = globalRegionSumLines.id ∧
      RegionSum.declaresTotal placements grid = true := by
  unfold Rule.total
  split
  next h => simp [h]
  next h =>
    refine ⟨fun hname ↦ absurd hname List.not_mem_nil, ?_⟩
    rintro ⟨_, hrest⟩
    exact absurd hrest h

theorem mem_selectedNames {placements : List Placement}
    (hname : name ∈ rule.selectedNames placements grid) :
    name ∈ rule.declared ∨ name ∈ rule.total placements grid := by
  unfold Rule.selectedNames at hname
  split at hname
  · simp at hname
  · exact List.mem_append.1 hname

theorem mem_placedNames {placements : List Placement} {position : Nat}
    (hname : name ∈ rule.placedNames placements grid position) :
    name ∈ rule.declared ∧
      ∀ placement ∈ placements.take (position - 1), placement.rule ≠ rule.id := by
  unfold Rule.placedNames at hname
  split at hname
  next h =>
    refine ⟨hname, ?_⟩
    simpa using (Bool.and_eq_true_iff.1 h).1
  next => simp at hname

/-- A name of the rules in use is the shared total, or the fragment of one of them declares it. -/
theorem mem_ruleNames (hname : name ∈ puzzle.ruleNames grid selection) :
    name = sharedTotal ∨ ∃ rule ∈ selection, name ∈ rule.declared := by
  obtain hname | hname := List.mem_append.1 hname
  · obtain ⟨rule, hrule, hname⟩ := List.mem_flatMap.1 hname
    obtain ⟨id, _, hfind⟩ := List.mem_filterMap.1 hrule
    obtain hname | hname := mem_selectedNames hname
    · exact .inr ⟨rule, List.mem_of_find?_eq_some hfind, hname⟩
    · exact .inl (mem_total.1 hname).1
  · obtain ⟨x, _, hname⟩ := List.mem_flatMap.1 hname
    obtain ⟨rule, hrule, hname⟩ := List.mem_flatMap.1 hname
    have hfind := Option.mem_toList.1 hrule
    exact .inr ⟨rule, (Selection.find?_text hfind).1, (mem_placedNames hname).1⟩

/-- The names of the rules in use are no names of the grid, and none but the shared total is the
array of a kind. -/
theorem ruleNames_fresh (h : Selection.Accepted .standard puzzle grid selection)
    (hname : name ∈ puzzle.ruleNames grid selection) :
    name ∉ gridNames ∧ (name = sharedTotal ∨ name ∉ puzzle.kinds.map VariableKind.array) := by
  obtain rfl | ⟨rule, hrule, hname⟩ := mem_ruleNames hname
  · exact ⟨by decide, .inl rfl⟩
  · refine ⟨(not_mem_of_mem_declared (h.known rule hrule) hname).1, .inr ?_⟩
    have hnames := (Selection.checkRule_eq_ok (h.fits rule hrule)).2.2
    cases hfragment : rule.fragment with
    | none => simp [Rule.declared, hfragment] at hname
    | some fragment =>
      refine Selection.checkNames_eq_ok hnames hfragment ?_
      simpa [Rule.declared, hfragment] using hname

/-! ## Names of selected rules -/

/-- The block of a rule of the whole grid declares its total only. -/
theorem selectedNames_of_wholeGrid (hrule : rule ∈ rules) (hscope : rule.scope = .wholeGrid)
    (placements : List Placement) (grid : Grid) : rule.selectedNames placements grid =
      if rule.isSkipped grid then [] else rule.total placements grid := by
  have hnone : ∀ rule ∈ rules, rule.scope = .wholeGrid → predicates.lookup rule.id = none := by
    decide
  rw [Rule.selectedNames, declared_eq hrule, hnone rule hrule hscope]
  rfl

/-- The only name that a selected rule declares is the shared total, and only one rule does. -/
theorem of_mem_selectedNames (h : Selection.Accepted .standard puzzle grid selection)
    (hrule : rule ∈ puzzle.selected.filterMap selection.find?)
    (hname : name ∈ rule.selectedNames puzzle.placements grid) :
    name = sharedTotal ∧ rule.id = globalRegionSumLines.id ∧
      RegionSum.declaresTotal puzzle.placements grid = true := by
  obtain ⟨hmem, hscope, _⟩ := h.mem_of_found hrule
  rw [selectedNames_of_wholeGrid (h.known rule hmem) hscope] at hname
  split at hname
  · simp at hname
  · exact mem_total.1 hname

/-- The selected rules declare no name twice. -/
theorem nodup_selectedNames (h : Selection.Accepted .standard puzzle grid selection)
    (hdistinct : puzzle.selected.Pairwise fun a b ↦ a.same b = false) :
    ((puzzle.selected.filterMap selection.find?).flatMap
      fun rule ↦ rule.selectedNames puzzle.placements grid).Nodup := by
  have hrules : (puzzle.selected.filterMap selection.find?).Pairwise fun first second ↦
      first.id ≠ second.id := by
    rw [List.pairwise_filterMap]
    refine hdistinct.imp_of_mem fun {a b} ha hb hne first hfirst second hsecond heq ↦ ?_
    obtain ⟨rfl, _⟩ := h.find?_selected ha hfirst
    obtain ⟨rfl, _⟩ := h.find?_selected hb hsecond
    simp [heq] at hne
  refine List.nodup_flatMap.2 ⟨fun rule hrule ↦ ?_, ?_⟩
  · obtain ⟨hmem, hscope, _⟩ := h.mem_of_found hrule
    rw [selectedNames_of_wholeGrid (h.known rule hmem) hscope, Rule.total]
    split
    · exact List.nodup_nil
    · split <;> simp
  · refine hrules.imp_of_mem fun {first second} hfirst hsecond hne name hname hname' ↦ hne ?_
    obtain ⟨_, hid, _⟩ := of_mem_selectedNames h hfirst hname
    obtain ⟨_, hid', _⟩ := of_mem_selectedNames h hsecond hname'
    exact hid.trans hid'.symm

/-! ## Names of placed rules -/

theorem predicates_inj : ∀ first ∈ rules, ∀ second ∈ rules,
    ∀ name ∈ (predicates.lookup first.id).toList, name ∈ (predicates.lookup second.id).toList →
      first.id = second.id := by
  decide

/-- The blocks of the placements declare no name twice: the fragment of a rule stands before its
first placement only. -/
theorem nodup_placedNames (h : Selection.Accepted .standard puzzle grid selection) :
    ((puzzle.placements.zipIdx 1).flatMap fun (placement, position) ↦
      (selection.find? (.text placement.rule)).toList.flatMap fun rule ↦
        rule.placedNames puzzle.placements grid position).Nodup := by
  have hdeclared : ∀ rule ∈ rules, (predicates.lookup rule.id).toList.Nodup := by decide
  refine List.nodup_flatMap.2 ⟨fun ⟨placement, position⟩ _ ↦ ?_, List.pairwise_iff_getElem.2 ?_⟩
  · cases hfind : selection.find? (.text placement.rule) with
    | none =>
      simp only [hfind]
      exact List.nodup_nil
    | some rule =>
      have hknown := h.known rule (Selection.find?_text hfind).1
      simp only [hfind, Option.toList_some, List.flatMap_singleton, Rule.placedNames]
      split
      · rw [declared_eq hknown]
        exact hdeclared rule hknown
      · exact List.nodup_nil
  · intro i j hi hj hij name hname hname'
    simp only [List.getElem_zipIdx, List.mem_flatMap, Option.mem_toList] at hname hname'
    obtain ⟨first, hfirst, hname⟩ := hname
    obtain ⟨second, hsecond, hname'⟩ := hname'
    obtain ⟨hmem, hid⟩ := Selection.find?_text hfirst
    obtain ⟨hmem', _⟩ := Selection.find?_text hsecond
    obtain ⟨hname, _⟩ := mem_placedNames hname
    obtain ⟨hname', hearlier⟩ := mem_placedNames hname'
    rw [declared_eq (h.known first hmem)] at hname
    rw [declared_eq (h.known second hmem')] at hname'
    have hsame := predicates_inj first (h.known first hmem) second (h.known second hmem') name
      hname hname'
    have hi' : i < puzzle.placements.length := by simpa using hi
    have htake : puzzle.placements[i] ∈ puzzle.placements.take (1 + j - 1) :=
      List.mem_take_iff_getElem.2 ⟨i, by omega, rfl⟩
    exact hearlier _ htake (hid.trans hsame)

/-- No block of a placement declares the shared total. -/
theorem sharedTotal_not_mem_placed (h : Selection.Accepted .standard puzzle grid selection) :
    sharedTotal ∉ (puzzle.placements.zipIdx 1).flatMap fun (placement, position) ↦
      (selection.find? (.text placement.rule)).toList.flatMap fun rule ↦
        rule.placedNames puzzle.placements grid position := by
  intro hname
  obtain ⟨x, _, hname⟩ := List.mem_flatMap.1 hname
  obtain ⟨rule, hrule, hname⟩ := List.mem_flatMap.1 hname
  have hknown := h.known rule (Selection.find?_text (Option.mem_toList.1 hrule)).1
  exact (not_mem_of_mem_declared hknown (mem_placedNames hname).1).2 rfl

/-- The rules in use declare no name twice in an authored puzzle. -/
theorem nodup_ruleNames (h : Selection.Accepted .standard puzzle grid selection)
    (hdistinct : puzzle.selected.Pairwise fun a b ↦ a.same b = false) :
    (puzzle.ruleNames grid selection).Nodup := by
  refine List.nodup_append.2 ⟨nodup_selectedNames h hdistinct, nodup_placedNames h, ?_⟩
  rintro name hname _ hplaced rfl
  obtain ⟨rule, hrule, hname⟩ := List.mem_flatMap.1 hname
  obtain rfl := (of_mem_selectedNames h hrule hname).1
  exact sharedTotal_not_mem_placed h hplaced

/-! ## Names that the check finds -/

theorem array_not_mem_gridNames (kind : VariableKind) : kind.array ∉ gridNames := by
  have hfree : isReserved kind.array = false := kind.family_free
  simp only [isReserved, Bool.or_eq_false_iff] at hfree
  simpa using hfree.1.2

theorem mem_found {kind : VariableKind} {s : List Char} (h : s ∈ kind.found) :
    s = kind.array.toList := by
  unfold VariableKind.found at h
  split at h
  next hfound => rw [List.mem_singleton.1 h, hfound.1]
  next => simp at h

theorem nodup_found {kinds : List VariableKind} (h : (kinds.map VariableKind.array).Nodup) :
    (kinds.flatMap VariableKind.found).Nodup := by
  refine List.nodup_flatMap.2 ⟨fun kind _ ↦ ?_, ?_⟩
  · unfold VariableKind.found
    split <;> simp
  · refine (List.pairwise_map.1 h).imp fun hne s hs hs' ↦ hne ?_
    exact String.toList_injective ((mem_found hs).symm.trans (mem_found hs'))

/-- The check of a document finds no name twice if the rules in use declare none twice, and if it
does not find the shared total as the array of a kind where it is declared. -/
theorem nodup_foundNames (h : Selection.Accepted .standard puzzle grid selection)
    (hrules : (puzzle.ruleNames grid selection).Nodup)
    (htotal : sharedTotal ∈ puzzle.ruleNames grid selection →
      ∀ kind ∈ puzzle.kinds, sharedTotal.toList ∉ kind.found) :
    (gridNames.map String.toList ++ puzzle.kinds.flatMap VariableKind.found ++
      (puzzle.ruleNames grid selection).map String.toList).Nodup := by
  have hgrid : (gridNames.map String.toList).Nodup :=
    List.Nodup.map @String.toList_injective (by decide)
  have hchars : ((puzzle.ruleNames grid selection).map String.toList).Nodup :=
    hrules.map @String.toList_injective
  refine List.nodup_append.2 ⟨List.nodup_append.2 ⟨hgrid, nodup_found h.arrays, ?_⟩, hchars, ?_⟩
  · rintro _ hname _ hfound rfl
    obtain ⟨name, hgridName, rfl⟩ := List.mem_map.1 hname
    obtain ⟨kind, _, hfound⟩ := List.mem_flatMap.1 hfound
    obtain rfl := String.toList_injective (mem_found hfound)
    exact array_not_mem_gridNames kind hgridName
  · rintro _ hfound _ hrule rfl
    obtain ⟨name, hname, rfl⟩ := List.mem_map.1 hrule
    obtain ⟨hgrid, htotal'⟩ := ruleNames_fresh h hname
    obtain hfound | hfound := List.mem_append.1 hfound
    · obtain ⟨own, hown, heq⟩ := List.mem_map.1 hfound
      exact hgrid (String.toList_injective heq ▸ hown)
    · obtain ⟨kind, hkind, hfound⟩ := List.mem_flatMap.1 hfound
      obtain rfl | hnot := htotal'
      · exact htotal hname kind hkind hfound
      · obtain rfl := String.toList_injective (mem_found hfound)
        exact hnot (List.mem_map_of_mem hkind)

/-- The check accepts what is emitted if the rules in use declare no name twice, and if it does not
find the shared total as the array of a kind where it is declared. -/
theorem check_documentText_of_nodup (h : Selection.Accepted .standard puzzle grid selection)
    (hrules : (puzzle.ruleNames grid selection).Nodup)
    (htotal : sharedTotal ∈ puzzle.ruleNames grid selection →
      ∀ kind ∈ puzzle.kinds, sharedTotal.toList ∉ kind.found) {parts : List Emission}
    (hparts : sections puzzle grid selection = .ok parts) :
    (declaredNames (documentText parts)).Nodup ∧
      (∀ found ∈ CellReference.allIn (codeOf (documentText parts)),
        IsWithin (shapes puzzle grid) found.1) ∧
      check (documentText parts) (shapes puzzle grid) = .ok () := by
  obtain ⟨hwithin, hnames, _⟩ := (emits_sections h hparts).document
  have hnodup : (declaredNames (documentText parts)).Nodup := by
    rw [hnames]
    exact (nodup_foundNames h hrules htotal).map @String.ofList_injective
  exact ⟨hnodup, hwithin, check_eq_ok hnodup hwithin⟩

/-- The check accepts what is emitted where it does not find the shared total as the array of a
kind. -/
theorem check_documentText (h : Selection.Accepted .standard puzzle grid selection)
    (hdistinct : puzzle.selected.Pairwise fun a b ↦ a.same b = false)
    (htotal : ∀ kind ∈ puzzle.kinds, sharedTotal.toList ∉ kind.found) {parts : List Emission}
    (hparts : sections puzzle grid selection = .ok parts) :
    (declaredNames (documentText parts)).Nodup ∧
      (∀ found ∈ CellReference.allIn (codeOf (documentText parts)),
        IsWithin (shapes puzzle grid) found.1) ∧
      check (documentText parts) (shapes puzzle grid) = .ok () :=
  check_documentText_of_nodup h (nodup_ruleNames h hdistinct) (fun _ ↦ htotal) hparts

/-- On a grid without regions the shared total is not declared, and the rules in use declare no name
twice, even if a rule is selected twice. -/
theorem ruleNames_of_isNone (h : Selection.Accepted .standard puzzle grid selection)
    (hregions : grid.regions = none) :
    (puzzle.ruleNames grid selection).Nodup ∧ sharedTotal ∉ puzzle.ruleNames grid selection := by
  have hselected : ((puzzle.selected.filterMap selection.find?).flatMap fun rule ↦
      rule.selectedNames puzzle.placements grid) = [] := by
    refine List.flatMap_eq_nil_iff.2 fun rule hrule ↦ List.eq_nil_iff_forall_not_mem.2 ?_
    intro name hname
    obtain ⟨_, _, hdeclares⟩ := of_mem_selectedNames h hrule hname
    simp [RegionSum.declaresTotal, hregions] at hdeclares
  unfold Puzzle.ruleNames
  rw [hselected, List.nil_append]
  exact ⟨nodup_placedNames h, sharedTotal_not_mem_placed h⟩

/-! ## A region sum line on one cell -/

theorem sortedDistinct_singleton (n : Int) : sortedDistinct [n] = [n] := by
  rw [sortedDistinct, List.mergeSort_singleton]
  rfl

def Grid.oneRegion : Grid where
  rows := 1
  cols := 1
  regions := some
    { ids := [[0]]
      shape := by decide
      dense := by
        rw [IsDense, List.flatten_singleton, sortedDistinct_singleton]
        rfl }
  rows_pos := Nat.one_pos
  cols_pos := Nat.one_pos

def Placement.shortLine : Placement := ⟨RegionSum.lineRule, [⟨[⟨0, 0⟩], .absent⟩]⟩

/-! ## The check of a compiled document -/

/-- Whatever is compiled from an authored puzzle that has passed validation against the standard
catalog is accepted by the check of the finished document, as long as no array of the puzzle bears
the name of the shared total: the check finds no name twice, and every reference with literal
coordinates lies within the shape of an array over the grid. -/
theorem compiled_document_accepted {source : Option Catalog} {steps : List Puzzle.Step}
    (haccepted : Selection.ofPuzzle .standard (.ofSession source steps) = .ok (grid, selection))
    (htotal : ∀ kind ∈ (Puzzle.ofSession source steps).kinds, kind.array ≠ sharedTotal) :
    (∀ e, compile .standard (.ofSession source steps) = .error e → e.category ≠ .assembly) ∧
    ∀ parts, sections (.ofSession source steps) grid selection = .ok parts →
      (declaredNames (documentText parts)).Nodup ∧
      (∀ found ∈ CellReference.allIn (codeOf (documentText parts)),
        IsWithin (shapes (.ofSession source steps) grid) found.1) ∧
      compile .standard (.ofSession source steps) =
        .ok ⟨documentText parts, parts.flatMap Emission.warnings⟩ := by
  have h := Selection.ofPuzzle_eq_ok haccepted
  have hdistinct := (Puzzle.consistent_ofSession source steps).distinct
  have hunseen : ∀ kind ∈ (Puzzle.ofSession source steps).kinds, sharedTotal.toList ∉ kind.found :=
    fun kind hkind hfound ↦ htotal kind hkind (String.toList_injective (mem_found hfound)).symm
  refine ⟨fun e he ↦ ?_, fun parts hparts ↦ ?_⟩
  · obtain ⟨calls, hcalls⟩ := exists_generatorCalls h
    obtain ⟨_, rfl⟩ | rfl | ⟨call, _, fault, _, rfl⟩ | ⟨parts, hparts, _, hcheck⟩ :=
      compile_eq_error haccepted hcalls he
    · decide
    · decide
    · simp [Error.category]
    · rw [(check_documentText h hdistinct hunseen hparts).2.2] at hcheck
      simp at hcheck
  · obtain ⟨hnodup, hwithin, hcheck⟩ := check_documentText h hdistinct hunseen hparts
    refine ⟨hnodup, hwithin, ?_⟩
    rw [compile_eq haccepted, hparts, ok_bind, hcheck]
    rfl

theorem compiled_shortLine_accepted :
    let puzzle := Puzzle.ofSession none [.setGrid .oneRegion, .setKinds [.fourDigits],
      .selectRule (.text globalRegionSumLines.id), .addPlacement .shortLine]
    (∃ checked, Selection.ofPuzzle .standard puzzle = .ok checked) ∧
      ∀ e, compile .standard puzzle = .error e → e.category ≠ .assembly :=
  ⟨⟨_, rfl⟩, (compiled_document_accepted rfl (by decide)).1⟩

end GridPuzzle
