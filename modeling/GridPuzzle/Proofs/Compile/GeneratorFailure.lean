import GridPuzzle.Proofs.Compile.Parts
import GridPuzzle.Proofs.Generator.Answer

/-!
# Failing generators of the standard catalog

The generators of the standard catalog answer all calls for a puzzle that has passed validation but
those for faulty placements: a cage whose total looks like an integer and is no numeral, and an
arrow whose pill has too many cells for its number to be written. Compiling stops at the first
faulty placement, unless a number or the grid is too large before it is reached. A total of a cage
that is given and does not look like an integer is ignored under a warning.
-/

namespace GridPuzzle

open Fallible Standard

/-! ## Placements -/

/-- A placement on which the generator of its rule fails. -/
def Placement.IsFaulty (placement : Placement) : Prop :=
  (placement.rule = killerCage.id ∧ Cage.IsMisread placement.groups) ∨
    (placement.rule = arrow.id ∧ Arrow.IsLong placement.groups)

def Placement.ignoredTotals (placement : Placement) : List Warning :=
  if placement.rule = killerCage.id then placement.groups.filterMap Group.ignoredTotal? else []

theorem Placement.not_isFaulty_nil (rule : String) : ¬(Placement.mk rule []).IsFaulty := by
  simp [IsFaulty, Cage.IsMisread, Arrow.IsLong]

theorem Placement.ignoredTotals_nil (rule : String) :
    (Placement.mk rule []).ignoredTotals = [] := by
  simp [ignoredTotals]

namespace Standard

/-- A generator of the library fails on the faulty placements of its rule. -/
abbrev AnswersFor (id : String) (generator : Generator) : Prop :=
  Generator.Answers generator (fun groups ↦ (Placement.mk id groups).IsFaulty)
    fun groups ↦ (Placement.mk id groups).ignoredTotals

theorem answersFor_of_silent {id : String} {generator : Generator}
    (hcage : id ≠ killerCage.id) (harrow : id ≠ arrow.id)
    (h : generator.Answers (fun _ ↦ False) fun _ ↦ []) : AnswersFor id generator := by
  have hfaulty (groups : List Group) : ¬(Placement.mk id groups).IsFaulty := by
    simp [Placement.IsFaulty, hcage, harrow]
  refine ⟨fun groups _ _ hfails ↦ absurd hfails (hfaulty groups), fun groups _ _ hgiven _ ↦ ?_⟩
  simpa [Placement.ignoredTotals, hcage] using h.ok groups _ _ hgiven not_false

theorem answersFor_line {id : String} {demand : Cell → Cell → Item}
    (hid : id ≠ killerCage.id ∧ id ≠ arrow.id) (hcells : ∀ a b, (demand a b).cells = [a, b])
    (hstated : ∀ a b text, demand a b ≠ .note text) (hsilent : ∀ a b, (demand a b).declared = [])
    (hshort : ∀ a b, (demand a b).isShort = true) :
    AnswersFor id (Line.draft demand).toGenerator :=
  answersFor_of_silent hid.1 hid.2 <| (Line.answers hshort).toGenerator
    fun _ _ _ _ hdraft item hitem ↦ (Line.isDemand_draft hcells hstated hsilent hdraft item
      hitem).toIsOn.mono (List.subset_append_left _ _)

theorem answersFor_arrow : AnswersFor arrow.id Arrow.draft.toGenerator := by
  have hanswers := Arrow.answers.toGenerator fun _ _ _ _ hdraft item hitem ↦
    (Arrow.isDemand_draft hdraft item hitem).toIsOn.mono (List.subset_append_left _ _)
  have hid : arrow.id ≠ killerCage.id := by decide
  simpa [AnswersFor, Placement.IsFaulty, Placement.ignoredTotals, hid] using hanswers

theorem answersFor_cage : AnswersFor killerCage.id Cage.draft.toGenerator := by
  have hanswers := Cage.answers.toGenerator fun _ _ _ _ hdraft item hitem ↦
    (Cage.isDemand_draft hdraft item hitem).toIsOn.mono (List.subset_append_left _ _)
  have hid : killerCage.id ≠ arrow.id := by decide
  simpa [AnswersFor, Placement.IsFaulty, Placement.ignoredTotals, hid] using hanswers

/-- The generators of the standard catalog. -/
theorem answersFor {rule : Rule} (hrule : rule ∈ rules) {generator : Generator}
    (hgenerator : rule.generator = some generator) : AnswersFor rule.id generator := by
  simp only [rules, List.mem_cons, List.not_mem_nil, or_false] at hrule
  obtain rfl | rfl | rfl | rfl | rfl | rfl | rfl | rfl | rfl | rfl | rfl | rfl := hrule
  all_goals first | exact absurd hgenerator (Option.some_ne_none generator).symm | skip
  all_goals obtain rfl := Option.some.inj hgenerator
  · exact answersFor_of_silent (by decide) (by decide) <| RegionSum.sharedDraft_answers.toGenerator
      fun _ _ _ _ hdraft item hitem ↦ ((RegionSum.sharedDraft_eq_ok hdraft).1 item hitem).mono
        (List.subset_append_right _ _)
  · exact answersFor_arrow
  · exact answersFor_line (by decide) (fun _ _ ↦ rfl) (by simp) (fun _ _ ↦ rfl) fun _ _ ↦ rfl
  · exact answersFor_line (by decide) (fun _ _ ↦ rfl) (by simp) (fun _ _ ↦ rfl) fun _ _ ↦ rfl
  · exact answersFor_cage
  · exact answersFor_of_silent (by decide) (by decide) <| RegionSum.lineDraft_answers.toGenerator
      fun _ _ _ _ hdraft item hitem ↦ (RegionSum.isDemand_lineDraft hdraft item
        hitem).toIsOn.mono (List.subset_append_left _ _)
  · exact answersFor_line (by decide) (fun _ _ ↦ rfl) (by simp) (fun _ _ ↦ rfl) fun _ _ ↦ rfl
  · exact answersFor_line (by decide) (fun _ _ ↦ rfl) (by simp) (fun _ _ ↦ rfl) fun _ _ ↦ rfl

end Standard

/-! ## Calls -/

variable {puzzle : Puzzle} {grid : Grid} {selection : Selection} {calls : List GeneratorCall}

/-- The cells of groups that the puzzle places are given to a generator. -/
theorem areGiven_of_accepted (h : Selection.Accepted .standard puzzle grid selection)
    (hsize : Error.isWritableSize grid.rows grid.cols = true) {groups : List Group}
    (hcells : groups.flatMap Group.cells ⊆ puzzle.placements.flatMap Placement.cells)
    (hvalues : ∀ group ∈ groups, group.value.toValue.isWritable = true) :
    AreGiven groups puzzle.placements grid where
  cells cell hcell := by
    have hmem : cell ∈ puzzle.placements.flatMap Placement.cells := by
      obtain hcell | hcell := List.mem_append.1 hcell
      · exact hcells hcell
      · exact hcell
    obtain ⟨placement, hplacement, hcell⟩ := List.mem_flatMap.1 hmem
    have hcontains := h.cells placement hplacement cell hcell
    exact ⟨hcontains, isWritablePlace_of_contains hsize hcontains⟩
  values := hvalues

/-- A call without groups, or for the groups of a placement at the position of the call. -/
def GeneratorCall.IsFor (placed : List (Placement × Nat)) (call : GeneratorCall) : Prop :=
  call.groups = [] ∨ ∃ position, call.position = some position ∧
    (⟨call.rule, call.groups⟩, position) ∈ placed

theorem GeneratorCall.isFor_of_use {call : GeneratorCall} (h : call.use ∈ puzzle.ruleUses) :
    call.IsFor (puzzle.placements.zipIdx 1) := by
  obtain ⟨id, _, huse⟩ | ⟨placement, position, hplaced, huse⟩ := Puzzle.mem_ruleUses.1 h
  · exact .inl (congrArg RuleUse.groups huse)
  · have hrule : call.rule = placement.rule := Value.text.inj (congrArg RuleUse.id huse)
    have hgroups : call.groups = placement.groups := congrArg RuleUse.groups huse
    refine .inr ⟨position, congrArg RuleUse.position huse, ?_⟩
    rwa [hrule, hgroups]

theorem isFor_of_mem_generatorCalls (hcalls : generatorCalls .standard puzzle grid = .ok calls)
    {call : GeneratorCall} (hcall : call ∈ calls) :
    AnswersFor call.rule call.generator ∧ call.IsFor (puzzle.placements.zipIdx 1) := by
  obtain ⟨use, huse, rule, hget, hmem⟩ := (mem_generatorCalls hcalls).1 hcall
  obtain ⟨hrule, hgenerator, rfl⟩ := use_of_mem_calls hget hmem
  have hid : call.rule = rule.id := Value.text.inj (congrArg RuleUse.id (mem_calls hmem).2)
  exact ⟨hid ▸ answersFor hrule hgenerator, call.isFor_of_use huse⟩

/-- Calls for groups of which the values can be written fail for faulty placements only. -/
theorem answer_of_not_isFaulty (h : Selection.Accepted .standard puzzle grid selection)
    (hcalls : generatorCalls .standard puzzle grid = .ok calls)
    (hsize : Error.isWritableSize grid.rows grid.cols = true) {call : GeneratorCall}
    (hcall : call ∈ calls)
    (hvalues : ∀ group ∈ call.groups, group.value.toValue.isWritable = true)
    (hfaulty : ¬(Placement.mk call.rule call.groups).IsFaulty) :
    ∃ emission, call.answer puzzle.placements grid = .ok emission := by
  obtain ⟨hanswers, hgroups⟩ := isFor_of_mem_generatorCalls hcalls hcall
  have hgiven : AreGiven call.groups puzzle.placements grid := by
    refine areGiven_of_accepted h hsize (fun cell hcell ↦ ?_) hvalues
    obtain hnil | ⟨position, _, hplacement⟩ := hgroups
    · simp [hnil] at hcell
    · exact List.mem_flatMap.2 ⟨_, List.fst_mem_of_mem_zipIdx hplacement, hcell⟩
  obtain ⟨emission, hemission, _⟩ :=
    hanswers.ok call.groups puzzle.placements grid hgiven hfaulty
  exact ⟨emission, hemission⟩

/-- A call for placements that are not faulty is answered if the puzzle can be written. -/
theorem answer_of_isFor (h : Selection.Accepted .standard puzzle grid selection)
    (hcalls : generatorCalls .standard puzzle grid = .ok calls)
    (hwritable : puzzle.IsWritable grid) {call : GeneratorCall} (hcall : call ∈ calls)
    {placements : List Placement}
    (hsub : placements ⊆ puzzle.placements)
    (hfaulty : ∀ placement ∈ placements, ¬placement.IsFaulty) {start : Nat}
    (hfor : call.IsFor (placements.zipIdx start)) :
    ∃ emission, call.answer puzzle.placements grid = .ok emission := by
  obtain hnil | ⟨position, _, hplaced⟩ := hfor
  · refine answer_of_not_isFaulty h hcalls hwritable.size hcall (by simp [hnil]) ?_
    rw [hnil]
    exact Placement.not_isFaulty_nil _
  · have hmem := List.fst_mem_of_mem_zipIdx hplaced
    exact answer_of_not_isFaulty h hcalls hwritable.size hcall (hwritable.values _ (hsub hmem))
      (hfaulty _ hmem)

/-! ## Failures -/

/-- A call that fails is for a faulty placement. -/
theorem isFaulty_of_answer_eq_error (h : Selection.Accepted .standard puzzle grid selection)
    (hcalls : generatorCalls .standard puzzle grid = .ok calls)
    (hsize : Error.isWritableSize grid.rows grid.cols = true) {call : GeneratorCall}
    (hcall : call ∈ calls)
    (hvalues : ∀ group ∈ call.groups, group.value.toValue.isWritable = true) {fault : Fault}
    (hanswer : call.answer puzzle.placements grid = .error fault) :
    (Placement.mk call.rule call.groups).IsFaulty ∧ ∃ position, call.position = some position ∧
      (⟨call.rule, call.groups⟩, position) ∈ puzzle.placements.zipIdx 1 := by
  have hfaulty : (Placement.mk call.rule call.groups).IsFaulty := by
    by_contra hnot
    obtain ⟨emission, hemission⟩ := answer_of_not_isFaulty h hcalls hsize hcall hvalues hnot
    simp [hanswer] at hemission
  obtain hnil | hplaced := (isFor_of_mem_generatorCalls hcalls hcall).2
  · rw [hnil] at hfaulty
    exact absurd hfaulty (Placement.not_isFaulty_nil _)
  · exact ⟨hfaulty, hplaced⟩

/-- A failing generator is that of a faulty placement. -/
theorem isFaulty_of_compile
    (haccepted : Selection.ofPuzzle .standard puzzle = .ok (grid, selection))
    {rule reason : String} {position : Option Nat}
    (he : compile .standard puzzle = .error (.generatorFailed rule position reason)) :
    ∃ placement n, (placement, n) ∈ puzzle.placements.zipIdx 1 ∧ placement.IsFaulty ∧
      placement.rule = rule ∧ position = some n := by
  have h := Selection.ofPuzzle_eq_ok haccepted
  rw [compile_eq haccepted] at he
  obtain he | ⟨parts, _, he⟩ := bind_eq_error.1 he
  · obtain ⟨calls, hcalls⟩ := exists_generatorCalls h
    obtain ⟨_, hwidth⟩ | hvalue | ⟨hsize, call, hcall, hvalues, fault, hanswer, heq⟩ :=
      sections_eq_error h hcalls he
    · cases hwidth
    · cases hvalue
    · obtain ⟨rfl, rfl, _⟩ :
          rule = call.rule ∧ position = call.position ∧ reason = fault.reason := by
        simpa using heq
      obtain ⟨hfaulty, n, hn, hplacement⟩ :=
        isFaulty_of_answer_eq_error h hcalls hsize hcall hvalues hanswer
      exact ⟨_, n, hplacement, hfaulty, rfl, hn⟩
  · obtain hcategory | ⟨hvalue, _⟩ := Document.check_eq_error (map_eq_error.1 he)
    · simp [Error.category] at hcategory
    · simp at hvalue

/-- A rule that may have faulty placements has a generator and is never skipped. -/
theorem generator_of_isFaulty {rule : Rule} (hrule : rule ∈ rules) {placement : Placement}
    (hid : placement.rule = rule.id) (hfaulty : placement.IsFaulty) (grid : Grid) :
    rule.isSkipped grid = false ∧ ∃ generator, rule.generator = some generator ∧
      AnswersFor placement.rule generator := by
  have hids : ∀ rule ∈ rules, rule.id = killerCage.id ∨ rule.id = arrow.id →
      rule.generator.isSome = true ∧ rule.requiresRegions = false := by decide
  obtain ⟨hgenerator, hregions⟩ := hids rule hrule (hid ▸ hfaulty.imp And.left And.left)
  obtain ⟨generator, hgenerator⟩ := Option.isSome_iff_exists.1 hgenerator
  exact ⟨by simp [Rule.isSkipped, hregions], generator, hgenerator,
    hid ▸ answersFor hrule hgenerator⟩

/-- The use for a placement comes behind those for the selected rules and earlier placements. -/
theorem ruleUses_eq_append {before after : List Placement} {placement : Placement}
    (hplacements : puzzle.placements = before ++ placement :: after) : ∃ later,
      puzzle.ruleUses = { puzzle with placements := before }.ruleUses ++
        ⟨.text placement.rule, placement.groups, some (before.length + 1)⟩ :: later := by
  simp [Puzzle.ruleUses, Puzzle.placedUses, Puzzle.selectedUses, hplacements, List.zipIdx_append,
    Nat.add_comm 1]

/-- The first faulty placement stops a puzzle that can be written. -/
theorem compile_of_isFaulty
    (haccepted : Selection.ofPuzzle .standard puzzle = .ok (grid, selection))
    (hheld : grid.IsHeld) (hwritable : puzzle.IsWritable grid) {before after : List Placement}
    {placement : Placement} (hplacements : puzzle.placements = before ++ placement :: after)
    (hbefore : ∀ earlier ∈ before, ¬earlier.IsFaulty) (hfaulty : placement.IsFaulty) :
    ∃ fault : Fault, compile .standard puzzle =
      .error (.generatorFailed placement.rule (some (before.length + 1)) fault.reason) := by
  have h := Selection.ofPuzzle_eq_ok haccepted
  have hmem : placement ∈ puzzle.placements := by simp [hplacements]
  obtain ⟨rule, hrule, hid, _⟩ := h.placed placement hmem
  obtain ⟨hskipped, generator, hgenerator, hanswers⟩ :=
    generator_of_isFaulty (h.known rule hrule) hid hfaulty grid
  obtain ⟨fault, hfault⟩ := hanswers.error placement.groups puzzle.placements grid hfaulty
  obtain ⟨calls, hcalls⟩ := exists_generatorCalls h
  obtain ⟨later, huses⟩ := ruleUses_eq_append hplacements
  obtain ⟨first, rest, rfl, hfirst⟩ :=
    generatorCalls_split hcalls huses (hid ▸ (h.get_id hrule).2)
  have hown : rule.calls grid placement.groups (some (before.length + 1)) =
      [⟨placement.rule, generator, placement.groups, some (before.length + 1)⟩] := by
    simp [Rule.calls, hskipped, hgenerator, hid]
  dsimp only at hcalls
  rw [hown, List.append_assoc, List.singleton_append] at hcalls
  have hasks := asks_of_generatorCalls h hcalls hwritable hheld
  have hanswered : ∀ earlier ∈ first,
      ∃ emission, earlier.answer puzzle.placements grid = .ok emission := by
    intro earlier hearlier
    have hfor := GeneratorCall.isFor_of_use (hfirst earlier hearlier)
    exact answer_of_isFor h hcalls hwritable (List.mem_append_left _ hearlier)
      (by simp [hplacements]) hbefore hfor
  have hsections := hasks.eq_error hanswered hfault
  rw [Selection.map_replace_self] at hsections
  exact ⟨fault, by rw [compile_eq haccepted, hsections]; rfl⟩

/-! ## Warnings -/

def Rule.skipWarnings (rule : Rule) (grid : Grid) : List Warning :=
  if rule.isSkipped grid then [.regionsNeeded rule.id] else []

/-- The warnings on a placement: its rule is skipped, or totals of cages are ignored. -/
def Placement.warnings (grid : Grid) (selection : Selection) (placement : Placement) :
    List Warning :=
  ((selection.find? (.text placement.rule)).toList.flatMap fun rule ↦ rule.skipWarnings grid) ++
    placement.ignoredTotals

/-- The warnings on a puzzle in the order of its document: rules that are skipped, be they selected
or placed, and totals of cages that are ignored. -/
def Puzzle.warnings (puzzle : Puzzle) (grid : Grid) (selection : Selection) : List Warning :=
  ((puzzle.selected.filterMap selection.find?).flatMap fun rule ↦ rule.skipWarnings grid) ++
    puzzle.placements.flatMap (Placement.warnings grid selection)

theorem ignoredTotals_of_ne {placement : Placement} (h : placement.rule ≠ killerCage.id) :
    placement.ignoredTotals = [] := if_neg h

theorem flatMap_warnings_plain (texts : List String) :
    (texts.map Emission.plain).flatMap Emission.warnings = [] := by
  simp [Emission.plain, List.flatMap_map]

theorem RuleBlock.warnings_emission (block : RuleBlock) :
    block.emission.warnings = block.body.flatMap Emission.warnings := by
  change ((comment block.marker.text :: block.remarks).map Emission.plain ++
    block.body).flatMap Emission.warnings = _
  rw [List.flatMap_append, flatMap_warnings_plain, List.nil_append]

/-- What a generator writes comes with the warnings on its groups. -/
theorem warnings_generated (h : Selection.Accepted .standard puzzle grid selection) {rule : Rule}
    (hrule : rule ∈ selection) {groups : List Group}
    (hgiven : AreGiven groups puzzle.placements grid) {position : Option Nat}
    {body : List Emission}
    (hbody : generated rule groups puzzle.placements grid position = .ok body) :
    body.flatMap Emission.warnings = (Placement.mk rule.id groups).ignoredTotals := by
  have hknown : rule ∈ rules := h.known rule hrule
  unfold generated at hbody
  split at hbody
  next hnone =>
    have hids : ∀ rule ∈ rules, rule.generator.isNone = true → rule.id ≠ killerCage.id := by decide
    obtain rfl := Except.ok.inj hbody
    exact (ignoredTotals_of_ne (hids rule hknown (by simp [hnone]))).symm
  next generator hgenerator =>
    split at hbody
    next emission hemission =>
      obtain rfl := Except.ok.inj hbody
      have hanswers := answersFor hknown hgenerator
      have hfaulty : ¬(Placement.mk rule.id groups).IsFaulty := fun hfaulty ↦ by
        obtain ⟨fault, hfault⟩ := hanswers.error groups puzzle.placements grid hfaulty
        simp [hfault] at hemission
      obtain ⟨own, hown, hwarnings⟩ := hanswers.ok groups puzzle.placements grid hgiven hfaulty
      obtain rfl : own = emission := Except.ok.inj (hown.symm.trans hemission)
      simpa [tidy] using hwarnings
    next => simp at hbody

theorem warnings_body (h : Selection.Accepted .standard puzzle grid selection) {rule : Rule}
    (hrule : rule ∈ selection) {groups : List Group}
    (hgiven : AreGiven groups puzzle.placements grid) {position : Option Nat}
    {body : List Emission}
    (hbody : rule.body puzzle.placements grid groups position = .ok body) :
    body.flatMap Emission.warnings =
      rule.skipWarnings grid ++ (Placement.mk rule.id groups).ignoredTotals := by
  unfold Rule.body at hbody
  unfold Rule.skipWarnings
  split at hbody
  next hskipped =>
    have hids : ∀ rule ∈ rules, rule.requiresRegions = true → rule.id ≠ killerCage.id := by decide
    have hregions : rule.requiresRegions = true := (Bool.and_eq_true_iff.1 hskipped).1
    obtain rfl := Except.ok.inj hbody
    rw [if_pos hskipped, ignoredTotals_of_ne (hids rule (h.known rule hrule) hregions)]
    rfl
  next hskipped => rw [if_neg hskipped, warnings_generated h hrule hgiven hbody, List.nil_append]

theorem warnings_wholeBlock (h : Selection.Accepted .standard puzzle grid selection)
    (hsize : Error.isWritableSize grid.rows grid.cols = true) {rule : Rule}
    (hrule : rule ∈ selection) {block : RuleBlock}
    (hblock : rule.wholeBlock puzzle.placements grid = .ok block) :
    block.emission.warnings = rule.skipWarnings grid := by
  obtain ⟨body, hbody, rfl⟩ := map_eq_ok.1 hblock
  have hgiven : AreGiven [] puzzle.placements grid :=
    areGiven_of_accepted h hsize (by simp) (by simp)
  rw [RuleBlock.warnings_emission, List.flatMap_append, flatMap_warnings_plain, List.nil_append,
    warnings_body h hrule hgiven hbody, Placement.ignoredTotals_nil, List.append_nil]

theorem warnings_blocksAt (h : Selection.Accepted .standard puzzle grid selection)
    (hsize : Error.isWritableSize grid.rows grid.cols = true) {placement : Placement}
    (hplacement : placement ∈ puzzle.placements) {position : Nat} {blocks : List RuleBlock}
    (hblocks : puzzle.blocksAt grid selection (placement, position) = .ok blocks) :
    blocks.flatMap (fun block ↦ block.emission.warnings) = placement.warnings grid selection := by
  obtain ⟨rule, hrule, hfind, hid, remarks, body, hremarks, hbody, rfl⟩ :=
    exists_placedBlocks h hplacement hblocks
  have hgiven : AreGiven placement.groups puzzle.placements grid :=
    areGiven_of_accepted h hsize
      (fun cell hcell ↦ List.mem_flatMap.2 ⟨placement, hplacement, hcell⟩)
      (isWritable_of_groupLines hremarks)
  have hshared : ((rule.sharedFragment puzzle.placements grid position).toList.map
      rule.fragmentBlock).flatMap (fun block ↦ block.emission.warnings) = [] := by
    refine List.flatMap_eq_nil_iff.2 fun block hblock ↦ ?_
    obtain ⟨fragment, _, rfl⟩ := List.mem_map.1 hblock
    rfl
  rw [List.flatMap_append, hshared, List.nil_append, List.flatMap_singleton,
    RuleBlock.warnings_emission, warnings_body h hrule hgiven hbody, ← hid, Placement.warnings,
    hfind]
  simp

/-- The warnings on a puzzle are those of its sections. -/
theorem warnings_sections (h : Selection.Accepted .standard puzzle grid selection)
    {parts : List Emission} (hparts : sections puzzle grid selection = .ok parts) :
    parts.flatMap Emission.warnings = puzzle.warnings grid selection := by
  obtain ⟨clues, blocks, hsize, _, hblocks, rfl⟩ := sections_eq_ok h hparts
  obtain ⟨whole, hwhole, hblocks⟩ := bind_eq_ok.1 hblocks
  obtain ⟨placed, hplaced, hblocks⟩ := bind_eq_ok.1 hblocks
  obtain rfl := Except.ok.inj hblocks
  have hwarnings := flatMap_of_mapM_eq_ok (g := fun block ↦ block.emission.warnings)
    (k := fun rule ↦ rule.skipWarnings grid) hwhole fun rule hrule block hblock ↦
      warnings_wholeBlock h hsize (h.mem_of_found hrule).1 hblock
  have hmore := flatMap_of_mapM_eq_ok hplaced fun x hx own hown ↦
    warnings_blocksAt h hsize (List.fst_mem_of_mem_zipIdx hx) hown
  have hzip : (puzzle.placements.zipIdx 1).flatMap (fun x ↦ x.1.warnings grid selection) =
      puzzle.placements.flatMap (Placement.warnings grid selection) := by
    rw [← List.flatMap_map Prod.fst (Placement.warnings grid selection), List.zipIdx_map_fst]
  calc
    _ = (whole ++ placed.flatten).flatMap fun block ↦ block.emission.warnings := by
      rw [List.flatMap_append, List.flatMap_append, flatMap_warnings_plain, List.flatMap_map]
      simp [Emission.plain]
    _ = whole.flatMap (fun block ↦ block.emission.warnings) ++
        placed.flatMap fun own ↦ own.flatMap fun block ↦ block.emission.warnings := by
      rw [List.flatMap_append, ← List.flatMap_id, List.flatMap_assoc]
      rfl
    _ = puzzle.warnings grid selection := by
      rw [hwarnings, hmore, hzip]
      rfl

/-! ## Outcomes -/

/-- No placement of a puzzle that has blocks is faulty. -/
theorem not_isFaulty_of_blocks (h : Selection.Accepted .standard puzzle grid selection)
    {blocks : List RuleBlock} (hblocks : puzzle.blocks grid selection = .ok blocks) :
    ∀ placement ∈ puzzle.placements, ¬placement.IsFaulty := by
  intro placement hplacement hfaulty
  obtain ⟨position, own, hown⟩ := exists_blocksAt hblocks hplacement
  obtain ⟨rule, hrule, _, hid, _, body, _, hbody, _⟩ := exists_placedBlocks h hplacement hown
  obtain ⟨hskipped, generator, hgenerator, hanswers⟩ :=
    generator_of_isFaulty (h.known rule hrule) hid hfaulty grid
  obtain ⟨fault, hfault⟩ := hanswers.error placement.groups puzzle.placements grid hfaulty
  simp [Rule.body, hskipped, generated, hgenerator, hfault] at hbody

/-- A puzzle without faulty placements is compiled if it can be written, if its rules declare no
name twice, and if the check of the finished document does not find the shared total as the array of
a kind where it is declared. -/
theorem exists_compile_eq_ok
    (haccepted : Selection.ofPuzzle .standard puzzle = .ok (grid, selection))
    (hheld : grid.IsHeld) (hwritable : puzzle.IsWritable grid)
    (hrules : (puzzle.ruleNames grid selection).Nodup)
    (htotal : sharedTotal ∈ puzzle.ruleNames grid selection →
      ∀ kind ∈ puzzle.kinds, sharedTotal.toList ∉ kind.found)
    (hfaulty : ∀ placement ∈ puzzle.placements, ¬placement.IsFaulty) :
    ∃ document, compile .standard puzzle = .ok document := by
  have h := Selection.ofPuzzle_eq_ok haccepted
  obtain ⟨calls, hcalls, hasks⟩ := asks_sections h hwritable hheld
  obtain ⟨parts, hparts⟩ := hasks.exists_eq_ok fun call hcall ↦
    answer_of_isFor h hcalls hwritable hcall (List.Subset.refl _) hfaulty
      (isFor_of_mem_generatorCalls hcalls hcall).2
  rw [Selection.map_replace_self] at hparts
  have hcheck := (check_documentText_of_nodup h hrules htotal hparts).2.2
  refine ⟨⟨documentText parts, parts.flatMap Emission.warnings⟩, ?_⟩
  rw [compile_eq haccepted, hparts, ok_bind, hcheck]
  rfl

/-- A puzzle that is compiled has a grid that is held, can be written, and has no faulty placement.
-/
theorem isWritable_of_compile
    (haccepted : Selection.ofPuzzle .standard puzzle = .ok (grid, selection))
    {document : Emission} (hdocument : compile .standard puzzle = .ok document) :
    grid.IsHeld ∧ puzzle.IsWritable grid ∧
      ∀ placement ∈ puzzle.placements, ¬placement.IsFaulty := by
  have h := Selection.ofPuzzle_eq_ok haccepted
  rw [compile_eq haccepted] at hdocument
  obtain ⟨parts, hparts, _⟩ := bind_eq_ok.1 hdocument
  obtain ⟨_, blocks, hsize, _, hblocks, _⟩ := sections_eq_ok h hparts
  obtain ⟨_, hgrid, hsections⟩ := bind_eq_ok.1 hparts
  obtain ⟨_, hkinds, _⟩ := bind_eq_ok.1 hsections
  refine ⟨?_, ⟨hsize, fun kind hkind ↦ ?_, fun placement hplacement ↦ ?_⟩,
    not_isFaulty_of_blocks h hblocks⟩
  · by_contra hheld
    simp [gridSection_eq_error hheld] at hgrid
  · obtain ⟨_, _, hmade⟩ := forall_of_mapM_eq_ok hkinds kind hkind
    by_contra hdomain
    simp [kindSection, hdomain] at hmade
  · obtain ⟨position, own, hown⟩ := exists_blocksAt hblocks hplacement
    obtain ⟨_, _, _, _, _, _, hremarks, _⟩ := exists_placedBlocks h hplacement hown
    exact isWritable_of_groupLines hremarks

/-- When a generator fails on a puzzle that has passed validation, and what is warned of when none
does. A generator fails only for a faulty placement, and it is named. If the puzzle can be written,
the first faulty placement makes its generator fail. The warnings of a returned document are known:
a total of a cage that is given and does not look like an integer is one of them. -/
theorem compile_failing_generators
    (haccepted : Selection.ofPuzzle .standard puzzle = .ok (grid, selection)) :
    (∀ rule position reason,
      compile .standard puzzle = .error (.generatorFailed rule position reason) →
      ∃ placement n, (placement, n) ∈ puzzle.placements.zipIdx 1 ∧ placement.IsFaulty ∧
        placement.rule = rule ∧ position = some n) ∧
    (grid.IsHeld → puzzle.IsWritable grid → ∀ before placement after,
      puzzle.placements = before ++ placement :: after →
      (∀ earlier ∈ before, ¬earlier.IsFaulty) → placement.IsFaulty →
      ∃ fault : Fault, compile .standard puzzle =
        .error (.generatorFailed placement.rule (some (before.length + 1)) fault.reason)) ∧
    ∀ document, compile .standard puzzle = .ok document →
      (∀ placement ∈ puzzle.placements, ¬placement.IsFaulty) ∧
        document.warnings = puzzle.warnings grid selection := by
  have h := Selection.ofPuzzle_eq_ok haccepted
  refine ⟨fun rule position reason he ↦ isFaulty_of_compile haccepted he,
    fun hheld hwritable before placement after hplacements hbefore hfaulty ↦
      compile_of_isFaulty haccepted hheld hwritable hplacements hbefore hfaulty,
    fun document hdocument ↦ ?_⟩
  rw [compile_eq haccepted] at hdocument
  obtain ⟨parts, hparts, hdocument⟩ := bind_eq_ok.1 hdocument
  obtain ⟨⟨⟩, _, rfl⟩ := map_eq_ok.1 hdocument
  obtain ⟨_, _, _, _, hblocks, _⟩ := sections_eq_ok h hparts
  exact ⟨not_isFaulty_of_blocks h hblocks, warnings_sections h hparts⟩

/-- A cage of which the total is a superscript. -/
def Placement.superscriptCage : Placement := ⟨killerCage.id, [⟨[⟨0, 0⟩, ⟨0, 1⟩], .text "²"⟩]⟩

def Puzzle.superscriptCage : Puzzle where
  grid := some ⟨2, 2, none, by decide, by decide⟩
  kinds := [.fourDigits]
  placements := [.superscriptCage]

theorem compile_superscriptCage :
    Selection.ofPuzzle .standard .superscriptCage =
        .ok (⟨2, 2, none, by decide, by decide⟩, [killerCage]) ∧
      ∃ fault : Fault, compile .standard .superscriptCage =
        .error (.generatorFailed killerCage.id (some 1) fault.reason) := by
  have haccepted : Selection.ofPuzzle .standard .superscriptCage =
      .ok (⟨2, 2, none, by decide, by decide⟩, [killerCage]) := rfl
  have htrim : Text.trim "²".toList = ['²'] := by decide
  have hfaulty : Placement.superscriptCage.IsFaulty := by
    refine .inl ⟨rfl, _, List.mem_singleton_self _, by simp, ?_⟩
    rw [GroupValue.IsMisread, htrim]
    have hlooks : looksLikeInteger ['²'] = true := by decide +kernel
    have hdigit : Text.isDigit '²' = false := by decide +kernel
    exact ⟨hlooks, fun hnumeral ↦ by simpa [hdigit] using hnumeral.2.1⟩
  have hheld : (⟨2, 2, none, by decide, by decide⟩ : Grid).IsHeld := .inr (by decide +kernel)
  have hwritable : Puzzle.superscriptCage.IsWritable ⟨2, 2, none, by decide, by decide⟩ := by
    have hone : Text.isWritable 1 = true := Text.isWritable_of_lt (by decide)
    have htwo : Text.isWritable 2 = true := Text.isWritable_of_lt (by decide)
    have hfour : Text.isWritable 4 = true := Text.isWritable_of_lt (by decide)
    refine ⟨by simp [Error.isWritableSize, htwo], ?_, ?_⟩
    · simp [Puzzle.superscriptCage, VariableKind.fourDigits, Domain.isWritable, hone, hfour]
    · simp [Puzzle.superscriptCage, Placement.superscriptCage, GroupValue.toValue, Value.isWritable]
  exact ⟨haccepted, (compile_failing_generators haccepted).2.1 hheld hwritable [] _ [] rfl
    (by simp) hfaulty⟩

end GridPuzzle
