import GridPuzzle.Compile.Selection
import GridPuzzle.Proofs.Value

/-!
# What validation establishes

A puzzle passes validation against a catalog only if it has a grid, its arrays are distinct, every
clue names a kind of the puzzle whose domain holds its value, all cells lie in the grid, and every
rule it names is in the selection, has the scope of its use and passes the check of a rule in use.
`Selection.Accepted` gathers these facts, and the later stages rest on nothing else. Conversely a
fault of validation comes from one of these checks.
-/

namespace GridPuzzle

open Fallible

namespace Catalog

theorem get_eq_ok {catalog : Catalog} {id : Value} {rule : Rule} :
    catalog.get id = .ok rule ↔ ∃ s, id = .text s ∧ catalog.find? s = some rule := by
  unfold get
  split
  next s =>
    cases h : catalog.find? s <;> simp [h]
  next hid =>
    split
    all_goals
      refine ⟨fun h ↦ by simp at h, ?_⟩
      rintro ⟨s, rfl, _⟩
      exact absurd rfl (hid s)

/-- A value names no rule if no rule has it as its id, or if it can be no key of rules at all. -/
theorem get_eq_error {catalog : Catalog} {id : Value} {e : Error} (h : catalog.get id = .error e) :
    (e = .unknownRule id catalog.ids ∧ ∀ s, id = .text s → catalog.find? s = none) ∨
      e = .wrongType ∧ id.isKey = false := by
  unfold get at h
  split at h
  next s =>
    cases hfind : catalog.find? s with
    | none =>
      rw [hfind] at h
      refine .inl ⟨(Except.error.inj h).symm, fun t ht ↦ ?_⟩
      rwa [← Value.text.inj ht]
    | some rule => simp [hfind] at h
  next hid =>
    split at h
    · exact .inl ⟨(Except.error.inj h).symm, fun s hs ↦ absurd hs (hid s)⟩
    next hkey => exact .inr ⟨(Except.error.inj h).symm, by simpa using hkey⟩

theorem mem_of_find? {catalog : Catalog} {s : String} {rule : Rule}
    (h : catalog.find? s = some rule) : rule ∈ catalog.entries ∧ rule.id = s :=
  ⟨List.mem_of_find?_eq_some h, by simpa using List.find?_some h⟩

/-- A rule of a catalog is found under its id, since no other rule has that id. -/
theorem find?_id {catalog : Catalog} {rule : Rule} (h : rule ∈ catalog.entries) :
    catalog.find? rule.id = some rule := by
  cases hfind : catalog.find? rule.id with
  | none =>
    have := List.find?_eq_none.1 hfind rule h
    simp at this
  | some other =>
    obtain ⟨hother, hid⟩ := mem_of_find? hfind
    rw [List.inj_on_of_nodup_map catalog.distinct hother h hid]

end Catalog

namespace Puzzle

theorem checkCell_eq_ok {grid : Grid} {holder : Holder} {cell : Cell} :
    grid.checkCell holder cell = .ok () ↔ grid.contains cell = true := by
  unfold Grid.checkCell
  split <;> simp_all

theorem checkCell_eq_error {grid : Grid} {holder : Holder} {cell : Cell} {e : Error}
    (h : grid.checkCell holder cell = .error e) :
    grid.contains cell = false ∧ e = .cellOutside cell holder grid.rows grid.cols := by
  unfold Grid.checkCell at h
  split at h
  · cases h
  next hout => exact ⟨by simpa using hout, (Except.error.inj h).symm⟩

theorem kind?_eq_error {puzzle : Puzzle} {name : Value} {e : Error}
    (h : puzzle.kind? name = .error e) : e = .wrongType ∧ name.isKey = false := by
  unfold kind? at h
  split at h
  · cases h
  next hkey => exact ⟨(Except.error.inj h).symm, by simpa using hkey⟩

end Puzzle

namespace Selection

open Puzzle (checkCell_eq_ok checkCell_eq_error)

/-! ## Resolving rules -/

theorem resolve_eq_ok {catalog : Catalog} {reference : Reference} {scope : Scope} {id : Value}
    {rule : Rule} : resolve catalog reference scope id = .ok rule ↔
      ∃ s, id = .text s ∧ catalog.find? s = some rule ∧ rule.scope = scope := by
  unfold resolve
  constructor
  · intro h
    obtain ⟨found, hfound, h⟩ := bind_eq_ok.1 h
    obtain ⟨s, hid, hs⟩ := Catalog.get_eq_ok.1 hfound
    split at h
    next => simp at h
    next hscope =>
      obtain rfl : found = rule := Except.ok.inj h
      exact ⟨s, hid, hs, not_not.1 hscope⟩
  · rintro ⟨s, hid, hs, hscope⟩
    rw [Catalog.get_eq_ok.2 ⟨s, hid, hs⟩]
    simp [hscope]

theorem mem_add {selection : Selection} {rule other : Rule} (h : other ∈ selection.add rule) :
    other ∈ selection ∨ other = rule := by
  unfold add at h
  split at h
  · exact .inl h
  · simpa using h

theorem subset_add (selection : Selection) (rule : Rule) : selection ⊆ selection.add rule := by
  unfold add
  split <;> simp

theorem exists_mem_add (selection : Selection) (rule : Rule) :
    ∃ other ∈ selection.add rule, other.id = rule.id := by
  unfold add
  split
  next h =>
    obtain ⟨other, hother, hid⟩ := List.any_eq_true.1 h
    exact ⟨other, hother, by simpa using hid⟩
  next => exact ⟨rule, by simp, rfl⟩

variable {α : Type} {source : α → Except Error Rule}

/-- Rules added one by one: the members of a selection are those it had and those resolved, and
under the id of each rule resolved there is a member. -/
theorem foldlM_add_eq_ok {l : List α} {start selection : Selection}
    (h : l.foldlM (fun selection x ↦ (source x).map selection.add) start = .ok selection) :
    start ⊆ selection ∧ (∀ rule ∈ selection, rule ∈ start ∨ ∃ x ∈ l, source x = .ok rule) ∧
      ∀ x ∈ l, ∃ rule, source x = .ok rule ∧ ∃ other ∈ selection, other.id = rule.id := by
  induction l generalizing start with
  | nil =>
    obtain rfl : start = selection := by simpa using h
    simp
  | cons x l ih =>
    rw [List.foldlM_cons] at h
    obtain ⟨next, hnext, h⟩ := bind_eq_ok.1 h
    obtain ⟨rule, hrule, rfl⟩ := map_eq_ok.1 hnext
    obtain ⟨hsub, hmem, hall⟩ := ih h
    refine ⟨List.Subset.trans (subset_add start rule) hsub, fun other hother ↦ ?_, fun y hy ↦ ?_⟩
    · obtain hadd | ⟨y, hy, hsource⟩ := hmem other hother
      · obtain hstart | rfl := mem_add hadd
        · exact .inl hstart
        · exact .inr ⟨x, List.mem_cons_self, hrule⟩
      · exact .inr ⟨y, List.mem_cons_of_mem x hy, hsource⟩
    · obtain rfl | hy := List.mem_cons.1 hy
      · obtain ⟨other, hother, hid⟩ := exists_mem_add start rule
        exact ⟨rule, hrule, other, hsub hother, hid⟩
      · exact hall y hy

theorem foldlM_add_eq_error {l : List α} {start : Selection} {e : Error}
    (h : l.foldlM (fun selection x ↦ (source x).map selection.add) start = .error e) :
    ∃ x ∈ l, source x = .error e := by
  induction l generalizing start with
  | nil => simp at h
  | cons x l ih =>
    rw [List.foldlM_cons, bind_eq_error] at h
    obtain h | ⟨next, _, h⟩ := h
    · exact ⟨x, List.mem_cons_self, map_eq_error.1 h⟩
    · obtain ⟨y, hy, he⟩ := ih h
      exact ⟨y, List.mem_cons_of_mem x hy, he⟩

/-! ## The check of a rule in use -/

theorem checkNames_eq_ok {kinds : List VariableKind} {rule : Rule}
    (h : checkNames kinds rule = .ok ()) {fragment : String} (hf : rule.fragment = some fragment)
    {name : String} (hname : name ∈ Document.declaredNames fragment) :
    name ∉ kinds.map VariableKind.array := by
  intro hmem
  obtain ⟨kind, hkind, harray⟩ := List.mem_map.1 hmem
  have hcheck := forM_eq_ok.1 h name (by simpa [hf] using hname)
  split at hcheck
  next => simp at hcheck
  next hnone =>
    have := List.find?_eq_none.1 hnone kind hkind
    simp [harray] at this

/-- The check of a rule in use stops at the first of its faults. -/
theorem checkRule_eq (catalog : Catalog) (kinds : List VariableKind) (rule : Rule) :
    checkRule catalog kinds rule =
      if rule.missingKinds (kinds.map VariableKind.name) = [] then
        if rule.isEmittable = true then
          (rule.consumes.forM fun dependency ↦
            (resolve catalog (.dependency rule.id) .placed (.text dependency)).map fun _ ↦ ()) >>=
              fun _ ↦ checkNames kinds rule
        else .error (.unemittable rule.id)
      else .error (.missingKinds rule.id (rule.missingKinds (kinds.map VariableKind.name))
        (kinds.map VariableKind.name)) := by
  unfold checkRule
  by_cases hmissing : rule.missingKinds (kinds.map VariableKind.name) = []
  · by_cases hemit : rule.isEmittable = true <;> simp [hmissing, hemit]
  · simp [hmissing]

theorem checkRule_eq_ok {catalog : Catalog} {kinds : List VariableKind} {rule : Rule}
    (h : checkRule catalog kinds rule = .ok ()) :
    rule.missingKinds (kinds.map VariableKind.name) = [] ∧ rule.isEmittable = true ∧
      checkNames kinds rule = .ok () := by
  rw [checkRule_eq] at h
  split at h
  next hmissing =>
    split at h
    next hemit =>
      obtain ⟨⟨⟩, _, h⟩ := bind_eq_ok.1 h
      exact ⟨hmissing, hemit, h⟩
    next => cases h
  next => cases h

/-! ## Accepted puzzles -/

/-- What is known of a puzzle that passes validation, of its grid and of the rules in use. -/
structure Accepted (catalog : Catalog) (puzzle : Puzzle) (grid : Grid) (selection : Selection) :
    Prop where
  grid_eq : puzzle.grid = some grid
  arrays : (puzzle.kinds.map VariableKind.array).Nodup
  clues : ∀ clue ∈ puzzle.clues, ∃ kind, puzzle.kind? clue.kind = .ok (some kind) ∧
    grid.contains clue.cell = true ∧ kind.accepts clue.value.toValue = true
  selected : ∀ id ∈ puzzle.selected, ∃ rule ∈ selection, id = .text rule.id ∧
    rule.scope = .wholeGrid
  placed : ∀ placement ∈ puzzle.placements, ∃ rule ∈ selection, placement.rule = rule.id ∧
    rule.scope = .placed
  cells : ∀ placement ∈ puzzle.placements, ∀ cell ∈ placement.cells, grid.contains cell = true
  known : ∀ rule ∈ selection, rule ∈ catalog.entries
  fits : ∀ rule ∈ selection, checkRule catalog puzzle.kinds rule = .ok ()

theorem checkClue_eq_ok {puzzle : Puzzle} {grid : Grid} {clue : Clue}
    (h : checkClue puzzle grid clue = .ok ()) :
    ∃ kind, puzzle.kind? clue.kind = .ok (some kind) ∧ grid.contains clue.cell = true ∧
      kind.accepts clue.value.toValue = true := by
  obtain ⟨kind?, hkind, h⟩ := bind_eq_ok.1 h
  cases kind? with
  | none => simp at h
  | some kind =>
    obtain ⟨⟨⟩, hcell, h⟩ := bind_eq_ok.1 h
    refine ⟨kind, hkind, checkCell_eq_ok.1 hcell, ?_⟩
    by_contra haccepts
    simp [haccepts] at h

theorem checkClue_of_accepts {puzzle : Puzzle} {grid : Grid} {clue : Clue} {kind : VariableKind}
    (hkind : puzzle.kind? clue.kind = .ok (some kind)) (hcell : grid.contains clue.cell = true)
    (haccepts : kind.accepts clue.value.toValue = true) :
    checkClue puzzle grid clue = .ok () := by
  unfold checkClue
  rw [hkind, ok_bind]
  simp [checkCell_eq_ok.2 hcell, haccepts]

theorem resolvePlacement_eq_ok {catalog : Catalog} {grid : Grid} {position : Nat}
    {placement : Placement} {rule : Rule}
    (h : resolvePlacement catalog grid position placement = .ok rule) :
    catalog.find? placement.rule = some rule ∧ rule.scope = .placed ∧
      ∀ cell ∈ placement.cells, grid.contains cell = true := by
  obtain ⟨found, hfound, h⟩ := bind_eq_ok.1 h
  obtain ⟨⟨⟩, hcells, h⟩ := bind_eq_ok.1 h
  obtain rfl : found = rule := Except.ok.inj h
  obtain ⟨s, hid, hs, hscope⟩ := resolve_eq_ok.1 hfound
  obtain rfl : placement.rule = s := by simpa using hid
  exact ⟨hs, hscope, fun cell hcell ↦ checkCell_eq_ok.1 (forM_eq_ok.1 hcells cell hcell)⟩

theorem checkArrays_eq_ok {kinds : List VariableKind} :
    checkArrays kinds = .ok () ↔ (kinds.map VariableKind.array).Nodup := by
  simp [checkArrays]

theorem exists_mem_zipIdx {β : Type} {l : List β} {x : β} (h : x ∈ l) (start : Nat) :
    ∃ position, (x, position) ∈ l.zipIdx start := by
  obtain ⟨i, hi, rfl⟩ := List.mem_iff_getElem.1 h
  exact ⟨start + i, List.mk_add_mem_zipIdx_iff_getElem?.2 (by simp [hi])⟩

/-- The rules in use are rules of the catalog. -/
theorem known_of_mem {catalog : Catalog} {puzzle : Puzzle} {grid : Grid}
    {chosen selection : Selection}
    (hchosen : resolveSelected catalog [] puzzle.selected = .ok chosen)
    (hall : resolvePlacements catalog grid chosen puzzle.placements = .ok selection) :
    ∀ rule ∈ selection, rule ∈ catalog.entries := by
  intro rule hrule
  obtain hrule | ⟨x, _, hx⟩ := (foldlM_add_eq_ok hall).2.1 rule hrule
  · obtain hrule | ⟨x, _, hx⟩ := (foldlM_add_eq_ok hchosen).2.1 rule hrule
    · simp at hrule
    · obtain ⟨s, _, hs, _⟩ := resolve_eq_ok.1 hx
      exact (Catalog.mem_of_find? hs).1
  · exact (Catalog.mem_of_find? (resolvePlacement_eq_ok hx).1).1

/-- A puzzle that passes validation passes each check in turn. -/
theorem checks_of_ofPuzzle {catalog : Catalog} {puzzle : Puzzle} {grid : Grid}
    {selection : Selection} (h : ofPuzzle catalog puzzle = .ok (grid, selection)) :
    puzzle.grid = some grid ∧ checkArrays puzzle.kinds = .ok () ∧
      puzzle.clues.forM (checkClue puzzle grid) = .ok () ∧
      ∃ chosen, resolveSelected catalog [] puzzle.selected = .ok chosen ∧
        resolvePlacements catalog grid chosen puzzle.placements = .ok selection ∧
        selection.forM (checkRule catalog puzzle.kinds) = .ok () := by
  unfold ofPuzzle at h
  split at h
  next => simp at h
  next found hgrid =>
    obtain ⟨⟨⟩, harrays, h⟩ := bind_eq_ok.1 h
    obtain ⟨⟨⟩, hclues, h⟩ := bind_eq_ok.1 h
    obtain ⟨chosen, hchosen, h⟩ := bind_eq_ok.1 h
    obtain ⟨all, hall, h⟩ := bind_eq_ok.1 h
    obtain ⟨⟨⟩, hfits, h⟩ := bind_eq_ok.1 h
    obtain ⟨rfl, rfl⟩ : found = grid ∧ all = selection := by simpa using h
    exact ⟨hgrid, harrays, hclues, chosen, hchosen, hall, hfits⟩

/-- A puzzle that passes each check in turn passes validation. -/
theorem ofPuzzle_of_checks {catalog : Catalog} {puzzle : Puzzle} {grid : Grid}
    {chosen selection : Selection} (hgrid : puzzle.grid = some grid)
    (harrays : checkArrays puzzle.kinds = .ok ())
    (hclues : puzzle.clues.forM (checkClue puzzle grid) = .ok ())
    (hselected : resolveSelected catalog [] puzzle.selected = .ok chosen)
    (hplaced : resolvePlacements catalog grid chosen puzzle.placements = .ok selection)
    (hrules : selection.forM (checkRule catalog puzzle.kinds) = .ok ()) :
    ofPuzzle catalog puzzle = .ok (grid, selection) := by
  unfold ofPuzzle
  simp only [hgrid, harrays, hclues, hselected, hplaced, hrules, ok_bind, pure_eq_ok]

/-- What the checks of validation establish of the puzzle and the rules in use. -/
theorem ofPuzzle_eq_ok {catalog : Catalog} {puzzle : Puzzle} {grid : Grid} {selection : Selection}
    (h : ofPuzzle catalog puzzle = .ok (grid, selection)) :
    Accepted catalog puzzle grid selection := by
  obtain ⟨hgrid, harrays, hclues, chosen, hchosen, hall, hfits⟩ := checks_of_ofPuzzle h
  obtain ⟨_, _, hselected⟩ := foldlM_add_eq_ok hchosen
  obtain ⟨hsub, _, hplaced⟩ := foldlM_add_eq_ok hall
  have hknown := known_of_mem hchosen hall
  have hsame : ∀ rule ∈ catalog.entries, ∀ other ∈ selection, other.id = rule.id →
      rule ∈ selection := fun rule hrule other hother hid ↦
    List.inj_on_of_nodup_map catalog.distinct (hknown other hother) hrule hid ▸ hother
  refine ⟨hgrid, checkArrays_eq_ok.1 harrays,
    fun clue hc ↦ checkClue_eq_ok (forM_eq_ok.1 hclues clue hc), ?_, ?_, ?_, hknown,
    forM_eq_ok.1 hfits⟩
  · intro id hid
    obtain ⟨rule, hrule, other, hother, heq⟩ := hselected id hid
    obtain ⟨s, rfl, hs, hscope⟩ := resolve_eq_ok.1 hrule
    obtain ⟨hmem, rfl⟩ := Catalog.mem_of_find? hs
    exact ⟨rule, hsame rule hmem other (hsub hother) heq, rfl, hscope⟩
  · intro placement hp
    obtain ⟨position, hposition⟩ := exists_mem_zipIdx hp 1
    obtain ⟨rule, hrule, other, hother, heq⟩ := hplaced _ hposition
    obtain ⟨hs, hscope, _⟩ := resolvePlacement_eq_ok hrule
    obtain ⟨hmem, hid⟩ := Catalog.mem_of_find? hs
    exact ⟨rule, hsame rule hmem other hother heq, hid.symm, hscope⟩
  · intro placement hp
    obtain ⟨position, hposition⟩ := exists_mem_zipIdx hp 1
    obtain ⟨rule, hrule, _⟩ := hplaced _ hposition
    exact (resolvePlacement_eq_ok hrule).2.2

/-! ## Looking up rules in use -/

theorem get_eq_ok {selection : Selection} {id : Value} {rule : Rule} :
    selection.get id = .ok rule ↔ selection.find? id = some rule := by
  unfold get
  cases selection.find? id <;> simp

theorem find?_text {selection : Selection} {id : String} {rule : Rule}
    (h : selection.find? (.text id) = some rule) : rule ∈ selection ∧ id = rule.id :=
  ⟨List.mem_of_find?_eq_some h, by simpa using List.find?_some h⟩

namespace Accepted

variable {catalog : Catalog} {puzzle : Puzzle} {grid : Grid} {selection : Selection}

/-- A rule in use is found under its id, since it is the only rule of the catalog with that id. -/
theorem find?_id (h : Accepted catalog puzzle grid selection) {rule : Rule}
    (hrule : rule ∈ selection) : selection.find? (.text rule.id) = some rule := by
  have hsome : (selection.find? (.text rule.id)).isSome = true :=
    List.find?_isSome.2 ⟨rule, hrule, by simp⟩
  obtain ⟨found, hfind⟩ := Option.isSome_iff_exists.1 hsome
  obtain ⟨hfound, hid⟩ := find?_text hfind
  rw [hfind, List.inj_on_of_nodup_map catalog.distinct (h.known found hfound) (h.known rule hrule)
    hid.symm]

/-- A rule in use is looked up with success, and the catalog has the same rule. -/
theorem get_id (h : Accepted catalog puzzle grid selection) {rule : Rule}
    (hrule : rule ∈ selection) : selection.get (.text rule.id) = .ok rule ∧
      catalog.get (.text rule.id) = .ok rule :=
  ⟨get_eq_ok.2 (h.find?_id hrule),
    Catalog.get_eq_ok.2 ⟨rule.id, rfl, Catalog.find?_id (h.known rule hrule)⟩⟩

/-- The rule of every selected id is in use. -/
theorem exists_find?_selected (h : Accepted catalog puzzle grid selection) {id : Value}
    (hid : id ∈ puzzle.selected) : ∃ rule, selection.find? id = some rule := by
  obtain ⟨rule, hrule, rfl, _⟩ := h.selected id hid
  exact ⟨rule, h.find?_id hrule⟩

/-- The rule found for a selected id is one of the whole grid. -/
theorem find?_selected (h : Accepted catalog puzzle grid selection) {id : Value}
    (hid : id ∈ puzzle.selected) {rule : Rule} (hrule : selection.find? id = some rule) :
    id = .text rule.id ∧ rule.scope = .wholeGrid := by
  obtain ⟨own, hown, rfl, hscope⟩ := h.selected id hid
  obtain rfl : own = rule := Option.some.inj ((h.find?_id hown).symm.trans hrule)
  exact ⟨rfl, hscope⟩

/-- The rules found for the selected ids are in use, and they are rules of the whole grid. -/
theorem mem_of_found (h : Accepted catalog puzzle grid selection) {rule : Rule}
    (hrule : rule ∈ puzzle.selected.filterMap selection.find?) :
    rule ∈ selection ∧ rule.scope = .wholeGrid ∧ .text rule.id ∈ puzzle.selected := by
  obtain ⟨id, hid, hfind⟩ := List.mem_filterMap.1 hrule
  obtain ⟨rfl, hscope⟩ := h.find?_selected hid hfind
  exact ⟨List.mem_of_find?_eq_some hfind, hscope, hid⟩

/-- The rule of every placement is in use. -/
theorem exists_find?_placed (h : Accepted catalog puzzle grid selection) {placement : Placement}
    (hplacement : placement ∈ puzzle.placements) :
    ∃ rule, selection.find? (.text placement.rule) = some rule ∧ rule ∈ selection ∧
      placement.rule = rule.id := by
  obtain ⟨rule, hrule, hid, _⟩ := h.placed placement hplacement
  exact ⟨rule, by rw [hid, h.find?_id hrule], hrule, hid⟩

/-- The rule found for a placement is one to be placed. -/
theorem find?_placed (h : Accepted catalog puzzle grid selection) {placement : Placement}
    (hplacement : placement ∈ puzzle.placements) {rule : Rule}
    (hrule : selection.find? (.text placement.rule) = some rule) : rule.scope = .placed := by
  obtain ⟨own, hown, hid, hscope⟩ := h.placed placement hplacement
  rw [hid, h.find?_id hown] at hrule
  rwa [← Option.some.inj hrule]

/-- No lookup of a selected rule fails. -/
theorem mapM_get (h : Accepted catalog puzzle grid selection) :
    puzzle.selected.mapM selection.get = .ok (puzzle.selected.filterMap selection.find?) := by
  apply mapM_eq_filterMap
  intro id hid
  obtain ⟨rule, hrule⟩ := h.exists_find?_selected hid
  exact ⟨rule, hrule, get_eq_ok.2 hrule⟩

end Accepted

/-! ## Validation of what is accepted -/

theorem exists_foldlM_add {l : List α} (h : ∀ x ∈ l, ∃ rule, source x = .ok rule)
    (start : Selection) : ∃ selection,
      l.foldlM (fun selection x ↦ (source x).map selection.add) start = .ok selection := by
  induction l generalizing start with
  | nil => exact ⟨start, rfl⟩
  | cons x l ih =>
    obtain ⟨⟨rule, hrule⟩, hrest⟩ := List.forall_mem_cons.1 h
    obtain ⟨selection, hselection⟩ := ih hrest (start.add rule)
    refine ⟨selection, ?_⟩
    rw [List.foldlM_cons, hrule]
    exact hselection

theorem Accepted.exists_resolve {catalog : Catalog} {puzzle : Puzzle} {grid : Grid}
    {selection : Selection} (h : Accepted catalog puzzle grid selection) {id : Value}
    (hid : id ∈ puzzle.selected) :
    ∃ rule ∈ selection, resolve catalog .selection .wholeGrid id = .ok rule := by
  obtain ⟨rule, hrule, rfl, hscope⟩ := h.selected id hid
  exact ⟨rule, hrule, resolve_eq_ok.2 ⟨rule.id, rfl, Catalog.find?_id (h.known rule hrule), hscope⟩⟩

theorem Accepted.exists_resolvePlacement {catalog : Catalog} {puzzle : Puzzle} {grid : Grid}
    {selection : Selection} (h : Accepted catalog puzzle grid selection) {placement : Placement}
    (hplacement : placement ∈ puzzle.placements) (position : Nat) :
    ∃ rule ∈ selection, resolvePlacement catalog grid position placement = .ok rule := by
  obtain ⟨rule, hrule, hid, hscope⟩ := h.placed placement hplacement
  have hfind := Catalog.find?_id (h.known rule hrule)
  have hresolve : resolve catalog (.placement position) .placed (.text placement.rule) = .ok rule :=
    resolve_eq_ok.2 ⟨rule.id, by rw [hid], hfind, hscope⟩
  have hcells : placement.cells.forM (grid.checkCell (.numbered position placement.rule)) =
      .ok () :=
    forM_eq_ok.2 fun cell hcell ↦ checkCell_eq_ok.2 (h.cells placement hplacement cell hcell)
  exact ⟨rule, hrule, bind_eq_ok.2 ⟨rule, hresolve, bind_eq_ok.2 ⟨(), hcells, rfl⟩⟩⟩

/-- What is known of an accepted puzzle is enough for it to pass validation, and then no more rules
are in use. -/
theorem Accepted.exists_ofPuzzle {catalog : Catalog} {puzzle : Puzzle} {grid : Grid}
    {selection : Selection} (h : Accepted catalog puzzle grid selection) :
    ∃ used, ofPuzzle catalog puzzle = .ok (grid, used) ∧ used ⊆ selection := by
  have hplaced (x : Placement × Nat) (hx : x ∈ puzzle.placements.zipIdx 1) :=
    h.exists_resolvePlacement (List.fst_mem_of_mem_zipIdx hx) x.2
  obtain ⟨chosen, hchosen⟩ := exists_foldlM_add
    (fun id hid ↦ (h.exists_resolve hid).imp fun _ ↦ And.right) []
  obtain ⟨used, hused⟩ := exists_foldlM_add (fun x hx ↦ (hplaced x hx).imp fun _ ↦ And.right) chosen
  have hsub : used ⊆ selection := by
    intro rule hrule
    obtain hrule | ⟨x, hx, hmade⟩ := (foldlM_add_eq_ok hused).2.1 rule hrule
    · obtain hrule | ⟨id, hid, hmade⟩ := (foldlM_add_eq_ok hchosen).2.1 rule hrule
      · exact absurd hrule List.not_mem_nil
      · obtain ⟨own, hmem, hown⟩ := h.exists_resolve hid
        rwa [Except.ok.inj (hmade.symm.trans hown)]
    · obtain ⟨own, hmem, hown⟩ := hplaced x hx
      rwa [Except.ok.inj (hmade.symm.trans hown)]
  have hclues : puzzle.clues.forM (checkClue puzzle grid) = .ok () := by
    refine forM_eq_ok.2 fun clue hclue ↦ ?_
    obtain ⟨kind, hkind, hcell, haccepts⟩ := h.clues clue hclue
    exact checkClue_of_accepts hkind hcell haccepts
  have hfits : used.forM (checkRule catalog puzzle.kinds) = .ok () :=
    forM_eq_ok.2 fun rule hrule ↦ h.fits rule (hsub hrule)
  exact ⟨used, ofPuzzle_of_checks h.grid_eq (checkArrays_eq_ok.2 h.arrays) hclues hchosen hused
    hfits, hsub⟩

/-! ## Faults of validation -/

theorem checkArrays_eq_error {kinds : List VariableKind} {e : Error}
    (h : checkArrays kinds = .error e) :
    ¬(kinds.map VariableKind.array).Nodup ∧ e = .clashingArrays (kinds.map VariableKind.array) := by
  unfold checkArrays at h
  dsimp only at h
  split at h
  · cases h
  next hclash => exact ⟨hclash, (Except.error.inj h).symm⟩

/-- A fault of a clue is one of its kind, which may be no key of kinds at all, of its cell or of its
value. -/
theorem checkClue_eq_error {puzzle : Puzzle} {grid : Grid} {clue : Clue} {e : Error}
    (h : checkClue puzzle grid clue = .error e) :
    (e = .wrongType ∧ clue.kind.isKey = false) ∨ e = .clueKind clue.cell clue.kind ∨
      (grid.contains clue.cell = false ∧ e = .cellOutside clue.cell .clue grid.rows grid.cols) ∨
      ∃ kind, e = .clueDomain clue.value.toValue clue.cell kind := by
  obtain hkind | ⟨kind?, _, h⟩ := bind_eq_error.1 h
  · exact .inl (Puzzle.kind?_eq_error hkind)
  · cases kind? with
    | none => exact .inr (.inl (Except.error.inj h).symm)
    | some kind =>
      obtain hcell | ⟨⟨⟩, _, h⟩ := bind_eq_error.1 h
      · exact .inr (.inr (.inl (checkCell_eq_error hcell)))
      · split at h
        · exact .inr (.inr (.inr ⟨kind.name, (Except.error.inj h).symm⟩))
        · cases h

theorem resolve_eq_error {catalog : Catalog} {reference : Reference} {scope : Scope}
    {id : Value} {e : Error} (h : resolve catalog reference scope id = .error e) :
    (e = .wrongType ∧ id.isKey = false) ∨
      (e = .unknownRule id catalog.ids ∧ ∀ s, id = .text s → catalog.find? s = none) ∨
      ∃ rule actual, e = .ruleUse reference rule actual scope := by
  obtain hget | ⟨rule, _, h⟩ := bind_eq_error.1 h
  · obtain hunknown | hkey := Catalog.get_eq_error hget
    · exact .inr (.inl hunknown)
    · exact .inl hkey
  · split at h
    · exact .inr (.inr ⟨rule.id, rule.scope, (Except.error.inj h).symm⟩)
    · cases h

/-- A text that names no rule to be used is that of an unknown rule or of one for another use. -/
theorem resolve_text_eq_error {catalog : Catalog} {reference : Reference} {scope : Scope}
    {s : String} {e : Error} (h : resolve catalog reference scope (.text s) = .error e) :
    (catalog.find? s = none ∧ e = .unknownRule (.text s) catalog.ids) ∨
      ∃ rule actual, e = .ruleUse reference rule actual scope := by
  obtain ⟨_, hkey⟩ | ⟨heq, hnone⟩ | huse := resolve_eq_error h
  · cases hkey
  · exact .inl ⟨hnone s rfl, heq⟩
  · exact .inr huse

theorem resolvePlacement_eq_error {catalog : Catalog} {grid : Grid} {position : Nat}
    {placement : Placement} {e : Error}
    (h : resolvePlacement catalog grid position placement = .error e) :
    resolve catalog (.placement position) .placed (.text placement.rule) = .error e ∨
      ∃ cell ∈ placement.cells, grid.contains cell = false ∧
        e = .cellOutside cell (.numbered position placement.rule) grid.rows grid.cols := by
  obtain h | ⟨_, _, h⟩ := bind_eq_error.1 h
  · exact .inl h
  obtain h | ⟨_, _, h⟩ := bind_eq_error.1 h
  · obtain ⟨cell, hcell, h⟩ := forM_eq_error h
    exact .inr ⟨cell, hcell, checkCell_eq_error h⟩
  · cases h

/-- The check of a rule in use faults a kind that is missing, a rule that cannot be emitted, a
dependency or a name. -/
theorem checkRule_eq_error {catalog : Catalog} {kinds : List VariableKind} {rule : Rule} {e : Error}
    (h : checkRule catalog kinds rule = .error e) :
    (rule.missingKinds (kinds.map VariableKind.name) ≠ [] ∧
      e = .missingKinds rule.id (rule.missingKinds (kinds.map VariableKind.name))
        (kinds.map VariableKind.name)) ∨ e = .unemittable rule.id ∨
      (∃ dependency ∈ rule.consumes,
        resolve catalog (.dependency rule.id) .placed (.text dependency) = .error e) ∨
      ∃ kind name, e = .nameClash kind name rule.id := by
  rw [checkRule_eq] at h
  split at h
  next =>
    split at h
    next =>
      obtain h | ⟨_, _, h⟩ := bind_eq_error.1 h
      · obtain ⟨dependency, hdependency, h⟩ := forM_eq_error h
        exact .inr (.inr (.inl ⟨dependency, hdependency, map_eq_error.1 h⟩))
      · obtain ⟨name, _, h⟩ := forM_eq_error h
        split at h
        next kind _ => exact .inr (.inr (.inr ⟨kind.name, name, (Except.error.inj h).symm⟩))
        next => simp at h
    next => exact .inr (.inl (Except.error.inj h).symm)
  next hmissing => exact .inl ⟨hmissing, (Except.error.inj h).symm⟩

/-- The rules in use are those that the puzzle selects or places. -/
theorem uses_of_mem {catalog : Catalog} {puzzle : Puzzle} {grid : Grid}
    {chosen selection : Selection}
    (hchosen : resolveSelected catalog [] puzzle.selected = .ok chosen)
    (hall : resolvePlacements catalog grid chosen puzzle.placements = .ok selection) :
    ∀ rule ∈ selection, .text rule.id ∈ puzzle.selected ∨
      ∃ placement ∈ puzzle.placements, placement.rule = rule.id := by
  intro rule hrule
  obtain hrule | ⟨x, hx, hresolve⟩ := (foldlM_add_eq_ok hall).2.1 rule hrule
  · obtain hrule | ⟨id, hid, hresolve⟩ := (foldlM_add_eq_ok hchosen).2.1 rule hrule
    · simp at hrule
    · obtain ⟨s, rfl, hs, _⟩ := resolve_eq_ok.1 hresolve
      rw [← (Catalog.mem_of_find? hs).2] at hid
      exact .inl hid
  · have hfind := (resolvePlacement_eq_ok hresolve).1
    exact .inr ⟨x.1, List.fst_mem_of_mem_zipIdx hx, (Catalog.mem_of_find? hfind).2.symm⟩

/-- A fault of validation is a missing grid or comes from one of the checks. -/
theorem ofPuzzle_eq_error {catalog : Catalog} {puzzle : Puzzle} {e : Error}
    (h : ofPuzzle catalog puzzle = .error e) :
    e = .noGrid ∨ ∃ grid, puzzle.grid = some grid ∧
      (checkArrays puzzle.kinds = .error e ∨
        (∃ clue ∈ puzzle.clues, checkClue puzzle grid clue = .error e) ∨
        (∃ id ∈ puzzle.selected, resolve catalog .selection .wholeGrid id = .error e) ∨
        (∃ placement ∈ puzzle.placements, ∃ position,
          resolvePlacement catalog grid position placement = .error e) ∨
        ∃ rule ∈ catalog.entries, (.text rule.id ∈ puzzle.selected ∨
          ∃ placement ∈ puzzle.placements, placement.rule = rule.id) ∧
            checkRule catalog puzzle.kinds rule = .error e) := by
  unfold ofPuzzle at h
  split at h
  next => exact .inl (Except.error.inj h).symm
  next grid hgrid =>
    refine .inr ⟨grid, hgrid, ?_⟩
    obtain h | ⟨_, _, h⟩ := bind_eq_error.1 h
    · exact .inl h
    obtain h | ⟨_, _, h⟩ := bind_eq_error.1 h
    · exact .inr (.inl (forM_eq_error h))
    obtain h | ⟨chosen, hchosen, h⟩ := bind_eq_error.1 h
    · exact .inr (.inr (.inl (foldlM_add_eq_error h)))
    obtain h | ⟨all, hall, h⟩ := bind_eq_error.1 h
    · obtain ⟨⟨placement, position⟩, hmem, h⟩ := foldlM_add_eq_error h
      exact .inr (.inr (.inr (.inl ⟨placement, List.fst_mem_of_mem_zipIdx hmem, position, h⟩)))
    obtain h | ⟨_, _, h⟩ := bind_eq_error.1 h
    · obtain ⟨rule, hrule, h⟩ := forM_eq_error h
      exact .inr (.inr (.inr (.inr ⟨rule, known_of_mem hchosen hall rule hrule,
        uses_of_mem hchosen hall rule hrule, h⟩)))
    · simp at h

end Selection

end GridPuzzle
