import GridPuzzle.Proofs.Grid
import GridPuzzle.Proofs.Puzzle.Session
import GridPuzzle.Proofs.Value

/-!
# Reporting faults

What is wrong with what is given to a puzzle, be it a cell, a grid, a variable kind or a step, is
reported as a wrong configuration or as a rule that is not found. Such a fault shows numbers that
are in what was given, and no others. So if every number in it may be written, the fault can be
worded; and what is read from it, in turn, holds only numbers that may be written.
-/

namespace GridPuzzle

open Fallible

/-- A fault that is reported of what was described. -/
def Error.IsRejection (e : Error) : Prop := e.category = .configuration ∨ e.category = .notFound

/-- A fault that is reported of what was described, and that can be worded if what was described can
be shown; the one fault that stands for all that cannot be worded is possible if it cannot. -/
def Error.IsReported (shown : Prop) (e : Error) : Prop :=
  (e.IsRejection ∧ (shown → e.isWordable = true)) ∨ (e = .wrongValue ∧ ¬shown)

/-- A computation that reports what is wrong with what was described, if it fails at all. -/
abbrev Reports {α : Type} (shown : Prop) (x : Except Error α) : Prop :=
  FaultsIn (Error.IsReported shown) x

variable {shown : Prop} {given : Value}

theorem Error.IsReported.of_category {e : Error} (hcategory : e.category = .configuration)
    (h : shown → e.isWordable = true) : e.IsReported shown := .inl ⟨.inl hcategory, h⟩

/-- A wrong configuration that shows nothing of what was described. -/
theorem Error.IsReported.of_isWordable {e : Error} (hcategory : e.category = .configuration)
    (h : e.isWordable = true) : e.IsReported shown := .of_category hcategory fun _ ↦ h

/-! ## Cells, groups and clues -/

theorem reports_readSequence (role : String) (h : shown → given.isWritable = true) :
    Reports shown (readSequence role given) := by
  unfold readSequence
  split
  · exact .error (.of_category rfl h)
  · exact .error (.of_category rfl h)
  · split
    · exact .ok _
    · exact .error (.of_category rfl h)

theorem isWritable_of_readSequence {role : String} {items : List Value}
    (h : given.isWritable = true) (hread : readSequence role given = .ok items) :
    ∀ item ∈ items, item.isWritable = true := by
  unfold readSequence at hread
  split at hread
  · cases hread
  · cases hread
  · split at hread
    next hitems =>
      obtain rfl := Except.ok.inj hread
      exact Value.isWritable_of_items? h hitems
    next => cases hread

theorem isWritable_of_coordinate? {n : Nat} (h : given.isWritable = true)
    (hn : coordinate? given = some n) : Text.isWritable n = true := by
  unfold coordinate? at hn
  split at hn
  next =>
    obtain rfl := Option.some.inj hn
    exact h
  next => cases hn

theorem Cell.reports_read (h : shown → given.isWritable = true) :
    Reports shown (Cell.read given) := by
  unfold Cell.read
  split
  · split
    · exact .ok _
    · exact .error (.of_category rfl h)
  · exact .error (.of_category rfl h)

theorem Cell.isWritable_of_read {cell : Cell} (h : given.isWritable = true)
    (hread : Cell.read given = .ok cell) : Error.isWritableCell cell = true := by
  unfold Cell.read at hread
  split at hread
  next row col hitems =>
    have hboth := Value.isWritable_of_items? h hitems
    split at hread
    next r c hr hc =>
      obtain rfl := Except.ok.inj hread
      have hrow := isWritable_of_coordinate? (hboth row (by simp)) hr
      have hcol := isWritable_of_coordinate? (hboth col (by simp)) hc
      simp [Error.isWritableCell, Error.isWritableSize, hrow, hcol]
    next => cases hread
  next => cases hread

theorem reports_readCells {items : List Value}
    (h : shown → ∀ item ∈ items, item.isWritable = true) :
    Reports shown (items.mapM Cell.read) :=
  .mapM fun item hitem ↦ Cell.reports_read fun hshown ↦ h hshown item hitem

theorem isWritable_of_readCells {items : List Value} {cells : List Cell}
    (h : ∀ item ∈ items, item.isWritable = true) (hread : items.mapM Cell.read = .ok cells) :
    ∀ cell ∈ cells, Error.isWritableCell cell = true := by
  intro cell hcell
  obtain ⟨item, hitem, heq⟩ := exists_mem_of_mapM_eq_ok hread hcell
  exact Cell.isWritable_of_read (h item hitem) heq

theorem GroupValue.reports_read (h : shown → given.isWritable = true) :
    Reports shown (GroupValue.read given) := by
  unfold GroupValue.read
  split
  all_goals first | exact .ok _ | exact .error (.of_category rfl h)

theorem Group.reports_read (h : shown → given.isWritable = true) :
    Reports shown (Group.read given) := by
  unfold Group.read
  split
  next entries hentries =>
    have hwritable (hshown : shown) := Value.isWritable_of_entries? (h hshown) hentries
    split
    · exact .error (.of_category rfl h)
    next cells hcells =>
      have hcells (hshown : shown) := Entries.isWritable_of_find? (hwritable hshown) hcells
      refine (reports_readSequence _ hcells).bind fun items hitems ↦ ?_
      refine (reports_readCells fun hshown ↦
        isWritable_of_readSequence (hcells hshown) hitems).bind fun _ _ ↦ ?_
      exact (GroupValue.reports_read fun hshown ↦
        Entries.isWritable_get (hwritable hshown) _).bind fun _ _ ↦ .ok _
  next =>
    refine (reports_readSequence _ h).bind fun items hitems ↦ ?_
    exact (reports_readCells fun hshown ↦
      isWritable_of_readSequence (h hshown) hitems).bind fun _ _ ↦ .ok _

theorem Group.isWritable_of_read {group : Group} (h : given.isWritable = true)
    (hread : Group.read given = .ok group) :
    ∀ cell ∈ group.cells, Error.isWritableCell cell = true := by
  unfold Group.read at hread
  split at hread
  next entries hentries =>
    split at hread
    · cases hread
    next cells hcells =>
      have hcells := Entries.isWritable_of_find? (Value.isWritable_of_entries? h hentries) hcells
      obtain ⟨items, hitems, hread⟩ := bind_eq_ok.1 hread
      obtain ⟨found, hfound, hread⟩ := bind_eq_ok.1 hread
      obtain ⟨value, -, hread⟩ := bind_eq_ok.1 hread
      obtain rfl := Except.ok.inj hread
      exact isWritable_of_readCells (isWritable_of_readSequence hcells hitems) hfound
  next =>
    obtain ⟨items, hitems, hread⟩ := bind_eq_ok.1 hread
    obtain ⟨found, hfound, hread⟩ := bind_eq_ok.1 hread
    obtain rfl := Except.ok.inj hread
    exact isWritable_of_readCells (isWritable_of_readSequence h hitems) hfound

theorem Placement.reports_read (rule : Value) (h : shown → given.isWritable = true) :
    Reports shown (Placement.read rule given) := by
  unfold Placement.read
  split
  · split
    · exact .error (.of_isWordable rfl rfl)
    · refine (reports_readSequence _ h).bind fun items hitems ↦ .bind (.mapM fun item hitem ↦ ?_)
        fun _ _ ↦ .ok _
      exact Group.reports_read fun hshown ↦
        isWritable_of_readSequence (h hshown) hitems item hitem
  · exact .error (.of_isWordable rfl rfl)

theorem Placement.isWritable_of_read {rule : Value} {placement : Placement}
    (h : given.isWritable = true) (hread : Placement.read rule given = .ok placement) :
    ∀ cell ∈ placement.cells, Error.isWritableCell cell = true := by
  unfold Placement.read at hread
  split at hread
  · split at hread
    · cases hread
    · obtain ⟨items, hitems, hread⟩ := bind_eq_ok.1 hread
      obtain ⟨groups, hgroups, hread⟩ := bind_eq_ok.1 hread
      obtain rfl := Except.ok.inj hread
      intro cell hcell
      obtain ⟨group, hgroup, hcell⟩ := List.mem_flatMap.1 hcell
      obtain ⟨item, hitem, heq⟩ := exists_mem_of_mapM_eq_ok hgroups hgroup
      exact Group.isWritable_of_read (isWritable_of_readSequence h hitems item hitem) heq cell hcell
  · cases hread

section Clue

variable {row col kind value : Value}

theorem isWritable_pair (hrow : row.isWritable = true) (hcol : col.isWritable = true) :
    (Value.tuple [row, col]).isWritable = true := by
  simp [Value.isWritable, Value.areWritable, hrow, hcol]

theorem Clue.reports_read (hcell : shown → (Value.tuple [row, col]).isWritable = true)
    (hvalue : shown → value.isWritable = true) : Reports shown (Clue.read row col kind value) := by
  refine (Cell.reports_read hcell).bind fun _ _ ↦ .bind ?_ fun _ _ ↦ .ok _
  unfold ClueValue.read
  split
  all_goals first | exact .ok _ | exact .error (.of_category rfl hvalue)

theorem Clue.isWritable_of_read {clue : Clue} (h : (Value.tuple [row, col]).isWritable = true)
    (hread : Clue.read row col kind value = .ok clue) :
    Error.isWritableCell clue.cell = true := by
  obtain ⟨cell, hcell, hread⟩ := bind_eq_ok.1 hread
  obtain ⟨_, _, hread⟩ := bind_eq_ok.1 hread
  obtain rfl := Except.ok.inj hread
  exact Cell.isWritable_of_read h hcell

end Clue

/-! ## Grids -/

namespace Grid

theorem reports_readSide {fault : Error} (h : fault.IsReported shown) (given : Value) :
    Reports shown (readSide fault given) := by
  unfold readSide
  split
  · exact .ok _
  · exact .error h

theorem isWritable_of_readSide {fault : Error} {n : Nat} (h : given.isWritable = true)
    (hread : readSide fault given = .ok n) : Text.isWritable n = true := by
  unfold readSide at hread
  split at hread
  next =>
    obtain rfl := Except.ok.inj hread
    exact h
  next => cases hread

theorem reports_ofMatrix {rows cols : Nat} {matrix : Option (List (List Int))}
    (hsize : shown → Error.isWritableSize rows cols = true)
    (hids : shown → ∀ ids, matrix = some ids → ∀ id ∈ ids.flatten, Text.isWritable id = true) :
    Reports shown (ofMatrix rows cols matrix) := by
  unfold ofMatrix
  split
  · split
    · split
      · exact .ok _
      next ids =>
        split
        · split
          · exact .ok _
          · refine .error (.of_category rfl fun hshown ↦ List.all_eq_true.2 fun id hid ↦ ?_)
            exact hids hshown ids rfl id (mem_sortedDistinct.1 hid)
        · exact .error (.of_category rfl hsize)
    · exact .error (.of_isWordable rfl rfl)
  · exact .error (.of_isWordable rfl rfl)

section Boxes

variable {rows cols boxRows boxCols : Value}

theorem reports_readBoxes
    (h : shown → [rows, cols, boxRows, boxCols].all Value.isWritable = true) :
    Reports shown (readBoxes rows cols boxRows boxCols) := by
  unfold readBoxes
  split
  · intro e he
    obtain rfl | rfl | rfl := boxes_eq_error he
    · exact .of_category rfl h
    · exact .of_isWordable rfl rfl
    · exact .of_isWordable rfl rfl
  · exact .error (.of_category rfl h)

theorem isWritableSize_of_readBoxes {grid : Grid} (hrows : rows.isWritable = true)
    (hcols : cols.isWritable = true) (h : readBoxes rows cols boxRows boxCols = .ok grid) :
    Error.isWritableSize grid.rows grid.cols = true := by
  have hside {n : Int} (hn : (Value.int n).isWritable = true) : Text.isWritable n.toNat = true := by
    rw [Value.isWritable, Text.isWritable, decide_eq_true_eq] at hn
    rw [Text.isWritable, decide_eq_true_eq, Int.natAbs_natCast]
    exact Nat.lt_of_le_of_lt (by omega) hn
  unfold readBoxes at h
  split at h
  · unfold boxes at h
    split at h
    · cases h
    · obtain ⟨hr, hc⟩ := ofMatrix_eq_ok h
      rw [hr, hc, Error.isWritableSize, hside hrows, hside hcols]
      rfl
  · cases h

end Boxes

theorem isWritable_of_readItems {items : List Value} (h : given.isWritable = true)
    (hread : readItems given = .ok items) : ∀ item ∈ items, item.isWritable = true := by
  unfold readItems at hread
  split at hread
  next hitems =>
    obtain rfl := Except.ok.inj hread
    exact Value.isWritable_of_items? h hitems
  next => cases hread

/-- A region map whose rows are sequences is rejected for its shape or for what it holds. -/
theorem reports_readMatrix {rows cols : Nat}
    (hsize : shown → Error.isWritableSize rows cols = true) (given : List (List Value)) :
    Reports shown (readMatrix rows cols (.tuple (given.map Value.tuple))) := by
  have hitems (items : List Value) : readItems (.tuple items) = .ok items := rfl
  unfold readMatrix
  rw [hitems, ok_bind]
  refine .bind (.mapM fun row hrow ↦ ?_) fun matrix _ ↦ ?_
  · obtain ⟨items, _, rfl⟩ := List.mem_map.1 hrow
    exact .ok items
  · by_cases hshape : HasShape rows cols matrix
    · simp only [hshape, not_true_eq_false, if_false]
      split
      · exact .ok _
      · exact .of_throw (.of_isWordable rfl rfl)
    · simp only [hshape, not_false_eq_true, if_true]
      have hreported : Error.IsReported shown (.regionShape rows cols) := .of_category rfl hsize
      exact .of_throw_bind hreported _

theorem readMatrix_eq_ok {rows cols : Nat} {ids : List (List Int)}
    (h : readMatrix rows cols given = .ok ids) : ∃ items matrix, readItems given = .ok items ∧
      items.mapM readItems = .ok matrix ∧ matrix.mapM (·.mapM Value.asInt?) = some ids := by
  obtain ⟨items, hitems, h⟩ := bind_eq_ok.1 h
  obtain ⟨matrix, hmatrix, h⟩ := bind_eq_ok.1 h
  refine ⟨items, matrix, hitems, hmatrix, ?_⟩
  by_cases hshape : HasShape rows cols matrix
  · simp only [hshape, not_true_eq_false, if_false] at h
    split at h
    next hfound => rw [hfound, Except.ok.inj h]
    next => cases h
  · simp [hshape] at h

theorem isWritable_of_readMatrix {rows cols : Nat} {ids : List (List Int)}
    (h : given.isWritable = true) (hread : readMatrix rows cols given = .ok ids) :
    ∀ id ∈ ids.flatten, Text.isWritable id = true := by
  obtain ⟨items, matrix, hitems, hmatrix, hids⟩ := readMatrix_eq_ok hread
  intro id hid
  obtain ⟨row, hrow, hid⟩ := List.mem_flatten.1 hid
  obtain ⟨values, hvalues, hrow⟩ := exists_mem_of_mapM_eq_some hids hrow
  obtain ⟨item, hitem, hread⟩ := exists_mem_of_mapM_eq_ok hmatrix hvalues
  obtain ⟨value, hvalue, hid⟩ := exists_mem_of_mapM_eq_some hrow hid
  have hwritable :=
    isWritable_of_readItems (isWritable_of_readItems h hitems item hitem) hread value hvalue
  unfold Value.asInt? at hid
  split at hid
  next =>
    obtain rfl := Option.some.inj hid
    exact hwritable
  next => cases hid

section Read

variable {rows cols regions : Value}

/-- A grid is reported on without regions, or with regions whose rows are sequences. -/
theorem reports_read (hrows : shown → rows.isWritable = true)
    (hcols : shown → cols.isWritable = true) (hregions : shown → regions.isWritable = true)
    (h : regions = .null ∨ ∃ ids : List (List Value), regions = .tuple (ids.map Value.tuple)) :
    Reports shown (read rows cols regions) := by
  refine (reports_readSide (.of_isWordable rfl rfl) rows).bind fun r hr ↦ ?_
  refine (reports_readSide (.of_isWordable rfl rfl) cols).bind fun c hc ↦ ?_
  have hsize (hshown : shown) : Error.isWritableSize r c = true := by
    rw [Error.isWritableSize, isWritable_of_readSide (hrows hshown) hr,
      isWritable_of_readSide (hcols hshown) hc]
    rfl
  obtain rfl | ⟨ids, rfl⟩ := h
  · exact reports_ofMatrix hsize fun _ ↦ nofun
  · refine (reports_readMatrix hsize ids).bind fun matrix hmatrix ↦ ?_
    refine reports_ofMatrix hsize fun hshown other heq ↦ ?_
    obtain rfl := Option.some.inj heq
    exact isWritable_of_readMatrix (hregions hshown) hmatrix

theorem isWritableSize_of_read {grid : Grid} (hrows : rows.isWritable = true)
    (hcols : cols.isWritable = true) (h : read rows cols regions = .ok grid) :
    Error.isWritableSize grid.rows grid.cols = true := by
  obtain ⟨r, hr, h⟩ := bind_eq_ok.1 h
  obtain ⟨c, hc, h⟩ := bind_eq_ok.1 h
  have hsize : grid.rows = r ∧ grid.cols = c := by
    split at h
    · exact ofMatrix_eq_ok h
    · obtain ⟨_, _, h⟩ := bind_eq_ok.1 h
      exact ofMatrix_eq_ok h
  rw [hsize.1, hsize.2, Error.isWritableSize, isWritable_of_readSide hrows hr,
    isWritable_of_readSide hcols hc]
  rfl

end Read

end Grid

/-! ## Variable kinds -/

section Kind

variable {name type min max : Value}

theorem VariableKind.reports_read (hname : shown → name.isWritable = true)
    (htype : shown → type.isWritable = true) (hmin : shown → min.isWritable = true)
    (hmax : shown → max.isWritable = true) :
    Reports shown (VariableKind.read name type min max) := by
  unfold VariableKind.read
  split
  · split
    · split
      · refine FaultsIn.map ?_ _
        unfold readDomain
        split
        · split
          next lower upper =>
            split
            · exact .ok _
            · refine .error (.of_category rfl fun hshown ↦ ?_)
              rw [Error.isWordable, Bool.and_eq_true]
              exact ⟨hmin hshown, hmax hshown⟩
          next => exact .error (.of_isWordable rfl rfl)
        · split
          · exact .ok _
          · exact .error (.of_isWordable rfl rfl)
        · exact .error (.of_category rfl htype)
      · exact .error (.of_isWordable rfl rfl)
    · exact .error (.of_isWordable rfl rfl)
  · exact .error (.of_category rfl hname)

end Kind

/-! ## Steps of authoring -/

namespace Puzzle

variable {catalog : Option Catalog} {puzzle : Puzzle}

def HasWritableSize (puzzle : Puzzle) : Prop :=
  ∀ grid, puzzle.grid = some grid → Error.isWritableSize grid.rows grid.cols = true

theorem HasWritableSize.of_grid_eq {next : Puzzle} (h : puzzle.HasWritableSize)
    (heq : next.grid = puzzle.grid) : next.HasWritableSize := fun grid hgrid ↦
  h grid (heq ▸ hgrid)

theorem reports_checkCell {grid : Grid}
    (hsize : shown → Error.isWritableSize grid.rows grid.cols = true) (holder : Holder)
    {cell : Cell} (hcell : shown → Error.isWritableCell cell = true) :
    Reports shown (grid.checkCell holder cell) := by
  intro e he
  obtain ⟨-, rfl⟩ := checkCell_eq_error he
  refine .of_category rfl fun hshown ↦ ?_
  rw [Error.isWordable, hcell hshown, hsize hshown]
  rfl

theorem reports_forM_grid (hsize : shown → puzzle.HasWritableSize)
    {check : Grid → Except Error Unit}
    (h : ∀ grid, (shown → Error.isWritableSize grid.rows grid.cols = true) →
      Reports shown (check grid)) : Reports shown (puzzle.grid.forM check) := by
  cases hgrid : puzzle.grid with
  | none => exact .ok ()
  | some grid => exact h grid fun hshown ↦ hsize hshown grid hgrid

/-- A rule that is named by a text is rejected for being unknown or for its scope. -/
theorem reports_checkRule (catalog : Option Catalog) (id : String) (scope : Scope) :
    Reports shown (checkRule catalog (.text id) scope) := by
  cases catalog with
  | none => exact .ok ()
  | some catalog =>
    refine FaultsIn.bind (fun e he ↦ ?_) fun rule _ ↦ ?_
    · obtain ⟨rfl, -⟩ | ⟨-, hkey⟩ := Catalog.get_eq_error he
      · exact .inl ⟨.inr rfl, fun _ ↦ rfl⟩
      · cases hkey
    · split
      · exact .of_throw (.of_isWordable rfl rfl)
      · exact .ok _

theorem reports_checkKinds (seen kinds : List VariableKind) :
    Reports shown (checkKinds seen kinds) := by
  induction kinds generalizing seen with
  | nil => exact .ok ()
  | cons kind rest ih =>
    unfold checkKinds
    by_cases hname : seen.any (·.name == kind.name) = true
    · simp only [hname, if_true]
      exact .of_throw_bind (.of_isWordable rfl rfl) _
    · simp only [hname, Bool.false_eq_true, if_false]
      split
      · exact .of_throw (.of_isWordable rfl rfl)
      · exact ih (seen ++ [kind])

theorem reports_setKinds (puzzle : Puzzle) (kinds : List VariableKind) :
    Reports shown (puzzle.setKinds kinds) := (reports_checkKinds [] kinds).bind fun _ _ ↦ .ok _

theorem reports_selectRule (puzzle : Puzzle) (id : String) :
    Reports shown (puzzle.selectRule catalog (.text id)) := by
  refine (reports_checkRule catalog id .wholeGrid).bind fun _ _ ↦ ?_
  split
  · exact .error (.of_isWordable rfl rfl)
  · exact .ok _

theorem reports_placeRule (hsize : shown → puzzle.HasWritableSize) (id : String) {groups : Value}
    (hgroups : shown → groups.isWritable = true) :
    Reports shown (puzzle.placeRule catalog (.text id) groups) := by
  refine (reports_checkRule catalog id .placed).bind fun _ _ ↦ ?_
  refine (Placement.reports_read _ hgroups).bind fun placement hplacement ↦ ?_
  refine FaultsIn.bind (.bind (reports_forM_grid hsize fun grid hgrid ↦ ?_) fun _ _ ↦ .ok _)
    fun _ _ ↦ .ok _
  exact .forM fun cell hcell ↦ reports_checkCell hgrid _ fun hshown ↦
    Placement.isWritable_of_read (hgroups hshown) hplacement cell hcell

theorem reports_addClue (hsize : shown → puzzle.HasWritableSize) {clue : Clue}
    (hcell : shown → Error.isWritableCell clue.cell = true) :
    Reports shown (puzzle.addClue clue) :=
  .bind (reports_forM_grid hsize fun _ hgrid ↦ reports_checkCell hgrid _ hcell) fun _ _ ↦ .ok _

end Puzzle

end GridPuzzle
