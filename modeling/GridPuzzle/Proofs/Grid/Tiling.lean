import GridPuzzle.Proofs.Grid
import GridPuzzle.Proofs.Grid.Region
import GridPuzzle.Proofs.Value

/-!
# Tilings

A grid of boxes is made for a size just if the boxes tile it. Then a region is what a row of boxes
and a column of boxes have in common, every region has as many cells as a box, and no two regions
are the same. Otherwise the size is refused, and the refusal can be worded unless one of its numbers
is too long to be written.
-/

namespace GridPuzzle

/-! ## Counting cells -/

/-- The cells whose rows and columns are of given classes. -/
theorem length_filter_rectangle (p q : Nat → Bool) (rows cols : Nat) :
    ((rectangle rows cols).filter fun cell ↦ p cell.row && q cell.col).length =
      ((List.range rows).filter p).length * ((List.range cols).filter q).length := by
  have hrow (row : Nat) : (((List.range cols).map fun col ↦ (⟨row, col⟩ : Cell)).filter
      fun cell ↦ p cell.row && q cell.col).length =
        if p row then ((List.range cols).filter q).length else 0 := by
    rw [List.filter_map, List.length_map]
    cases hp : p row <;> simp [Function.comp_def, hp]
  induction rows with
  | zero => simp [rectangle]
  | succ rows ih =>
    calc
      _ = ((rectangle rows cols).filter fun cell ↦ p cell.row && q cell.col).length +
          (((List.range cols).map fun col ↦ (⟨rows, col⟩ : Cell)).filter
            fun cell ↦ p cell.row && q cell.col).length := by
        rw [rectangle, List.range_succ, List.flatMap_append, List.flatMap_singleton,
          List.filter_append, List.length_append, rectangle]
      _ = ((List.range rows).filter p).length * ((List.range cols).filter q).length +
          if p rows then ((List.range cols).filter q).length else 0 := by rw [ih, hrow]
      _ = ((List.range (rows + 1)).filter p).length * ((List.range cols).filter q).length := by
        rw [List.range_succ, List.filter_append, List.length_append, Nat.add_mul]
        cases hp : p rows <;> simp [hp]

/-- Each quotient below a bound is that of as many numbers as the divisor says. -/
theorem length_filter_div {count size part : Nat} (hpart : part < count) :
    ((List.range (count * size)).filter (· / size == part)).length = size := by
  induction count with
  | zero => exact absurd hpart (Nat.not_lt_zero part)
  | succ count ih =>
    -- the numbers that the last quotient adds
    have hlast : ∀ k ∈ List.range size, (count * size + k) / size = count := by
      intro k hk
      have hk := List.mem_range.1 hk
      calc
        _ = (size * count + k) / size := by rw [Nat.mul_comm]
        _ = count + k / size := Nat.mul_add_div (Nat.zero_lt_of_lt hk) count k
        _ = count := by rw [Nat.div_eq_of_lt hk, Nat.add_zero]
    rw [Nat.succ_mul, List.range_add, List.filter_append, List.length_append, List.filter_map,
      List.length_map]
    obtain hpart | rfl := Nat.lt_succ_iff_lt_or_eq.1 hpart
    · have hnone : (List.range size).filter
          ((fun n ↦ n / size == part) ∘ (count * size + ·)) = [] := by
        apply List.filter_eq_nil_iff.2
        intro k hk
        simpa [hlast k hk] using hpart.ne'
      rw [ih hpart, hnone, List.length_nil, Nat.add_zero]
    · have hnone : (List.range (part * size)).filter (· / size == part) = [] := by
        apply List.filter_eq_nil_iff.2
        intro n hn
        have hlt : n / size < part := Nat.div_lt_of_lt_mul (by
          rw [Nat.mul_comm]
          exact List.mem_range.1 hn)
        simpa using hlt.ne
      have hall : (List.range size).filter
          ((fun n ↦ n / size == part) ∘ (part * size + ·)) = List.range size := by
        apply List.filter_eq_self.2
        intro k hk
        simp [hlast k hk]
      rw [hnone, hall, List.length_nil, List.length_range, Nat.zero_add]

theorem natCast_mul_ediv (count : Nat) {size : Nat} (hsize : 0 < size) :
    ((count * size : Nat) : Int) / size = count := by
  rw [Nat.cast_mul]
  exact Int.mul_ediv_cancel _ (by omega)

namespace Grid

/-! ## Boxes by their rows and columns -/

section Natural

variable {perCol perRow boxRows boxCols : Nat}

theorem boxOf_div_mod {row col : Nat} (hcol : col < perRow * boxCols) :
    boxOf perRow boxRows boxCols row col / perRow = row / boxRows ∧
      boxOf perRow boxRows boxCols row col % perRow = col / boxCols := by
  have hlt : col / boxCols < perRow := Nat.div_lt_of_lt_mul (by rwa [Nat.mul_comm])
  have hpos : 0 < perRow := Nat.zero_lt_of_lt hlt
  have hbox : boxOf perRow boxRows boxCols row col = perRow * (row / boxRows) + col / boxCols := by
    rw [boxOf, Nat.mul_comm]
  constructor
  · calc
      _ = row / boxRows + col / boxCols / perRow := by rw [hbox, Nat.mul_add_div hpos]
      _ = row / boxRows := by rw [Nat.div_eq_of_lt hlt, Nat.add_zero]
  · calc
      _ = col / boxCols % perRow := by rw [hbox, Nat.mul_add_mod]
      _ = col / boxCols := Nat.mod_eq_of_lt hlt

/-- A box is known from its row of boxes and its column of boxes. -/
theorem boxOf_eq_iff {row col id : Nat} (hcol : col < perRow * boxCols) :
    boxOf perRow boxRows boxCols row col = id ↔
      row / boxRows = id / perRow ∧ col / boxCols = id % perRow := by
  obtain ⟨hdiv, hmod⟩ := @boxOf_div_mod perRow boxRows boxCols row col hcol
  constructor
  · rintro rfl
    exact ⟨hdiv.symm, hmod.symm⟩
  · rintro ⟨hrow, hbox⟩
    rw [boxOf, hrow, hbox, Nat.div_add_mod']

structure IsTiled (perCol perRow boxRows boxCols : Nat) (grid : Grid) : Prop where
  rows : grid.rows = perCol * boxRows
  cols : grid.cols = perRow * boxCols
  regions : grid.regions.isSome = true
  region : ∀ cell, grid.contains cell = true →
    grid.regionOf? cell = some ((boxOf perRow boxRows boxCols cell.row cell.col : Nat) : Int)

theorem exists_boxes (hperCol : 0 < perCol) (hperRow : 0 < perRow) (hboxRows : 0 < boxRows)
    (hboxCols : 0 < boxCols) : ∃ grid,
      boxes (perCol * boxRows : Nat) (perRow * boxCols : Nat) boxRows boxCols = .ok grid ∧
        IsTiled perCol perRow boxRows boxCols grid := by
  let ids := (List.range (perCol * boxRows)).map fun row ↦ (List.range (perRow * boxCols)).map
    fun col ↦ Int.ofNat (boxOf perRow boxRows boxCols row col)
  have hshape : HasShape (perCol * boxRows) (perRow * boxCols) ids := by simp [HasShape, ids]
  have hdense : IsDense ids.flatten := isDense_boxes perCol perRow hboxRows hboxCols
  refine ⟨⟨perCol * boxRows, perRow * boxCols, some ⟨ids, hshape, hdense⟩,
    Nat.mul_pos hperCol hboxRows, Nat.mul_pos hperRow hboxCols⟩, ?_, rfl, rfl, rfl, ?_⟩
  · unfold boxes
    rw [if_neg (by simp; omega), natCast_mul_ediv perRow hboxCols]
    exact (ofMatrix_of_hasShape (Nat.mul_pos hperCol hboxRows) (Nat.mul_pos hperRow hboxCols)
      hshape).trans (dif_pos hdense)
  · intro cell hcell
    obtain ⟨hrow, hcol⟩ := contains_iff.1 hcell
    simp [regionOf?, ids, hrow, hcol]

namespace IsTiled

variable {grid : Grid} (h : IsTiled perCol perRow boxRows boxCols grid)
include h

theorem regionOf?_eq_iff {cell other : Cell} (hcell : grid.contains cell = true)
    (hother : grid.contains other = true) : grid.regionOf? cell = grid.regionOf? other ↔
      cell.row / boxRows = other.row / boxRows ∧ cell.col / boxCols = other.col / boxCols := by
  have hlt {cell : Cell} (hcell : grid.contains cell = true) : cell.col < perRow * boxCols :=
    h.cols ▸ (contains_iff.1 hcell).2
  obtain ⟨hdiv, hmod⟩ := @boxOf_div_mod perRow boxRows boxCols other.row other.col (hlt hother)
  rw [h.region cell hcell, h.region other hother, Option.some.injEq, Nat.cast_inj,
    boxOf_eq_iff (hlt hcell), hdiv, hmod]

theorem regionCount_eq (hboxRows : 0 < boxRows) (hboxCols : 0 < boxCols) :
    grid.regionCount = perCol * perRow := by
  have hids (id : Nat) : id < grid.regionCount ↔ id < perCol * perRow := by
    have hregion := @exists_regionOf?_eq_iff grid h.regions id
    rw [← exists_boxOf_iff hboxRows hboxCols]
    constructor
    · intro hid
      obtain ⟨cell, hcell⟩ := hregion.2 ⟨Int.natCast_nonneg id, Int.ofNat_lt.2 hid⟩
      have hcontains := contains_of_regionOf? hcell
      rw [h.region cell hcontains, Option.some.injEq, Nat.cast_inj] at hcell
      obtain ⟨hrow, hcol⟩ := contains_iff.1 hcontains
      exact ⟨cell.row, h.rows ▸ hrow, cell.col, h.cols ▸ hcol, hcell⟩
    · rintro ⟨row, hrow, col, hcol, rfl⟩
      have hcontains : grid.contains ⟨row, col⟩ = true :=
        contains_iff.2 ⟨h.rows ▸ hrow, h.cols ▸ hcol⟩
      exact Int.ofNat_lt.1 (hregion.1 ⟨⟨row, col⟩, h.region _ hcontains⟩).2
  have hcount := hids grid.regionCount
  have hboxes := hids (perCol * perRow)
  omega

theorem length_regionCells {id : Nat} (hid : id < perCol * perRow) :
    (grid.regionCells id).length = boxRows * boxCols := by
  have hperRow : 0 < perRow := Nat.pos_of_mul_pos_left (Nat.zero_lt_of_lt hid)
  have hrow : id / perRow < perCol := Nat.div_lt_of_lt_mul (by rwa [Nat.mul_comm])
  have hfilter : grid.regionCells id = (rectangle (perCol * boxRows) (perRow * boxCols)).filter
      fun cell ↦ cell.row / boxRows == id / perRow && cell.col / boxCols == id % perRow := by
    rw [regionCells, cells, h.rows, h.cols]
    apply List.filter_congr
    intro cell hcell
    obtain ⟨hrows, hcols⟩ := mem_rectangle.1 hcell
    have hcontains : grid.contains cell = true := contains_iff.2 ⟨h.rows ▸ hrows, h.cols ▸ hcols⟩
    rw [h.region cell hcontains, Bool.eq_iff_iff, beq_iff_eq, Option.some.injEq, Nat.cast_inj,
      boxOf_eq_iff hcols, Bool.and_eq_true, beq_iff_eq, beq_iff_eq]
  calc
    _ = ((List.range (perCol * boxRows)).filter (· / boxRows == id / perRow)).length *
        ((List.range (perRow * boxCols)).filter (· / boxCols == id % perRow)).length := by
      rw [hfilter]
      exact length_filter_rectangle (· / boxRows == id / perRow) (· / boxCols == id % perRow) _ _
    _ = boxRows * boxCols := by
      rw [length_filter_div hrow, length_filter_div (Nat.mod_lt id hperRow)]

end IsTiled

end Natural

/-! ## Boxes of any size -/

section Integers

variable {rows cols boxRows boxCols : Int}

/-- Whether boxes of one size tile a rectangle of another one. -/
def Tiles (rows cols boxRows boxCols : Int) : Prop :=
  0 < rows ∧ 0 < cols ∧ 0 < boxRows ∧ 0 < boxCols ∧ boxRows ∣ rows ∧ boxCols ∣ cols

instance : Decidable (Tiles rows cols boxRows boxCols) := inferInstanceAs (Decidable (_ ∧ _))

theorem exists_multiple_of_dvd {side boxSide : Int} (hside : 0 < side) (hbox : 0 < boxSide)
    (h : boxSide ∣ side) :
    ∃ count size : Nat, 0 < count ∧ 0 < size ∧ side = (count * size : Nat) ∧ boxSide = size := by
  obtain ⟨count, hcount, -⟩ := exists_multiple (by omega) (by omega) (Int.emod_eq_zero_of_dvd h)
  have hpos : 0 < count := by
    apply Nat.pos_of_ne_zero
    rintro rfl
    simp at hcount
    omega
  exact ⟨count, boxSide.toNat, hpos, by omega, by rw [Nat.cast_mul, hcount], by omega⟩

theorem tiles_of_boxes {grid : Grid} (h : boxes rows cols boxRows boxCols = .ok grid) :
    Tiles rows cols boxRows boxCols := by
  unfold boxes at h
  split at h
  next => cases h
  next htiles =>
    simp only [not_or, not_lt, ne_eq, not_not] at htiles
    obtain ⟨hboxRows, hboxCols, hrows, hcols⟩ := htiles
    obtain ⟨hgridRows, hgridCols⟩ := ofMatrix_eq_ok h
    have hposRows := grid.rows_pos
    have hposCols := grid.cols_pos
    exact ⟨by omega, by omega, by omega, by omega, Int.dvd_of_emod_eq_zero hrows,
      Int.dvd_of_emod_eq_zero hcols⟩

/-- What the refusal of boxes is in the end. -/
theorem settled_boxes {e : Error} (h : boxes rows cols boxRows boxCols = .error e) :
    e.settled.category = .configuration ∨
      e.settled = .wrongValue ∧
        ∃ n ∈ [rows, cols, boxRows, boxCols], Text.isWritable n = false := by
  obtain rfl | rfl | rfl := boxes_eq_error h
  · obtain hcategory | ⟨hsettled, hwordable⟩ := Error.settled_of_category
      (e := .untileable (.int rows) (.int cols) (.int boxRows) (.int boxCols)) rfl
    · exact .inl hcategory
    · have hall : [rows, cols, boxRows, boxCols].all Text.isWritable = false := by
        simpa only [Error.isWordable, List.all_cons, List.all_nil, Value.isWritable] using hwordable
      rw [List.all_eq_false] at hall
      exact .inr ⟨hsettled, by simpa only [Bool.not_eq_true] using hall⟩
  · exact .inl rfl
  · exact .inl rfl

/-- A tiling by boxes of any size is one by boxes that can be counted. -/
theorem Tiles.exists_isTiled (h : Tiles rows cols boxRows boxCols) :
    ∃ (perCol perRow height width : Nat) (grid : Grid),
      boxes rows cols boxRows boxCols = .ok grid ∧ IsTiled perCol perRow height width grid ∧
        0 < height ∧ 0 < width ∧ boxRows = height ∧ boxCols = width ∧
        rows = (perCol * height : Nat) ∧ cols = (perRow * width : Nat) := by
  obtain ⟨hrows, hcols, hboxRows, hboxCols, hdown, hacross⟩ := h
  obtain ⟨perCol, height, hperCol, hheight, rfl, rfl⟩ :=
    exists_multiple_of_dvd hrows hboxRows hdown
  obtain ⟨perRow, width, hperRow, hwidth, rfl, rfl⟩ :=
    exists_multiple_of_dvd hcols hboxCols hacross
  obtain ⟨grid, hgrid, htiled⟩ := exists_boxes hperCol hperRow hheight hwidth
  exact ⟨perCol, perRow, height, width, grid, hgrid, htiled, hheight, hwidth, rfl, rfl, rfl, rfl⟩

/-- Boxes make a grid just if they tile its size. The regions are then the boxes, row by row: cells
have the same region if they have the same row of boxes and the same column of boxes, and each
region has as many cells as a box. A size that is not tiled is refused; a refusal that would have to
name a number too long to be written is another fault. -/
theorem boxes_tile (rows cols boxRows boxCols : Int) :
    ((∃ grid, boxes rows cols boxRows boxCols = .ok grid) ↔ Tiles rows cols boxRows boxCols) ∧
    (∀ e, boxes rows cols boxRows boxCols = .error e → e.settled.category = .configuration ∨
      e.settled = .wrongValue ∧
        ∃ n ∈ [rows, cols, boxRows, boxCols], Text.isWritable n = false) ∧
    ∀ grid, boxes rows cols boxRows boxCols = .ok grid →
      (grid.rows : Int) = rows ∧ (grid.cols : Int) = cols ∧
      (∀ cell, grid.contains cell = true → grid.regionOf? cell =
        some (cell.row / boxRows * (cols / boxCols) + cell.col / boxCols)) ∧
      (∀ cell other, grid.contains cell = true → grid.contains other = true →
        (grid.regionOf? cell = grid.regionOf? other ↔
          (cell.row : Int) / boxRows = other.row / boxRows ∧
            (cell.col : Int) / boxCols = other.col / boxCols)) ∧
      (grid.regionCount : Int) = rows / boxRows * (cols / boxCols) ∧
      ∀ id < grid.regionCount, ((grid.regionCells id).length : Int) = boxRows * boxCols := by
  refine ⟨⟨fun ⟨grid, hgrid⟩ ↦ tiles_of_boxes hgrid, fun htiles ↦ ?_⟩, fun e ↦ settled_boxes,
    fun grid hgrid ↦ ?_⟩
  · obtain ⟨-, -, -, -, grid, hgrid, -⟩ := htiles.exists_isTiled
    exact ⟨grid, hgrid⟩
  · obtain ⟨perCol, perRow, height, width, tiled, heq, h, hheight, hwidth, rfl, rfl, rfl, rfl⟩ :=
      (tiles_of_boxes hgrid).exists_isTiled
    obtain rfl := Except.ok.inj (hgrid.symm.trans heq)
    have hdown := natCast_mul_ediv perCol hheight
    have hacross := natCast_mul_ediv perRow hwidth
    have hcount := h.regionCount_eq hheight hwidth
    refine ⟨congrArg _ h.rows, congrArg _ h.cols, fun cell hcell ↦ ?_, fun cell other hcell hother ↦
      ?_, ?_, fun id hid ↦ ?_⟩
    · rw [h.region cell hcell, hacross, boxOf]
      push_cast
      rfl
    · rw [h.regionOf?_eq_iff hcell hother]
      norm_cast
    · rw [hcount, hdown, hacross, Nat.cast_mul]
    · rw [h.length_regionCells (hcount ▸ hid), Nat.cast_mul]

end Integers

/-- A refusal that would have to name a number of 4301 digits. -/
theorem boxes_overlong : ∃ e, boxes Text.leastUnwritable 1 0 1 = .error e ∧
    e.settled = .wrongValue ∧ e.settled.category ≠ .configuration := by
  have hlong : Text.isWritable Text.leastUnwritable = false := by
    rw [Text.isWritable, Int.natAbs_natCast]
    exact decide_eq_false (Nat.lt_irrefl _)
  have hwordable : (Error.untileable (.int Text.leastUnwritable) (.int 1) (.int 0)
      (.int 1)).isWordable = false := by
    simp only [Error.isWordable, List.all_cons, Value.isWritable, hlong, Bool.false_and]
  have hsettled := Error.settled_of_not_isWordable hwordable
  refine ⟨_, if_pos (.inl Int.zero_lt_one), hsettled, ?_⟩
  rw [hsettled]
  decide

/-- Two rows and two columns of boxes that are wider than they are high. -/
theorem boxes_wide : ∃ grid, boxes 4 6 2 3 = .ok grid ∧ grid.regionCount = 4 ∧
    grid.regionOf? ⟨2, 3⟩ = some 3 ∧ grid.regionOf? ⟨2, 3⟩ = grid.regionOf? ⟨3, 5⟩ ∧
    (grid.regionCells 3).length = 6 := by
  obtain ⟨grid, hgrid⟩ := (boxes_tile 4 6 2 3).1.2 (by decide)
  obtain ⟨hrows, hcols, hregion, hsame, hcount, hsize⟩ := (boxes_tile 4 6 2 3).2.2 grid hgrid
  have hcontains {row col : Nat} (hrow : row < 4) (hcol : col < 6) :
      grid.contains ⟨row, col⟩ = true := contains_iff.2 ⟨by dsimp only; omega, by dsimp only; omega⟩
  have hfour : grid.regionCount = 4 := by
    have hboxes : (4 : Int) / 2 * (6 / 3) = 4 := by decide
    omega
  refine ⟨grid, hgrid, hfour, ?_, ?_, ?_⟩
  · exact hregion ⟨2, 3⟩ (hcontains (by decide) (by decide))
  · exact (hsame _ _ (hcontains (by decide) (by decide)) (hcontains (by decide) (by decide))).2
      (by decide)
  · have hsix := hsize 3 (by omega)
    omega

end Grid

end GridPuzzle
