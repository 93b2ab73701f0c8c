import GridPuzzle.Grid.Reader
import GridPuzzle.Proofs.Ordered

/-!
# Boxes

Boxes that tile a grid are numbered without gaps: every number below that of all boxes is the box of
some cell, and no cell has another one. So whenever boxes tile a size that a grid can have, there is
a grid with these boxes.
-/

namespace GridPuzzle.Grid

/-- The boxes of the cells are those below the number of boxes. -/
theorem exists_boxOf_iff {boxRows boxCols perCol perRow id : Nat} (hrows : 0 < boxRows)
    (hcols : 0 < boxCols) :
    (∃ row < perCol * boxRows, ∃ col < perRow * boxCols,
      boxOf perRow boxRows boxCols row col = id) ↔ id < perCol * perRow := by
  constructor
  · rintro ⟨row, hrow, col, hcol, rfl⟩
    have hrow' : row / boxRows < perCol := Nat.div_lt_of_lt_mul (by rwa [Nat.mul_comm])
    have hcol' : col / boxCols < perRow := Nat.div_lt_of_lt_mul (by rwa [Nat.mul_comm])
    calc boxOf perRow boxRows boxCols row col
        < row / boxRows * perRow + perRow := Nat.add_lt_add_left hcol' _
      _ = (row / boxRows + 1) * perRow := (Nat.succ_mul _ _).symm
      _ ≤ perCol * perRow := Nat.mul_le_mul_right perRow hrow'
  · intro hid
    have hperRow : 0 < perRow := Nat.pos_of_mul_pos_left (Nat.zero_lt_of_lt hid)
    have hrow' : id / perRow < perCol := Nat.div_lt_of_lt_mul (by rwa [Nat.mul_comm])
    -- the first cell of the box
    refine ⟨id / perRow * boxRows, Nat.mul_lt_mul_of_pos_right hrow' hrows,
      id % perRow * boxCols, Nat.mul_lt_mul_of_pos_right (Nat.mod_lt id hperRow) hcols, ?_⟩
    rw [boxOf, Nat.mul_div_cancel _ hrows, Nat.mul_div_cancel _ hcols, Nat.div_add_mod']

theorem isDense_boxes (perCol perRow : Nat) {boxRows boxCols : Nat} (hrows : 0 < boxRows)
    (hcols : 0 < boxCols) :
    IsDense ((List.range (perCol * boxRows)).map fun row ↦
      (List.range (perRow * boxCols)).map fun col ↦
        Int.ofNat (boxOf perRow boxRows boxCols row col)).flatten := by
  refine isDense_of_mem (n := perCol * perRow) fun id ↦ ?_
  simp only [List.mem_flatten, List.mem_map, List.mem_range, exists_exists_and_eq_and]
  constructor
  · rintro ⟨row, hrow, col, hcol, rfl⟩
    have hlt := (exists_boxOf_iff hrows hcols).1 ⟨row, hrow, col, hcol, rfl⟩
    exact ⟨Int.natCast_nonneg _, Int.ofNat_lt.2 hlt⟩
  · rintro ⟨hnonneg, hlt⟩
    have hlt : id.toNat < perCol * perRow := by omega
    obtain ⟨row, hrow, col, hcol, heq⟩ := (exists_boxOf_iff hrows hcols).2 hlt
    exact ⟨row, hrow, col, hcol, by rw [heq]; exact Int.toNat_of_nonneg hnonneg⟩

/-- The number of times that a positive side goes into a side that is a multiple of it. -/
theorem exists_multiple {side boxSide : Int} (hbox : 1 ≤ boxSide) (hside : 0 < side.toNat)
    (h : side % boxSide = 0) :
    ∃ n : Nat, side = n * boxSide.toNat ∧ (side / boxSide).toNat = n := by
  obtain ⟨k, hk⟩ := Int.dvd_of_emod_eq_zero h
  have hdiv : side / boxSide = k := by
    rw [hk, Int.mul_ediv_cancel_left k (by omega)]
  have hpos : 0 < k := by
    rw [← hdiv]
    exact Int.ediv_pos_of_pos_of_dvd (by omega) (by omega) (Int.dvd_of_emod_eq_zero h)
  refine ⟨k.toNat, ?_, by rw [hdiv]⟩
  rw [Int.toNat_of_nonneg hpos.le, Int.toNat_of_nonneg (by omega), hk, mul_comm]

theorem ofMatrix_eq_ok {rows cols : Int} {matrix : Option (List (List Int))} {grid : Grid}
    (h : ofMatrix rows cols matrix = .ok grid) :
    grid.rows = rows.toNat ∧ grid.cols = cols.toNat := by
  unfold ofMatrix at h
  split at h
  · split at h
    · cases matrix with
      | none =>
        obtain rfl := Except.ok.inj h
        exact ⟨rfl, rfl⟩
      | some ids =>
        dsimp only at h
        split at h
        · split at h
          · obtain rfl := Except.ok.inj h
            exact ⟨rfl, rfl⟩
          · cases h
        · cases h
    · cases h
  · cases h

/-- Boxes that tile a size are refused only where no grid has this size. -/
theorem boxes_eq_error {rows cols boxRows boxCols : Int} {e : Error}
    (h : boxes rows cols boxRows boxCols = .error e) :
    e = .untileable (.int rows) (.int cols) (.int boxRows) (.int boxCols) ∨ e = .gridRows ∨
      e = .gridCols := by
  unfold boxes at h
  split at h
  · exact .inl (Except.error.inj h).symm
  next htiles =>
    simp only [not_or, not_lt, ne_eq, not_not] at htiles
    obtain ⟨hboxRows, hboxCols, hrows, hcols⟩ := htiles
    unfold ofMatrix at h
    split at h
    next hposRows =>
      split at h
      next hposCols =>
        obtain ⟨perCol, hdown, -⟩ := exists_multiple hboxRows hposRows hrows
        obtain ⟨perRow, hacross, hperRow⟩ := exists_multiple hboxCols hposCols hcols
        have hdown : rows.toNat = perCol * boxRows.toNat := by omega
        have hacross : cols.toNat = perRow * boxCols.toNat := by omega
        have hdense := isDense_boxes perCol perRow (show 0 < boxRows.toNat by omega)
          (show 0 < boxCols.toNat by omega)
        rw [← hdown, ← hacross] at hdense
        rw [hperRow] at h
        dsimp only at h
        rw [dif_pos (by simp [HasShape]), dif_pos hdense] at h
        cases h
      next => exact .inr (.inr (Except.error.inj h).symm)
    next => exact .inr (.inl (Except.error.inj h).symm)

end GridPuzzle.Grid
