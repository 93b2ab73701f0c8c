import GridPuzzle.Proofs.Fallible
import GridPuzzle.Proofs.Grid.Region

/-!
# Filling a map of open cells

Cells are put into an open map one after the other. What a map holds after each step is the cells
put into it so far, each with its region, so the steps go through just if the cells lie in the grid
and no cell comes twice.
-/

namespace GridPuzzle.Grid

open Fallible

/-- A map of a size that holds given cells, each in a region, and no others. -/
structure OpenMap.Holds (rows cols : Nat) (map : OpenMap) (placed : List (Cell × Nat)) : Prop where
  shape : HasShape rows cols map
  get : ∀ cell id, map.get? cell = some id ↔ (cell, id) ∈ placed

namespace OpenMap

variable {rows cols : Nat} {map : OpenMap}

/-! ## One cell -/

theorem get?_empty (rows cols : Int) (cell : Cell) : (empty rows cols).get? cell = none := by
  unfold get? empty
  rw [List.getElem?_replicate]
  split
  · rw [Option.bind_some, List.getElem?_replicate]
    split <;> rfl
  · rfl

theorem Holds.empty (rows cols : Nat) : Holds rows cols (empty rows cols) [] where
  shape := by simp [HasShape, OpenMap.empty]
  get := by simp [get?_empty]

theorem hasShape_set (h : HasShape rows cols map) (cell : Cell) (id : Nat) :
    HasShape rows cols (map.set cell id) := by
  refine ⟨by rw [set, List.length_modify, h.1], fun row hrow ↦ ?_⟩
  obtain ⟨i, hi, rfl⟩ := List.getElem_of_mem hrow
  unfold set at hi ⊢
  rw [List.length_modify] at hi
  rw [List.getElem_modify]
  split
  · rw [List.length_set]
    exact h.2 _ (List.getElem_mem hi)
  · exact h.2 _ (List.getElem_mem hi)

/-- A cell that is put into a map has its region, and all others are as before. -/
theorem get?_set (h : HasShape rows cols map) {cell : Cell} (hrow : cell.row < rows)
    (hcol : cell.col < cols) (id : Nat) (other : Cell) :
    (map.set cell id).get? other = if other = cell then some id else map.get? other := by
  have hlength : cell.row < map.length := h.1.symm ▸ hrow
  have hwidth : cell.col < map[cell.row].length := by
    rw [h.2 _ (List.getElem_mem hlength)]
    exact hcol
  obtain ⟨row, col⟩ := cell
  obtain ⟨otherRow, otherCol⟩ := other
  dsimp only at hlength hwidth
  unfold get? set
  rw [List.getElem?_modify]
  by_cases hsame : row = otherRow
  · subst hsame
    simp only [List.getElem?_eq_getElem hlength, if_true, Option.map_eq_map, Option.map_some,
      Option.bind_some, List.getElem?_set, hwidth, Cell.mk.injEq, true_and]
    by_cases hcolumn : col = otherCol
    · simp [hcolumn]
    · simp [hcolumn, Ne.symm hcolumn]
  · simp [hsame, Ne.symm hsame]

theorem Holds.isSome_get?_iff {placed : List (Cell × Nat)} (h : Holds rows cols map placed)
    (cell : Cell) : (map.get? cell).isSome = true ↔ cell ∈ placed.map Prod.fst := by
  rw [Option.isSome_iff_exists, List.mem_map]
  simp only [h.get, Prod.exists, exists_and_right, exists_eq_right]

theorem Holds.set {placed : List (Cell × Nat)} (h : Holds rows cols map placed) {cell : Cell}
    (hrow : cell.row < rows) (hcol : cell.col < cols) (hopen : cell ∉ placed.map Prod.fst)
    (id : Nat) : Holds rows cols (map.set cell id) (placed ++ [(cell, id)]) where
  shape := hasShape_set h.shape cell id
  get := by
    intro other region
    rw [get?_set h.shape hrow hcol, List.mem_append, List.mem_singleton, Prod.mk.injEq]
    by_cases hcell : other = cell
    · subst hcell
      have hnot : (other, region) ∉ placed := fun hmem ↦
        hopen (List.mem_map_of_mem (f := Prod.fst) hmem)
      rw [if_pos rfl, Option.some.injEq]
      simp only [hnot, false_or, true_and, eq_comm]
    · rw [if_neg hcell, h.get]
      simp only [hcell, false_and, or_false]

/-! ## Cells one after the other -/

/-- Cells that lie in a rectangle and are all distinct. -/
def Fits (rows cols : Nat) (cells : List Cell) : Prop :=
  cells.Nodup ∧ ∀ cell ∈ cells, cell.row < rows ∧ cell.col < cols

theorem place_eq_ok_iff {placed : List (Cell × Nat)} (h : Holds rows cols map placed)
    {cell : Cell} {id : Nat} {next : OpenMap} : map.place rows cols id cell = .ok next ↔
      (cell.row < rows ∧ cell.col < cols) ∧ cell ∉ placed.map Prod.fst ∧
        next = map.set cell id := by
  unfold place
  rw [← h.isSome_get?_iff]
  by_cases hinside : cell.row < rows ∧ cell.col < cols
  · rw [if_neg (by omega)]
    by_cases hshared : (map.get? cell).isSome = true
    · simp [hshared]
    · simp [hshared, hinside, eq_comm]
  · rw [if_pos (by omega)]
    simp [hinside]

/-- A cell that cannot be put into a map lies outside of it or is in it already. -/
theorem place_eq_error {rows cols : Int} {cell : Cell} {id : Nat} {e : Error}
    (h : map.place rows cols id cell = .error e) :
    e = .regionCellOutside cell ∨ e = .regionCellShared cell := by
  unfold place at h
  split at h
  next => exact .inl (Except.error.inj h).symm
  next =>
    split at h
    next => exact .inr (Except.error.inj h).symm
    next => cases h

/-- Cells with their regions that are put into a map. -/
def placeEach (rows cols : Int) (map : OpenMap) (placements : List (Cell × Nat)) :
    Except Error OpenMap :=
  placements.foldlM (fun map placement ↦ map.place rows cols placement.2 placement.1) map

variable {placed rest : List (Cell × Nat)}

theorem Holds.of_placeEach (h : Holds rows cols map placed)
    (hfits : Fits rows cols (placed.map Prod.fst)) {next : OpenMap}
    (hnext : placeEach rows cols map rest = .ok next) :
    Holds rows cols next (placed ++ rest) ∧ Fits rows cols ((placed ++ rest).map Prod.fst) := by
  unfold placeEach at hnext
  -- each cell that is put into the map is one of those that it holds afterwards
  induction rest generalizing map placed with
  | nil =>
    obtain rfl := Except.ok.inj hnext
    rw [List.append_nil]
    exact ⟨h, hfits⟩
  | cons placement rest ih =>
    rw [List.foldlM_cons] at hnext
    obtain ⟨mid, hmid, hnext⟩ := bind_eq_ok.1 hnext
    obtain ⟨hinside, hopen, rfl⟩ := (place_eq_ok_iff h).1 hmid
    have hset := h.set hinside.1 hinside.2 hopen placement.2
    have hmore : Fits rows cols ((placed ++ [placement]).map Prod.fst) := by
      rw [List.map_append, List.map_singleton]
      refine ⟨List.nodup_append_comm.1 (List.nodup_cons.2 ⟨hopen, hfits.1⟩), ?_⟩
      exact List.forall_mem_append.2 ⟨hfits.2, List.forall_mem_singleton.2 hinside⟩
    rw [List.append_cons]
    exact ih hset hmore hnext

theorem Holds.exists_placeEach (h : Holds rows cols map placed)
    (hfits : Fits rows cols ((placed ++ rest).map Prod.fst)) :
    ∃ next, placeEach rows cols map rest = .ok next := by
  unfold placeEach
  induction rest generalizing map placed with
  | nil => exact ⟨map, rfl⟩
  | cons placement rest ih =>
    have hinside := hfits.2 placement.1 (by simp)
    have hopen : placement.1 ∉ placed.map Prod.fst := by
      intro hmem
      have hnodup := hfits.1
      rw [List.map_append, List.map_cons] at hnodup
      exact (List.nodup_append.1 hnodup).2.2 _ hmem _ List.mem_cons_self rfl
    have hplace : map.place rows cols placement.2 placement.1 =
        .ok (map.set placement.1 placement.2) := (place_eq_ok_iff h).2 ⟨hinside, hopen, rfl⟩
    have hset := h.set hinside.1 hinside.2 hopen placement.2
    rw [List.append_cons] at hfits
    rw [List.foldlM_cons, hplace, ok_bind]
    exact ih hset hfits

/-- What keeps cells from being put into a map is one of them. -/
theorem faultsIn_placeEach (rows cols : Int) (map : OpenMap) (placements : List (Cell × Nat)) :
    FaultsIn (fun e ↦ ∃ cell ∈ placements.map Prod.fst,
      e = .regionCellOutside cell ∨ e = .regionCellShared cell)
      (placeEach rows cols map placements) := by
  refine .foldlM (fun current placement hmem e he ↦ ?_) map
  exact ⟨placement.1, List.mem_map_of_mem hmem, place_eq_error he⟩

/-! ## Regions one after the other -/

/-- The cells of regions with the numbers of the regions, the first region being number `id`. -/
def placements (id : Nat) : List (List Cell) → List (Cell × Nat)
  | [] => []
  | region :: rest => region.map (·, id) ++ placements (id + 1) rest

theorem map_fst_placements (id : Nat) (regions : List (List Cell)) :
    (placements id regions).map Prod.fst = regions.flatten := by
  induction regions generalizing id with
  | nil => rfl
  | cons region rest ih => simp [placements, ih, Function.comp_def]

/-- The number of a region is its place in the list. -/
theorem mem_placements {id region : Nat} {regions : List (List Cell)} {cell : Cell} :
    (cell, region) ∈ placements id regions ↔
      ∃ index, region = id + index ∧ ∃ cells, regions[index]? = some cells ∧ cell ∈ cells := by
  induction regions generalizing id with
  | nil => simp [placements]
  | cons cells rest ih =>
    rw [placements, List.mem_append, ih]
    constructor
    · rintro (hmem | ⟨index, rfl, more, hmore, hcell⟩)
      · obtain ⟨other, hother, heq⟩ := List.mem_map.1 hmem
        obtain ⟨rfl, rfl⟩ := Prod.mk.inj heq
        exact ⟨0, rfl, cells, rfl, hother⟩
      · exact ⟨index + 1, by omega, more, by simpa using hmore, hcell⟩
    · rintro ⟨index, rfl, more, hmore, hcell⟩
      cases index with
      | zero =>
        obtain rfl : cells = more := by simpa using hmore
        exact .inl (List.mem_map.2 ⟨cell, hcell, rfl⟩)
      | succ index => exact .inr ⟨index, by omega, more, by simpa using hmore, hcell⟩

theorem foldlM_place_eq_placeEach {κ : Type} {toCell : κ → Except Error Cell} {raws : List κ}
    {cells : List Cell} (h : List.Forall₂ (fun raw cell ↦ toCell raw = .ok cell) raws cells)
    (rows cols : Int) (id : Nat) (map : OpenMap) :
    raws.foldlM (fun map raw ↦ (toCell raw).bind (map.place rows cols id)) map =
      placeEach rows cols map (cells.map (·, id)) := by
  unfold placeEach
  induction h generalizing map with
  | nil => rfl
  | cons hcell _ ih =>
    rw [List.foldlM_cons, hcell, List.map_cons, List.foldlM_cons]
    exact bind_congr ih

/-- Regions are put into a map by putting each of their cells there. -/
theorem placeAll_eq_placeEach {ρ κ : Type} {regionCells : ρ → Except Error (List κ)}
    {toCell : κ → Except Error Cell} {items : List ρ} {regions : List (List Cell)}
    (h : List.Forall₂ (fun item cells ↦ ∃ raws, regionCells item = .ok raws ∧
      List.Forall₂ (fun raw cell ↦ toCell raw = .ok cell) raws cells) items regions)
    (rows cols : Int) (id : Nat) (map : OpenMap) :
    placeAll regionCells toCell rows cols id map items =
      placeEach rows cols map (placements id regions) := by
  induction h generalizing id map with
  | nil => rfl
  | cons hitem _ ih =>
    obtain ⟨raws, hraws, hcells⟩ := hitem
    rw [placeAll, hraws, ok_bind, foldlM_place_eq_placeEach hcells, placements]
    unfold placeEach
    rw [List.foldlM_append]
    exact bind_congr fun next ↦ ih (id + 1) next

end OpenMap

end GridPuzzle.Grid
