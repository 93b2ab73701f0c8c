import GridPuzzle.Grid.Reader
import GridPuzzle.Proofs.Grid.OpenMap
import GridPuzzle.Proofs.Value

/-!
# Partitions given by lists of cells

Lists of cells make a grid just if they are a partition of its cells: each cell of the grid is in
one of them and is there once, no other cell is in them, and no list is empty unless all behind it
are. The region of a cell is then the place of its list, and a grid is made again from the cells of
its regions, in whatever order they are listed.
-/

namespace GridPuzzle.Grid

open Fallible
open OpenMap (Holds Fits placements placeEach)

/-- No empty list stands before one that is not empty. -/
def IsGapless (regions : List (List Cell)) : Prop :=
  regions.Pairwise fun earlier later ↦ later ≠ [] → earlier ≠ []

/-- Lists in which every cell of a rectangle occurs exactly once and no other cell does. -/
structure IsPartition (rows cols : Nat) (regions : List (List Cell)) : Prop where
  once : ∀ cell, regions.flatten.count cell = if cell.row < rows ∧ cell.col < cols then 1 else 0
  gapless : IsGapless regions

variable {rows cols : Nat} {regions : List (List Cell)}

/-! ## Partitions -/

/-- Cells that fit into a rectangle and fill it are those that occur once. -/
theorem count_eq_iff {cells : List Cell} :
    (∀ cell, cells.count cell = if cell.row < rows ∧ cell.col < cols then 1 else 0) ↔
      Fits rows cols cells ∧ ∀ cell : Cell, cell.row < rows ∧ cell.col < cols → cell ∈ cells := by
  constructor
  · intro h
    refine ⟨⟨List.nodup_iff_count_le_one.2 fun cell ↦ ?_, fun cell hcell ↦ ?_⟩, fun cell hcell ↦ ?_⟩
    · rw [h]
      split <;> omega
    · by_contra hnot
      have hcount := List.count_pos_iff.2 hcell
      rw [h, if_neg hnot] at hcount
      omega
    · apply List.count_pos_iff.1
      rw [h, if_pos hcell]
      exact Nat.one_pos
  · rintro ⟨⟨hnodup, hinside⟩, hfull⟩ cell
    split
    next hcell => exact List.count_eq_one_of_mem hnodup (hfull cell hcell)
    next hcell => exact List.count_eq_zero_of_not_mem fun hmem ↦ hcell (hinside cell hmem)

instance : Decidable (IsGapless regions) := inferInstanceAs (Decidable (List.Pairwise _ _))

instance : Decidable (Fits rows cols regions.flatten) := inferInstanceAs (Decidable (_ ∧ _))

instance : Decidable (IsPartition rows cols regions) :=
  decidable_of_iff ((Fits rows cols regions.flatten ∧
      ∀ cell ∈ rectangle rows cols, cell ∈ regions.flatten) ∧ IsGapless regions) <| by
    simp only [mem_rectangle, ← count_eq_iff]
    exact ⟨fun h ↦ ⟨h.1, h.2⟩, fun h ↦ ⟨h.once, h.gapless⟩⟩

/-- Lists of which only the last ones are empty. -/
theorem IsGapless.exists_front (h : IsGapless regions) : ∃ front count,
    regions = front ++ List.replicate count [] ∧ ∀ region ∈ front, region ≠ [] := by
  induction regions with
  | nil => exact ⟨[], 0, rfl, by simp⟩
  | cons region rest ih =>
    obtain ⟨hregion, hrest⟩ := List.pairwise_cons.1 h
    by_cases hempty : region = []
    · have hall : rest = List.replicate rest.length [] := by
        refine List.eq_replicate_iff.2 ⟨rfl, fun later hlater ↦ ?_⟩
        by_contra hne
        exact hregion later hlater hne hempty
      refine ⟨[], rest.length + 1, ?_, by simp⟩
      rw [List.nil_append, List.replicate_succ, ← hall, hempty]
    · obtain ⟨front, count, hfront, hnonempty⟩ := ih hrest
      exact ⟨region :: front, count, by rw [hfront, List.cons_append],
        List.forall_mem_cons.2 ⟨hempty, hnonempty⟩⟩

/-- The numbers of the lists that are not empty are dense just if the lists have no gap. -/
theorem isDense_iff_isGapless {ids : List Int} (h : ∀ id, id ∈ ids ↔ ∃ (index : Nat) (cells : _),
    id = index ∧ regions[index]? = some cells ∧ cells ≠ []) : IsDense ids ↔ IsGapless regions := by
  constructor
  · intro hdense
    refine List.pairwise_iff_getElem.2 fun i j hi hj hlt hlater ↦ ?_
    have hlast := (hdense.mem_iff j).1 ((h j).2 ⟨j, _, rfl, List.getElem?_eq_getElem hj, hlater⟩)
    have hmem : (i : Int) ∈ ids := (hdense.mem_iff i).2 (by omega)
    obtain ⟨index, cells, hindex, hcells, hne⟩ := (h i).1 hmem
    obtain rfl := Int.ofNat.inj hindex
    rw [List.getElem?_eq_getElem hi, Option.some.injEq] at hcells
    rwa [hcells]
  · intro hgapless
    obtain ⟨front, count, rfl, hfront⟩ := hgapless.exists_front
    refine isDense_of_mem (n := front.length) fun id ↦ (h id).trans ?_
    constructor
    · rintro ⟨index, cells, rfl, hcells, hne⟩
      refine ⟨Int.natCast_nonneg index, Int.ofNat_lt.2 ?_⟩
      by_contra hge
      rw [List.getElem?_append_right (by omega)] at hcells
      exact hne (List.eq_of_mem_replicate (List.mem_of_getElem? hcells))
    · rintro ⟨hnonneg, hlt⟩
      have hindex : id.toNat < front.length := by omega
      refine ⟨id.toNat, front[id.toNat], (Int.toNat_of_nonneg hnonneg).symm, ?_,
        hfront _ (List.getElem_mem hindex)⟩
      rw [List.getElem?_append_left hindex, List.getElem?_eq_getElem hindex]

/-! ## Maps with no open cell -/

theorem mapM_id_eq_some {α : Type} {row : List (Option α)} {ids : List α} :
    row.mapM id = some ids ↔ row = ids.map some := by
  rw [mapM_eq_some, ← List.forall₂_eq_eq_eq, List.forall₂_map_right_iff]
  rfl

variable {map : OpenMap} {placed : List (Cell × Nat)}

theorem get?_eq (map : OpenMap) (cell : Cell) : map.get? cell = (entryAt? map cell).join := rfl

/-- A map in which no cell is open is one of numbers. -/
theorem mapM_mapM_id_eq_some {nats : List (List Nat)} :
    map.mapM (·.mapM id) = some nats ↔ map = nats.map (·.map some) := by
  rw [mapM_eq_some, ← List.forall₂_eq_eq_eq, List.forall₂_map_right_iff]
  simp only [mapM_id_eq_some]

/-- A map that is not full has an open cell. -/
theorem exists_open (hshape : HasShape rows cols map) (h : map.mapM (·.mapM id) = none) :
    ∃ cell : Cell, (cell.row < rows ∧ cell.col < cols) ∧ map.get? cell = none := by
  obtain ⟨row, hrow, hnone⟩ := exists_mem_of_mapM_eq_none h
  obtain ⟨_, hentry, rfl⟩ := exists_mem_of_mapM_eq_none hnone
  obtain ⟨i, hi, rfl⟩ := List.getElem_of_mem hrow
  obtain ⟨j, hj, hopen⟩ := List.getElem_of_mem hentry
  refine ⟨⟨i, j⟩, ⟨hshape.1 ▸ hi, hshape.2 _ (List.getElem_mem hi) ▸ hj⟩, ?_⟩
  simp [OpenMap.get?, hi, hj, hopen]

/-- A map that holds some cells has an open cell just if it does not hold all. -/
theorem any_isNone_iff (h : Holds rows cols map placed) : map.any (·.any Option.isNone) = true ↔
    ∃ cell : Cell, (cell.row < rows ∧ cell.col < cols) ∧ cell ∉ placed.map Prod.fst := by
  have hopen : map.any (·.any Option.isNone) = true ↔ none ∈ map.flatten := by simp
  rw [hopen, mem_flatten_iff]
  refine exists_congr fun cell ↦ ?_
  rw [← h.shape.isSome_entryAt?_iff, ← h.isSome_get?_iff, get?_eq]
  cases entryAt? map cell <;> simp

/-- A map with an open cell makes no grid. -/
theorem ofOpenMap_of_any (rows cols : Int)
    (h : map.any (·.any Option.isNone) = true) :
    ofOpenMap rows cols map = .error .regionsIncomplete := by
  cases hmap : map.mapM (·.mapM id) with
  | none => rw [ofOpenMap, hmap]
  | some nats =>
    obtain rfl := mapM_mapM_id_eq_some.1 hmap
    simp at h

theorem ofOpenMap_of_not_full (h : Holds rows cols map placed) {cell : Cell}
    (hcell : cell.row < rows ∧ cell.col < cols) (hopen : cell ∉ placed.map Prod.fst) :
    ofOpenMap rows cols map = .error .regionsIncomplete :=
  ofOpenMap_of_any rows cols ((any_isNone_iff h).2 ⟨cell, hcell, hopen⟩)

/-- A map that is full makes a grid if its regions are dense. -/
theorem ofOpenMap_of_full (h : Holds rows cols map placed)
    (hfull : ∀ cell : Cell, cell.row < rows ∧ cell.col < cols → cell ∈ placed.map Prod.fst) :
    ∃ ids, HasShape rows cols ids ∧ ofOpenMap rows cols map = ofMatrix rows cols (some ids) ∧
      ∀ (cell : Cell) (id : Int), entryAt? ids cell = some id ↔
        ∃ region : Nat, id = region ∧ (cell, region) ∈ placed := by
  cases hmap : map.mapM (·.mapM id) with
  | none =>
    obtain ⟨cell, hcell, hopen⟩ := exists_open h.shape hmap
    have hsome := (h.isSome_get?_iff cell).2 (hfull cell hcell)
    rw [hopen] at hsome
    cases hsome
  | some nats =>
    obtain rfl := mapM_mapM_id_eq_some.1 hmap
    have hshape : HasShape rows cols nats := (hasShape_map some).1 h.shape
    refine ⟨nats.map (·.map Int.ofNat), (hasShape_map Int.ofNat).2 hshape,
      by rw [ofOpenMap, hmap], fun cell id ↦ ?_⟩
    rw [entryAt?_map, Option.map_eq_some_iff]
    have hget (region : Nat) : entryAt? nats cell = some region ↔ (cell, region) ∈ placed := by
      rw [← h.get, get?_eq, entryAt?_map]
      cases entryAt? nats cell <;> simp
    simp only [hget, and_comm, eq_comm, Int.ofNat_eq_natCast]

/-! ## What lists of cells make -/

/-- What lists of cells are refused for. -/
def Refuses (regions : List (List Cell)) (e : Error) : Prop :=
  (∃ cell ∈ regions.flatten, e = .regionCellOutside cell ∨ e = .regionCellShared cell) ∨
    e = .regionsIncomplete ∨
    ∃ ids, e = .regionIdsNotDense ids ∧
      ∀ id ∈ ids, ∃ index : Nat, id = index ∧ index < regions.length

/-- A grid of a size in which the region of a cell is the place of its list. -/
structure IsMadeOf (rows cols : Nat) (regions : List (List Cell)) (grid : Grid) : Prop where
  rows_eq : grid.rows = rows
  cols_eq : grid.cols = cols
  mapped : grid.regions.isSome = true
  region : ∀ (cell : Cell) (id : Int), grid.regionOf? cell = some id ↔
    ∃ (index : Nat) (cells : _), id = index ∧ regions[index]? = some cells ∧ cell ∈ cells

theorem ofCellLists_eq (rows cols : Int) (regions : List (List Cell)) :
    ofCellLists rows cols regions =
      placeEach rows cols (OpenMap.empty rows cols) (placements 0 regions) >>=
        ofOpenMap rows cols := by
  unfold ofCellLists
  rw [OpenMap.placeAll_eq_placeEach]
  refine List.forall₂_same.2 fun cells _ ↦ ⟨cells, rfl, ?_⟩
  exact List.forall₂_same.2 fun cell _ ↦ rfl

/-- The cells of lists that fit and fill the grid make it one if the lists have no gap. -/
theorem ofMatrix_of_placements {ids : List (List Int)} (hrows : 0 < rows) (hcols : 0 < cols)
    (hshape : HasShape rows cols ids)
    (hentry : ∀ (cell : Cell) (id : Int), entryAt? ids cell = some id ↔
      ∃ region : Nat, id = region ∧ (cell, region) ∈ placements 0 regions) :
    (IsGapless regions ∧
      ∃ grid, ofMatrix rows cols (some ids) = .ok grid ∧ IsMadeOf rows cols regions grid) ∨
    (¬IsGapless regions ∧
      ∃ e, ofMatrix rows cols (some ids) = .error e ∧ Refuses regions e) := by
  have hplace (cell : Cell) (id : Int) : entryAt? ids cell = some id ↔
      ∃ (index : Nat) (cells : _), id = index ∧ regions[index]? = some cells ∧ cell ∈ cells := by
    rw [hentry]
    simp only [OpenMap.mem_placements, Nat.zero_add, exists_eq_left', exists_and_left]
  have hids (id : Int) : id ∈ ids.flatten ↔
      ∃ (index : Nat) (cells : _), id = index ∧ regions[index]? = some cells ∧ cells ≠ [] := by
    simp only [mem_flatten_iff, hplace]
    constructor
    · rintro ⟨cell, index, cells, hindex, hcells, hcell⟩
      exact ⟨index, cells, hindex, hcells, List.ne_nil_of_mem hcell⟩
    · rintro ⟨index, cells, hindex, hcells, hne⟩
      obtain ⟨cell, hcell⟩ := List.exists_mem_of_ne_nil cells hne
      exact ⟨cell, index, cells, hindex, hcells, hcell⟩
  rw [ofMatrix_of_hasShape hrows hcols hshape]
  by_cases hdense : IsDense ids.flatten
  · left
    refine ⟨(isDense_iff_isGapless hids).1 hdense, _, dif_pos hdense, rfl, rfl, rfl, ?_⟩
    intro cell id
    rw [regionOf?_eq rfl, hplace]
  · right
    refine ⟨fun h ↦ hdense ((isDense_iff_isGapless hids).2 h), _, dif_neg hdense, ?_⟩
    refine .inr (.inr ⟨_, rfl, fun id hid ↦ ?_⟩)
    obtain ⟨index, cells, hindex, hcells, -⟩ := (hids id).1 (mem_sortedDistinct.1 hid)
    exact ⟨index, hindex, (List.getElem?_eq_some_iff.1 hcells).1⟩

theorem ofCellLists_cases (hrows : 0 < rows) (hcols : 0 < cols) (regions : List (List Cell)) :
    (IsPartition rows cols regions ∧
      ∃ grid, ofCellLists rows cols regions = .ok grid ∧ IsMadeOf rows cols regions grid) ∨
    (¬IsPartition rows cols regions ∧
      ∃ e, ofCellLists rows cols regions = .error e ∧ Refuses regions e) := by
  have hcells := OpenMap.map_fst_placements 0 regions
  rw [ofCellLists_eq]
  cases hplaced : placeEach rows cols (OpenMap.empty rows cols) (placements 0 regions) with
  | error e =>
    obtain ⟨cell, hcell, he⟩ := OpenMap.faultsIn_placeEach rows cols _ _ e hplaced
    refine .inr ⟨fun hpartition ↦ ?_, e, rfl, .inl ⟨cell, hcells ▸ hcell, he⟩⟩
    have hfits := (count_eq_iff.1 hpartition.once).1
    have hall : Fits rows cols (([] ++ placements 0 regions).map Prod.fst) := by
      rwa [List.nil_append, hcells]
    obtain ⟨next, hnext⟩ := (Holds.empty rows cols).exists_placeEach hall
    rw [hplaced] at hnext
    cases hnext
  | ok map =>
    obtain ⟨hholds, hfits⟩ := (Holds.empty rows cols).of_placeEach (by simp [Fits]) hplaced
    rw [List.nil_append] at hholds hfits
    rw [ok_bind]
    by_cases hfull : ∀ cell : Cell, cell.row < rows ∧ cell.col < cols →
        cell ∈ (placements 0 regions).map Prod.fst
    · obtain ⟨ids, hshape, hmatrix, hentry⟩ := ofOpenMap_of_full hholds hfull
      rw [hcells] at hfits hfull
      have honce := count_eq_iff.2 ⟨hfits, hfull⟩
      rw [hmatrix]
      obtain ⟨hgapless, hgrid⟩ | ⟨hgap, hrefused⟩ :=
        ofMatrix_of_placements hrows hcols hshape hentry
      · exact .inl ⟨⟨honce, hgapless⟩, hgrid⟩
      · exact .inr ⟨fun h ↦ hgap h.gapless, hrefused⟩
    · obtain ⟨cell, hcell⟩ := not_forall.1 hfull
      obtain ⟨hinside, hopen⟩ := Classical.not_imp.1 hcell
      refine .inr ⟨fun h ↦ ?_, _, ofOpenMap_of_not_full hholds hinside hopen, .inr (.inl rfl)⟩
      rw [hcells] at hopen
      exact hopen ((count_eq_iff.1 h.once).2 cell hinside)

/-- What the refusal of lists of cells is in the end. -/
theorem Refuses.settled {e : Error} (h : Refuses regions e) :
    e.settled.category = .configuration ∨ e.settled = .wrongValue ∧
      ((∃ cell ∈ regions.flatten, Error.isWritableCell cell = false) ∨
        Text.isWritable regions.length = false) := by
  have hcategory : e.category = .configuration := by
    obtain ⟨cell, -, rfl | rfl⟩ | rfl | ⟨ids, rfl, -⟩ := h <;> rfl
  refine (Error.settled_of_category hcategory).imp_right fun ⟨hsettled, hwordable⟩ ↦
    ⟨hsettled, ?_⟩
  obtain ⟨cell, hcell, rfl | rfl⟩ | rfl | ⟨ids, rfl, hids⟩ := h
  · exact .inl ⟨cell, hcell, hwordable⟩
  · exact .inl ⟨cell, hcell, hwordable⟩
  · cases hwordable
  · right
    obtain ⟨id, hid, hlong⟩ := List.all_eq_false.1 hwordable
    obtain ⟨index, rfl, hindex⟩ := hids id hid
    by_contra hlength
    exact hlong (Text.isWritable_of_le hindex.le (by simpa only [Bool.not_eq_false] using hlength))

/-! ## The lists of a grid -/

/-- A grid is known from its size and the regions of its cells. -/
theorem ext_regionOf? {grid other : Grid} (hgrid : grid.regions.isSome = true)
    (hother : other.regions.isSome = true) (hrows : grid.rows = other.rows)
    (hcols : grid.cols = other.cols)
    (h : ∀ cell, grid.contains cell = true → grid.regionOf? cell = other.regionOf? cell) :
    grid = other := by
  obtain ⟨rows, cols, regions, _, _⟩ := grid
  obtain ⟨otherRows, otherCols, otherRegions, _, _⟩ := other
  obtain rfl : rows = otherRows := hrows
  obtain rfl : cols = otherCols := hcols
  cases regions with
  | none => cases hgrid
  | some map =>
    cases otherRegions with
    | none => cases hother
    | some otherMap =>
      have hids : map.ids = otherMap.ids :=
        map.shape.ext otherMap.shape fun cell hcell ↦ h cell (contains_iff.2 hcell)
      obtain ⟨ids, hshape, hdense⟩ := map
      obtain ⟨otherIds, _, _⟩ := otherMap
      obtain rfl : ids = otherIds := hids
      rfl

/-- Lists of the cells of the regions of a grid, each region in any order. -/
structure ListsRegions (grid : Grid) (lists : List (List Cell)) : Prop where
  length : lists.length = grid.regionCount
  perm : ∀ (index : Nat) (cells : List Cell), lists[index]? = some cells →
    cells.Perm (grid.regionCells index)

section ListsRegions

variable {grid : Grid} {lists : List (List Cell)}

/-- The region of a cell is the place of its list. -/
theorem ListsRegions.regionOf?_eq_iff (h : ListsRegions grid lists)
    (hregions : grid.regions.isSome = true) (cell : Cell) (id : Int) :
    grid.regionOf? cell = some id ↔
      ∃ (index : Nat) (cells : _), id = index ∧ lists[index]? = some cells ∧ cell ∈ cells := by
  constructor
  · intro hid
    obtain ⟨hnonneg, hlt⟩ := (exists_regionOf?_eq_iff hregions).1 ⟨cell, hid⟩
    have hindex : id.toNat < lists.length := by
      rw [h.length]
      omega
    have hlist := List.getElem?_eq_getElem hindex
    refine ⟨id.toNat, lists[id.toNat], (Int.toNat_of_nonneg hnonneg).symm, hlist, ?_⟩
    rw [(h.perm _ _ hlist).mem_iff, mem_regionCells, hid, Int.toNat_of_nonneg hnonneg]
  · rintro ⟨index, cells, rfl, hcells, hcell⟩
    exact mem_regionCells.1 ((h.perm index cells hcells).mem_iff.1 hcell)

theorem ListsRegions.mem_flatten (h : ListsRegions grid lists)
    (hregions : grid.regions.isSome = true) (cell : Cell) :
    cell ∈ lists.flatten ↔ cell.row < grid.rows ∧ cell.col < grid.cols := by
  have hregion : cell ∈ lists.flatten ↔ ∃ id, grid.regionOf? cell = some id := by
    simp only [h.regionOf?_eq_iff hregions, List.mem_flatten]
    constructor
    · rintro ⟨cells, hcells, hcell⟩
      obtain ⟨index, hindex⟩ := List.mem_iff_getElem?.1 hcells
      exact ⟨index, index, cells, rfl, hindex, hcell⟩
    · rintro ⟨_, index, cells, -, hindex, hcell⟩
      exact ⟨cells, List.mem_of_getElem? hindex, hcell⟩
  rw [hregion, ← Option.isSome_iff_exists, isSome_regionOf?_iff hregions, contains_iff]

/-- A cell has one region only, so it is in one list only. -/
theorem ListsRegions.nodup_flatten (h : ListsRegions grid lists)
    (hregions : grid.regions.isSome = true) : lists.flatten.Nodup := by
  refine List.nodup_flatten.2 ⟨fun cells hcells ↦ ?_, List.pairwise_iff_getElem.2 ?_⟩
  · obtain ⟨index, hindex⟩ := List.mem_iff_getElem?.1 hcells
    rw [(h.perm index cells hindex).nodup_iff]
    exact (nodup_rectangle _ _).filter _
  · intro i j hi hj hlt cell hcell hother
    have hfirst := (h.regionOf?_eq_iff hregions cell i).2
      ⟨i, _, rfl, List.getElem?_eq_getElem hi, hcell⟩
    have hsecond := (h.regionOf?_eq_iff hregions cell j).2
      ⟨j, _, rfl, List.getElem?_eq_getElem hj, hother⟩
    have heq := Option.some.inj (hfirst.symm.trans hsecond)
    omega

/-- No region of a grid is empty, so no list is. -/
theorem ListsRegions.ne_nil (h : ListsRegions grid lists) (hregions : grid.regions.isSome = true)
    {cells : List Cell} (hcells : cells ∈ lists) : cells ≠ [] := by
  obtain ⟨i, hi⟩ := List.mem_iff_getElem?.1 hcells
  have hregion : 0 ≤ (i : Int) ∧ (i : Int) < grid.regionCount := by
    have hlt := (List.getElem?_eq_some_iff.1 hi).1
    rw [← h.length]
    omega
  obtain ⟨cell, hcell⟩ := (exists_regionOf?_eq_iff hregions).2 hregion
  obtain ⟨index, own, hindex, hown, hmember⟩ := (h.regionOf?_eq_iff hregions cell i).1 hcell
  obtain rfl := Int.ofNat.inj hindex
  obtain rfl := Option.some.inj (hi.symm.trans hown)
  exact List.ne_nil_of_mem hmember

theorem ListsRegions.isPartition (h : ListsRegions grid lists)
    (hregions : grid.regions.isSome = true) : IsPartition grid.rows grid.cols lists :=
  ⟨count_eq_iff.2 ⟨⟨h.nodup_flatten hregions, fun cell ↦ (h.mem_flatten hregions cell).1⟩,
      fun cell ↦ (h.mem_flatten hregions cell).2⟩,
    List.pairwise_iff_getElem.2 fun _ _ hi _ _ _ ↦ h.ne_nil hregions (List.getElem_mem hi)⟩

theorem ListsRegions.ofCellLists (h : ListsRegions grid lists)
    (hregions : grid.regions.isSome = true) :
    ofCellLists grid.rows grid.cols lists = .ok grid := by
  obtain ⟨-, made, hmade, hgrid⟩ | ⟨hnot, -⟩ :=
    ofCellLists_cases grid.rows_pos grid.cols_pos lists
  · rw [hmade]
    congr 1
    refine ext_regionOf? hgrid.mapped hregions hgrid.rows_eq hgrid.cols_eq fun cell _ ↦ ?_
    ext id
    rw [hgrid.region, h.regionOf?_eq_iff hregions]
  · exact absurd (h.isPartition hregions) hnot

end ListsRegions

/-! ## Lists as they are given -/

/-- What is given are the lists of cells in any form that has items. -/
def GivesLists (given : Value) (regions : List (List Cell)) : Prop :=
  ∃ items, given.items? = some items ∧ List.Forall₂ (fun item cells ↦ ∃ raws,
    item.items? = some raws ∧ List.Forall₂ (fun raw cell ↦ Cell.read raw = .ok cell) raws cells)
    items regions

def listsValue (regions : List (List Cell)) : Value :=
  .list (regions.map fun cells ↦ .list (cells.map fun cell ↦ .tuple [.int cell.row, .int cell.col]))

theorem givesLists_listsValue (regions : List (List Cell)) :
    GivesLists (listsValue regions) regions := by
  refine ⟨_, rfl, List.forall₂_map_left_iff.2 (List.forall₂_same.2 fun cells _ ↦ ⟨_, rfl, ?_⟩)⟩
  exact List.forall₂_map_left_iff.2 (List.forall₂_same.2 fun cell _ ↦ rfl)

theorem readItems_of_items? {given : Value} {items : List Value} (h : given.items? = some items) :
    readItems given = .ok items := by
  rw [readItems, h]

theorem readCounts_int (rows cols : Int) :
    readCounts (.int rows) (.int cols) = .ok (rows, cols) := by
  simp [readCounts, readCount, Value.asInt?]

theorem readSide_natCast {n : Nat} (hn : 0 < n) (fault : Error) :
    readSide fault (.int n) = .ok n := by
  obtain ⟨k, rfl⟩ := Nat.exists_eq_succ_of_ne_zero hn.ne'
  rfl

/-- Untyped lists are read as lists of cells are, if the columns can be counted. -/
theorem readCellLists_eq (hrows : 0 < rows) (hcols : 0 < cols) {given : Value}
    (hgiven : GivesLists given regions) : readCellLists (.int rows) (.int cols) given =
      checkWidth rows cols >>= fun _ ↦ ofCellLists rows cols regions := by
  obtain ⟨items, hitems, hread⟩ := hgiven
  have hplace := @OpenMap.placeAll_eq_placeEach _ _ readItems Cell.read _ _ (hread.imp
    fun item cells ⟨raws, hraws, hcells⟩ ↦ ⟨raws, readItems_of_items? hraws, hcells⟩)
  unfold readCellLists
  rw [readCounts_int, ok_bind]
  dsimp only
  congr 1
  funext _
  rw [readItems_of_items? hitems, ok_bind, hplace, ofCellLists_eq]
  congr 1
  funext map
  rw [readSide_natCast hrows, readSide_natCast hcols]
  by_cases hopen : map.any (·.any Option.isNone) = true
  · rw [if_pos hopen, ofOpenMap_of_any rows cols hopen]
    rfl
  · rw [if_neg hopen]
    rfl

/-- Lists of cells make a grid of a size just if they are a partition of it, and the region of a
cell is the place of its list; other lists are refused, and a refusal that would have to name a
number too long to be written is another fault. A grid is made again from lists of the cells of its
regions. All this holds as far as columns can be counted; there is no open map of more. -/
theorem readCellLists_partition :
    (∀ (rows cols : Nat) (given : Value) (regions : List (List Cell)), 0 < rows → 0 < cols →
      GivesLists given regions →
        (leastUncountable ≤ cols →
          readCellLists (.int rows) (.int cols) given = .error (.misuse .overflow)) ∧
        ((cols : Int) < leastUncountable →
          ((∃ grid, readCellLists (.int rows) (.int cols) given = .ok grid) ↔
            IsPartition rows cols regions) ∧
          (∀ e, readCellLists (.int rows) (.int cols) given = .error e →
            e.settled.category = .configuration ∨ e.settled = .wrongValue ∧
              ((∃ cell ∈ regions.flatten, Error.isWritableCell cell = false) ∨
                Text.isWritable regions.length = false)) ∧
          ∀ grid, readCellLists (.int rows) (.int cols) given = .ok grid →
            grid.rows = rows ∧ grid.cols = cols ∧
            ∀ (index : Nat) (cells : List Cell), regions[index]? = some cells →
              ∀ cell ∈ cells, grid.regionOf? cell = some (index : Int))) ∧
    ∀ (grid : Grid) (given : Value) (lists : List (List Cell)), grid.regions.isSome = true →
      (grid.cols : Int) < leastUncountable → GivesLists given lists → ListsRegions grid lists →
        readCellLists (.int grid.rows) (.int grid.cols) given = .ok grid := by
  refine ⟨fun rows cols given regions hrows hcols hgiven ↦ ?_,
    fun grid given lists hregions hwidth hgiven hlists ↦ ?_⟩
  · rw [readCellLists_eq hrows hcols hgiven]
    refine ⟨fun hwide ↦ ?_, fun hwidth ↦ ?_⟩
    · rw [checkWidth_of_le (Int.natCast_pos.2 hrows) hwide, error_bind]
    · rw [checkWidth_of_lt (Int.natCast_pos.2 hcols) hwidth, ok_bind]
      obtain ⟨hpartition, made, hmade, hgrid⟩ | ⟨hnot, e, he, hrefuses⟩ :=
        ofCellLists_cases hrows hcols regions
      · rw [hmade]
        refine ⟨⟨fun _ ↦ hpartition, fun _ ↦ ⟨made, rfl⟩⟩, fun e heq ↦ ?_, fun grid heq ↦ ?_⟩
        · cases heq
        · obtain rfl := Except.ok.inj heq
          refine ⟨hgrid.rows_eq, hgrid.cols_eq, fun index cells hcells cell hcell ↦ ?_⟩
          exact (hgrid.region cell index).2 ⟨index, cells, rfl, hcells, hcell⟩
      · rw [he]
        refine ⟨⟨fun hmade ↦ ?_, fun h ↦ absurd h hnot⟩, fun fault heq ↦ ?_, fun grid heq ↦ ?_⟩
        · obtain ⟨grid, heq⟩ := hmade
          cases heq
        · obtain rfl := Except.error.inj heq
          exact hrefuses.settled
        · cases heq
  · rw [readCellLists_eq grid.rows_pos grid.cols_pos hgiven,
      checkWidth_of_lt (Int.natCast_pos.2 grid.cols_pos) hwidth, ok_bind]
    exact hlists.ofCellLists hregions

/-- No cells for a row that is too wide to be counted. -/
theorem readCellLists_uncountable : GivesLists (listsValue []) [] ∧ ¬IsPartition 1 (2 ^ 63) [] ∧
    readCellLists (.int (1 : Nat)) (.int (2 ^ 63 : Nat)) (listsValue []) =
      .error (.misuse .overflow) ∧
    (Error.misuse .overflow).settled.category ≠ .configuration := by
  have hgiven := givesLists_listsValue []
  have hwide : checkWidth (1 : Nat) (2 ^ 63 : Nat) = .error (.misuse .overflow) := rfl
  refine ⟨hgiven, fun h ↦ ?_, ?_, by decide⟩
  · have hcount := h.once ⟨0, 0⟩
    rw [if_pos ⟨Nat.one_pos, Nat.two_pow_pos 63⟩] at hcount
    cases hcount
  · rw [readCellLists_eq Nat.one_pos (Nat.two_pow_pos 63) hgiven, hwide, error_bind]

/-- A row of three cells, the outer two in one region. -/
def splitRow : Grid where
  rows := 1
  cols := 3
  regions := some ⟨[[0, 1, 0]], by decide, isDense_of_mem (n := 2) (by simp; omega)⟩
  rows_pos := by decide
  cols_pos := by decide

/-- The row from lists with an empty one behind them, no row with an empty one in front, and the row
again from the cells of its regions in another order. -/
theorem readCellLists_splitRow :
    (∃ grid, readCellLists (.int (1 : Nat)) (.int (3 : Nat))
      (listsValue [[⟨0, 0⟩, ⟨0, 2⟩], [⟨0, 1⟩], []]) = .ok grid ∧ grid.regionOf? ⟨0, 1⟩ = some 1) ∧
    (¬∃ grid, readCellLists (.int (1 : Nat)) (.int (3 : Nat))
      (listsValue [[], [⟨0, 0⟩, ⟨0, 1⟩, ⟨0, 2⟩]]) = .ok grid) ∧
    readCellLists (.int splitRow.rows) (.int splitRow.cols)
      (listsValue [[⟨0, 2⟩, ⟨0, 0⟩], [⟨0, 1⟩]]) = .ok splitRow := by
  have hwidth : ((3 : Nat) : Int) < leastUncountable := by decide +kernel
  have hread (regions : List (List Cell)) := (readCellLists_partition.1 1 3 _ regions (by decide)
    (by decide) (givesLists_listsValue regions)).2 hwidth
  have hlists : ListsRegions splitRow [[⟨0, 2⟩, ⟨0, 0⟩], [⟨0, 1⟩]] := by
    refine ⟨rfl, fun index cells hcells ↦ ?_⟩
    match index with
    | 0 =>
      obtain rfl := Option.some.inj hcells
      decide
    | 1 =>
      obtain rfl := Option.some.inj hcells
      decide
    | index + 2 => cases hcells
  obtain ⟨hiff, -, hplace⟩ := hread [[⟨0, 0⟩, ⟨0, 2⟩], [⟨0, 1⟩], []]
  obtain ⟨grid, hgrid⟩ := hiff.2 (by decide)
  obtain ⟨-, -, hregion⟩ := hplace grid hgrid
  exact ⟨⟨grid, hgrid, hregion 1 _ rfl _ List.mem_cons_self⟩,
    fun h ↦ absurd ((hread _).1.1 h) (by decide),
    readCellLists_partition.2 splitRow _ _ rfl hwidth (givesLists_listsValue _) hlists⟩

end GridPuzzle.Grid
