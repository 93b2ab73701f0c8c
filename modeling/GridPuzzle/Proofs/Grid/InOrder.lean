import GridPuzzle.Proofs.Grid.CellLists

/-!
# Regions numbered in order

Regions are numbered in order if, cell by cell, a region that is met first has the number that
follows the greatest one so far. There is one way to number given regions in order, so a grid of
this kind is known from its size and which cells it joins.
-/

namespace GridPuzzle

/-- Each number is one of those in front of it or follows the greatest of them; the first number is
zero. -/
def IsNumberedInOrder (ids : List Int) : Prop :=
  ∀ front id, front ++ [id] <+: ids → id ∈ front ∨ id = front.foldl max (-1) + 1

theorem isNumberedInOrder_nil : IsNumberedInOrder [] := by
  intro front id h
  simp at h

theorem isNumberedInOrder_concat {ids : List Int} {id : Int} : IsNumberedInOrder (ids ++ [id]) ↔
    IsNumberedInOrder ids ∧ (id ∈ ids ∨ id = ids.foldl max (-1) + 1) := by
  constructor
  · intro h
    exact ⟨fun front other hfront ↦ h front other (hfront.trans (List.prefix_append ids [id])),
      h ids id (List.prefix_refl _)⟩
  · rintro ⟨hids, hid⟩ front other hfront
    obtain heq | hfront := List.prefix_concat_iff.1 hfront
    · obtain ⟨rfl, hlast⟩ := List.append_inj' heq rfl
      obtain rfl := List.singleton_inj.1 hlast
      exact hid
    · exact hids front other hfront

/-- Two numberings in order of the same members are equal if they number the same members alike. -/
theorem IsNumberedInOrder.unique {α : Type} {l : List α} {f g : α → Int}
    (hf : IsNumberedInOrder (l.map f)) (hg : IsNumberedInOrder (l.map g))
    (h : ∀ a ∈ l, ∀ b ∈ l, f a = f b ↔ g a = g b) : ∀ a ∈ l, f a = g a := by
  induction l using List.reverseRecOn with
  | nil => simp
  | append_singleton l a ih =>
    rw [List.map_append, List.map_singleton, isNumberedInOrder_concat] at hf hg
    obtain ⟨hfront, hfa⟩ := hf
    obtain ⟨hgfront, hga⟩ := hg
    have hsame := ih hfront hgfront fun b hb c hc ↦ h b (by simp [hb]) c (by simp [hc])
    have hmem : f a ∈ l.map f ↔ g a ∈ l.map g := by
      simp only [List.mem_map]
      refine exists_congr fun b ↦ and_congr_right fun hb ↦ ?_
      exact h b (by simp [hb]) a (by simp)
    -- the last member has been met in both numberings or is new in both
    have hlast : f a = g a := by
      by_cases hmet : f a ∈ l.map f
      · obtain ⟨b, hb, hba⟩ := List.mem_map.1 hmet
        calc f a = f b := hba.symm
          _ = g b := hsame b hb
          _ = g a := (h b (by simp [hb]) a (by simp)).1 hba
      · rw [hfa.resolve_left hmet, hga.resolve_left (hmem.not.1 hmet), List.map_congr_left hsame]
    intro b hb
    obtain hb | hb := List.mem_append.1 hb
    · exact hsame b hb
    · obtain rfl := List.mem_singleton.1 hb
      exact hlast

namespace Grid

variable {grid other : Grid}

def regionIds (grid : Grid) : List Int := grid.cells.filterMap grid.regionOf?

theorem exists_regionIds_eq_map (hregions : grid.regions.isSome = true) :
    ∃ f : Cell → Int, (∀ cell ∈ grid.cells, grid.regionOf? cell = some (f cell)) ∧
      grid.regionIds = grid.cells.map f := by
  have hsome : ∀ cell ∈ grid.cells,
      grid.regionOf? cell = some ((grid.regionOf? cell).getD 0) := by
    intro cell hcell
    obtain ⟨id, hid⟩ := exists_regionOf? hregions (mem_cells.1 hcell)
    rw [hid, Option.getD_some]
  refine ⟨fun cell ↦ (grid.regionOf? cell).getD 0, hsome, ?_⟩
  rw [regionIds, List.filterMap_congr hsome, List.filterMap_eq_map']

/-- Grids whose regions are numbered in order are equal if they join the same cells. -/
theorem eq_of_isNumberedInOrder (hgrid : grid.regions.isSome = true)
    (hother : other.regions.isSome = true) (hrows : grid.rows = other.rows)
    (hcols : grid.cols = other.cols) (hgridOrder : IsNumberedInOrder grid.regionIds)
    (hotherOrder : IsNumberedInOrder other.regionIds)
    (h : ∀ cell ∈ grid.cells, ∀ cell' ∈ grid.cells,
      grid.regionOf? cell = grid.regionOf? cell' ↔
        other.regionOf? cell = other.regionOf? cell') : grid = other := by
  obtain ⟨f, hf, hfids⟩ := exists_regionIds_eq_map hgrid
  obtain ⟨g, hg, hgids⟩ := exists_regionIds_eq_map hother
  have hcells : other.cells = grid.cells := by rw [cells, cells, hrows, hcols]
  rw [hcells] at hg hgids
  rw [hfids] at hgridOrder
  rw [hgids] at hotherOrder
  have hsame := hgridOrder.unique hotherOrder fun cell hcell cell' hcell' ↦ by
    have hjoined := h cell hcell cell' hcell'
    rwa [hf cell hcell, hf cell' hcell', hg cell hcell, hg cell' hcell', Option.some.injEq,
      Option.some.injEq] at hjoined
  refine ext_regionOf? hgrid hother hrows hcols fun cell hcell ↦ ?_
  have hmem := mem_cells.2 hcell
  rw [hf cell hmem, hg cell hmem, hsame cell hmem]

end Grid

end GridPuzzle
