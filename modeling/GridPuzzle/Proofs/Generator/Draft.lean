import GridPuzzle.Generator.Library
import GridPuzzle.Proofs.Constraint.Item
import GridPuzzle.Proofs.Fallible
import GridPuzzle.Proofs.Ordered
import GridPuzzle.Proofs.Text.Literal

/-!
# The drafts of the library

The items of a draft read the digits of the cells that the generator was given and of no others, and
a note takes one line and does not start as the comment over a block does. The generators of placed
rules declare nothing. The generator of the rule on all region sum lines
declares the shared total, unless there is no line or no region map.
-/

namespace GridPuzzle

open Fallible

/-- The starts of the comments that say where a block comes from. -/
def markerStarts : List (List Char) := ["global rule: ".toList, "local rule: ".toList]

/-- A text of one line that does not start as the comment over a block does. -/
def IsNote (text : String) : Prop :=
  text ≠ "" ∧ Text.IsLine text.toList ∧ ∀ start ∈ markerStarts, ¬start <+: text.toList

instance (text : String) : Decidable (IsNote text) := inferInstanceAs (Decidable (_ ∧ _ ∧ _))

/-- An item on given cells that is a note only if its text is. -/
structure Item.IsOn (cells : List Cell) (item : Item) : Prop where
  reads : ∀ cell ∈ item.cells, cell ∈ cells
  stated : ∀ text, item = .note text → IsNote text

/-- An item on given cells that declares nothing. -/
structure Item.IsDemand (cells : List Cell) (item : Item) : Prop extends item.IsOn cells where
  silent : item.declared = []

def Draft.IsDemand (cells : List Cell) (draft : Draft) : Prop :=
  ∀ item ∈ draft.items, item.IsDemand cells

variable {cells more : List Cell} {groups : List Group} {placements : List Placement} {grid : Grid}
  {draft : Draft}

/-- A text in front of which stands a line that starts with a letter of no marker. -/
theorem isNote_append {first rest : String}
    (hfirst : Text.IsLine first.toList ∧
      first.toList.head?.any (fun c ↦ c != 'g' && c != 'l') = true)
    (hrest : Text.IsLine rest.toList) : IsNote (first ++ rest) := by
  obtain ⟨hline, hhead⟩ := hfirst
  obtain ⟨c, tail, hcons⟩ : ∃ c tail, first.toList = c :: tail :=
    List.exists_cons_of_ne_nil fun hnil ↦ by simp [hnil] at hhead
  have hc : c ≠ 'g' ∧ c ≠ 'l' := by simpa [hcons] using hhead
  refine ⟨fun hempty ↦ ?_, ?_, fun start hstart hprefix ↦ ?_⟩
  · simp [(String.append_eq_empty_iff.1 hempty).1] at hcons
  · rw [String.toList_append]
    exact Text.isLine_append.2 ⟨hline, hrest⟩
  · rw [String.toList_append, hcons, List.cons_append] at hprefix
    have hheads : ∀ start ∈ markerStarts, start.head? = some 'g' ∨ start.head? = some 'l' := by
      decide
    cases start with
    | nil => simpa using hheads [] hstart
    | cons d start =>
      have hd : d = c := (List.cons_prefix_cons.1 hprefix).1
      obtain h | h := hheads (d :: start) hstart
      · exact hc.1 (hd ▸ Option.some.inj h)
      · exact hc.2 (hd ▸ Option.some.inj h)

namespace Item

theorem IsOn.mono {item : Item} (h : item.IsOn cells) (hsub : cells ⊆ more) : item.IsOn more :=
  ⟨fun cell hcell ↦ hsub (h.reads cell hcell), h.stated⟩

theorem IsDemand.mono {item : Item} (h : item.IsDemand cells) (hsub : cells ⊆ more) :
    item.IsDemand more := ⟨h.toIsOn.mono hsub, h.silent⟩

theorem isDemand_note {text : String} (h : IsNote text) : (note text).IsDemand cells :=
  ⟨⟨by simp [Item.cells], fun other heq ↦ by simpa [← Item.note.inj heq] using h⟩, rfl⟩

theorem isDemand_equal {left right : Term} (hleft : ∀ cell ∈ left.cells, cell ∈ cells)
    (hright : ∀ cell ∈ right.cells, cell ∈ cells) : (equal left right).IsDemand cells :=
  ⟨⟨fun cell hcell ↦ (List.mem_append.1 hcell).elim (hleft cell) (hright cell), by simp⟩, rfl⟩

end Item

theorem Draft.isDemand_neutral {reason : String} (h : IsNote reason) :
    (Draft.neutral reason).IsDemand cells := by
  intro item hitem
  simp only [neutral, List.mem_cons, List.not_mem_nil, or_false] at hitem
  obtain rfl | rfl := hitem
  · exact Item.isDemand_note h
  · exact ⟨⟨by simp [Item.cells], by simp⟩, rfl⟩

theorem subset_cells {group : Group} (h : group ∈ groups) :
    group.cells ⊆ groups.flatMap Group.cells := fun _ hcell ↦
  List.mem_flatMap.2 ⟨group, h, hcell⟩

/-! ## Placed rules -/

/-- A number with a line behind it. -/
theorem isLine_numbered (index : Nat) {rest : String} (hrest : Text.IsLine rest.toList) :
    Text.IsLine (Text.natText index ++ rest).toList := by
  rw [String.toList_append, Text.natText, String.toList_ofList]
  exact Text.isLine_append.2 ⟨Text.isLine_decimal index, hrest⟩

theorem Arrow.isDemand_draft (h : Arrow.draft groups placements grid = .ok draft) :
    draft.IsDemand (groups.flatMap Group.cells) := by
  unfold Arrow.draft at h
  split at h
  next =>
    obtain rfl := Except.ok.inj h
    cases groups with
    | nil => simp [Draft.IsDemand, items]
    | cons pill shafts =>
      intro item hitem
      simp only [items] at hitem
      split at hitem
      next => simp at hitem
      next =>
        obtain ⟨⟨shaft, index⟩, hshaft, hitem⟩ := List.mem_flatMap.1 hitem
        have hshaft := subset_cells (List.mem_cons_of_mem pill (List.fst_mem_of_mem_zipIdx hshaft))
        have hpill := subset_cells (List.mem_cons_self (a := pill) (l := shafts))
        simp only [shaftItems] at hitem
        split at hitem
        next => simp at hitem
        next =>
          simp only [List.mem_cons, List.not_mem_nil, or_false] at hitem
          obtain rfl | rfl := hitem
          · rw [String.append_assoc]
            exact Item.isDemand_note (isNote_append (by decide) (isLine_numbered index (by decide)))
          · exact Item.isDemand_equal (fun cell hcell ↦ hshaft hcell) fun cell hcell ↦ hpill hcell
  next => simp at h

theorem mem_of_mem_neighbours {a b : Cell} (h : (a, b) ∈ neighbours cells) :
    a ∈ cells ∧ b ∈ cells :=
  ⟨(List.of_mem_zip h).1, List.mem_of_mem_tail (List.of_mem_zip h).2⟩

/-- An item for two neighbours reads these two, is no note and declares nothing. -/
theorem Line.isDemand_draft {demand : Cell → Cell → Item}
    (hcells : ∀ a b, (demand a b).cells = [a, b]) (hstated : ∀ a b text, demand a b ≠ .note text)
    (hsilent : ∀ a b, (demand a b).declared = [])
    (h : Line.draft demand groups placements grid = .ok draft) :
    draft.IsDemand (groups.flatMap Group.cells) := by
  obtain rfl := Except.ok.inj h
  intro item hitem
  obtain ⟨group, hgroup, hitem⟩ := List.mem_flatMap.1 hitem
  obtain ⟨⟨a, b⟩, hpair, rfl⟩ := List.mem_map.1 hitem
  obtain ⟨ha, hb⟩ := mem_of_mem_neighbours hpair
  refine ⟨⟨fun cell hcell ↦ subset_cells hgroup ?_, fun text heq ↦ absurd heq (hstated a b text)⟩,
    hsilent a b⟩
  rw [hcells] at hcell
  simp only [List.mem_cons, List.not_mem_nil, or_false] at hcell
  obtain rfl | rfl := hcell
  · exact ha
  · exact hb

theorem Cage.isDemand_groupDraft {group : Group} (h : Cage.groupDraft group = .ok draft) :
    draft.IsDemand group.cells := by
  have htotal (total : Draft) (htotal : totalDraft group = .ok total) :
      total.IsDemand group.cells := by
    obtain ⟨value, _, hvalue⟩ := bind_eq_ok.1 htotal
    split at hvalue
    next n =>
      obtain rfl := Except.ok.inj hvalue
      intro item hitem
      obtain rfl := List.mem_singleton.1 hitem
      exact Item.isDemand_equal (fun _ hcell ↦ hcell) (by simp [Term.cells])
    next =>
      split at hvalue
      · obtain rfl := Except.ok.inj hvalue
        intro item hitem
        obtain rfl := List.mem_singleton.1 hitem
        rw [ignoredTotal, String.append_assoc]
        refine Item.isDemand_note (isNote_append (by decide) ?_)
        rw [String.toList_append]
        exact Text.isLine_append.2 ⟨group.value.isLine_literal, by decide⟩
      · obtain rfl := Except.ok.inj hvalue
        simp [Draft.IsDemand]
  unfold groupDraft at h
  split at h
  next =>
    obtain rfl := Except.ok.inj h
    simp [Draft.IsDemand]
  next =>
    obtain ⟨total, hok, h⟩ := bind_eq_ok.1 h
    obtain rfl := Except.ok.inj h
    intro item hitem
    simp only [List.cons_append, List.nil_append, List.mem_cons] at hitem
    obtain rfl | rfl | hitem := hitem
    · exact Item.isDemand_note (by decide)
    · exact ⟨⟨fun _ hcell ↦ hcell, by simp⟩, rfl⟩
    · exact htotal total hok item hitem

theorem Cage.isDemand_draft (h : Cage.draft groups placements grid = .ok draft) :
    draft.IsDemand (groups.flatMap Group.cells) := by
  obtain ⟨drafts, hdrafts, h⟩ := bind_eq_ok.1 h
  obtain rfl := Except.ok.inj h
  intro item hitem
  obtain ⟨own, hown, hitem⟩ := List.mem_flatMap.1 hitem
  obtain ⟨group, hgroup, heq⟩ := exists_mem_of_mapM_eq_ok hdrafts hown
  exact (isDemand_groupDraft heq item hitem).mono (subset_cells hgroup)

/-! ## Lines through regions -/

namespace RegionSum

theorem sortedDistinct_ne_nil {ids : List Int} (h : ids ≠ []) : sortedDistinct ids ≠ [] := by
  obtain ⟨id, hid⟩ := List.exists_mem_of_ne_nil ids h
  exact List.ne_nil_of_mem (mem_sortedDistinct.2 hid)

/-- The segments of a line consist of its cells, and a line with a cell has a segment. -/
theorem segments_eq_ok {line : List Cell} {found : List (List Cell)}
    (h : segments grid line = .ok found) :
    (∀ segment ∈ found, segment ⊆ line) ∧ (line ≠ [] → found ≠ []) := by
  obtain ⟨pairs, hpairs, h⟩ := bind_eq_ok.1 h
  obtain rfl := Except.ok.inj h
  have hmem : ∀ pair ∈ pairs, pair.2 ∈ line := by
    intro pair hpair
    obtain ⟨cell, hcell, heq⟩ := exists_mem_of_mapM_eq_ok hpairs hpair
    split at heq
    · obtain rfl := Except.ok.inj heq
      exact hcell
    · simp at heq
  refine ⟨fun segment hsegment cell hcell ↦ ?_, fun hne hnil ↦ ?_⟩
  · obtain ⟨region, _, rfl⟩ := List.mem_map.1 hsegment
    obtain ⟨pair, hpair, rfl⟩ := List.mem_map.1 hcell
    exact hmem pair (List.mem_of_mem_filter hpair)
  · have hlength : line.length = pairs.length := (mapM_eq_ok.1 hpairs).length_eq
    have hids : pairs.map Prod.fst ≠ [] := by
      simpa [← List.length_pos_iff, ← hlength] using List.length_pos_iff.2 hne
    exact sortedDistinct_ne_nil hids (List.map_eq_nil_iff.1 hnil)

theorem isDemand_lineItems {index : Nat} {line : Group} {items : List Item}
    (h : lineItems grid index line = .ok items) : ∀ item ∈ items, item.IsDemand line.cells := by
  obtain ⟨found, hfound, h⟩ := bind_eq_ok.1 h
  obtain ⟨hsub, _⟩ := segments_eq_ok hfound
  split at h
  next first second rest _ =>
    obtain rfl := Except.ok.inj h
    intro item hitem
    obtain rfl | hitem := List.mem_cons.1 hitem
    · rw [String.append_assoc]
      exact Item.isDemand_note (isNote_append (by decide) (isLine_numbered index (by decide)))
    · obtain ⟨other, hother, rfl⟩ := List.mem_map.1 hitem
      exact Item.isDemand_equal (hsub first List.mem_cons_self)
        (hsub other (List.mem_cons_of_mem first hother))
  next =>
    obtain rfl := Except.ok.inj h
    simp

theorem isDemand_lineDraft (h : lineDraft groups placements grid = .ok draft) :
    draft.IsDemand (groups.flatMap Group.cells) := by
  unfold lineDraft at h
  split at h
  next =>
    obtain rfl := Except.ok.inj h
    exact Draft.isDemand_neutral (by decide)
  next =>
    obtain ⟨found, hfound, h⟩ := bind_eq_ok.1 h
    obtain rfl := Except.ok.inj h
    intro item hitem
    obtain ⟨⟨line, index⟩, hline, items, heq, hitem⟩ := exists_mem_of_mem_flatten hfound hitem
    exact (isDemand_lineItems heq item hitem).mono (subset_cells (List.fst_mem_of_mem_zipIdx hline))

/-! ## The shared total -/

/-- Whether the shared total is declared: there are regions, and there is a line with a cell. -/
def declaresTotal (placements : List Placement) (grid : Grid) : Bool :=
  grid.regions.isSome && !(placedLines placements).isEmpty

theorem placedLines_cells {line : Group} (h : line ∈ placedLines placements) :
    line.cells ≠ [] ∧ line.cells ⊆ placements.flatMap Placement.cells := by
  obtain ⟨placement, hplacement, hline⟩ := List.mem_flatMap.1 h
  obtain ⟨hgroup, hne⟩ := List.mem_filter.1 hline
  refine ⟨by simpa using hne, fun cell hcell ↦ List.mem_flatMap.2 ⟨placement, ?_, ?_⟩⟩
  · exact List.mem_of_mem_filter hplacement
  · exact subset_cells hgroup hcell

/-- The items for segments are on the cells of these, and one of them declares the shared total. -/
theorem isOn_sharedItems {found : List (List Cell)} (hsub : ∀ segment ∈ found, segment ⊆ cells)
    (hne : found ≠ []) : (∀ item ∈ sharedItems found, item.IsOn cells) ∧
      (sharedItems found).flatMap Item.declared = [sharedTotal.toList] := by
  cases found with
  | nil => exact absurd rfl hne
  | cons first rest =>
    constructor
    · intro item hitem
      simp only [sharedItems, List.cons_append, List.nil_append, List.mem_cons] at hitem
      obtain rfl | rfl | hitem := hitem
      · exact (Item.isDemand_note (by decide)).toIsOn
      · exact ⟨hsub first List.mem_cons_self, by simp⟩
      · obtain ⟨other, hother, rfl⟩ := List.mem_map.1 hitem
        have hcells := hsub other (List.mem_cons_of_mem first hother)
        have hdemand : (Item.equal (.segmentSum other) .sharedTotal).IsDemand cells :=
          Item.isDemand_equal (fun _ hcell ↦ hcells hcell) (by simp [Term.cells])
        exact hdemand.toIsOn
    · simp [sharedItems, Item.declared]

/-- The items of the shared draft are on cells of placements, and one of them declares the shared
total if it is declared at all. -/
theorem sharedDraft_eq_ok (h : sharedDraft groups placements grid = .ok draft) :
    (∀ item ∈ draft.items, item.IsOn (placements.flatMap Placement.cells)) ∧
      draft.items.flatMap Item.declared =
        if declaresTotal placements grid then [sharedTotal.toList] else [] := by
  -- without lines, or without regions, the total is not declared and a note takes its place
  have hneutral {reason : String} (hreason : IsNote reason)
      (hnot : declaresTotal placements grid = false) (h : draft = Draft.neutral reason) :
      (∀ item ∈ draft.items, item.IsOn (placements.flatMap Placement.cells)) ∧
        draft.items.flatMap Item.declared =
          if declaresTotal placements grid then [sharedTotal.toList] else [] := by
    subst h
    refine ⟨fun item hitem ↦ (Draft.isDemand_neutral hreason item hitem).toIsOn, ?_⟩
    simp [hnot, Draft.neutral, Item.declared]
  unfold sharedDraft at h
  by_cases hlines : (placedLines placements).isEmpty = true
  · simp only [hlines, if_true] at h
    exact hneutral (by decide) (by simp [declaresTotal, hlines]) (Except.ok.inj h).symm
  by_cases hregions : grid.regions.isNone = true
  · simp only [hlines, hregions, if_true, Bool.false_eq_true, if_false] at h
    have hnot : declaresTotal placements grid = false := by
      simp [declaresTotal, Option.isNone_iff_eq_none.1 hregions]
    exact hneutral (by decide) hnot (Except.ok.inj h).symm
  simp only [hlines, hregions, Bool.false_eq_true, if_false] at h
  obtain ⟨found, hfound, h⟩ := bind_eq_ok.1 h
  obtain rfl := Except.ok.inj h
  have hdeclares : declaresTotal placements grid = true := by
    simp [declaresTotal, hlines, Option.isSome_iff_ne_none, ← Option.isNone_iff_eq_none, hregions]
  rw [hdeclares, if_pos rfl]
  refine isOn_sharedItems (fun segment hsegment ↦ ?_) ?_
  · obtain ⟨line, hline, segments, heq, hmem⟩ := exists_mem_of_mem_flatten hfound hsegment
    exact List.Subset.trans ((segments_eq_ok heq).1 segment hmem) (placedLines_cells hline).2
  · obtain ⟨line, lines, hcons⟩ := List.exists_cons_of_ne_nil
      (show placedLines placements ≠ [] by simpa using hlines)
    have hall := mapM_eq_ok.1 hfound
    rw [hcons, List.forall₂_cons_left_iff] at hall
    obtain ⟨segments, rest, hsegments, _, rfl⟩ := hall
    have hline : line ∈ placedLines placements := by simp [hcons]
    have hne := (segments_eq_ok hsegments).2 (placedLines_cells hline).1
    simp [hne]

end RegionSum

end GridPuzzle
