import GridPuzzle.Proofs.Catalog.Fragment
import GridPuzzle.Proofs.Generator.Draft

/-!
# Rules of the standard catalog

A rule of the standard catalog is emitted by the library. The one rule of the whole grid with a
generator is that on the shared total of all region sum lines. The generator of a placed rule writes
demands on the groups that it is given. Every rule with a generator reads the digits of the grid.
-/

namespace GridPuzzle

open Fallible

/-- The total that the generator of a rule of the standard catalog declares. -/
def Rule.total (rule : Rule) (placements : List Placement) (grid : Grid) : List String :=
  if rule.id = Standard.globalRegionSumLines.id ∧
      RegionSum.declaresTotal placements grid = true then [sharedTotal]
  else []

namespace Standard

theorem declared_eq {rule : Rule} (hrule : rule ∈ rules) :
    rule.declared = (predicates.lookup rule.id).toList := by
  cases hfragment : rule.fragment with
  | some fragment => exact (@emits_fragment (fun _ ↦ True) rule hrule fragment hfragment).2
  | none =>
    have hnone : ∀ rule ∈ rules, rule.fragment.isNone = true →
        predicates.lookup rule.id = none := by
      decide
    rw [hnone rule hrule (by simp [hfragment])]
    simp [Rule.declared, hfragment]

/-- A drafter of a placed rule, as far as it is known where only the rule's place matters. -/
def IsDemanding (drafter : Drafter) : Prop :=
  ∀ groups placements grid draft, drafter groups placements grid = .ok draft →
    draft.IsDemand (groups.flatMap Group.cells)

theorem isDemanding_line {demand : Cell → Cell → Item}
    (hcells : ∀ a b, (demand a b).cells = [a, b]) (hstated : ∀ a b text, demand a b ≠ .note text)
    (hsilent : ∀ a b, (demand a b).declared = []) : IsDemanding (Line.draft demand) :=
  fun _ _ _ _ h ↦ Line.isDemand_draft hcells hstated hsilent h

theorem drafter_cases {id : String} {drafter : Drafter} (h : (id, drafter) ∈ libraryDrafters) :
    (id = globalRegionSumLines.id ∧ drafter = RegionSum.sharedDraft) ∨
      (id ≠ globalRegionSumLines.id ∧ IsDemanding drafter) := by
  simp only [libraryDrafters, List.mem_cons, Prod.mk.injEq, List.not_mem_nil, or_false] at h
  obtain h | ⟨rfl, rfl⟩ | ⟨rfl, rfl⟩ | ⟨rfl, rfl⟩ | ⟨rfl, rfl⟩ | ⟨rfl, rfl⟩ | ⟨rfl, rfl⟩ |
    ⟨rfl, rfl⟩ := h
  · exact .inl h
  · exact .inr ⟨by decide, fun _ _ _ _ h ↦ Cage.isDemand_draft h⟩
  · exact .inr ⟨by decide, fun _ _ _ _ h ↦ Arrow.isDemand_draft h⟩
  · exact .inr ⟨by decide, isDemanding_line (fun _ _ ↦ rfl) (by simp) fun _ _ ↦ rfl⟩
  · exact .inr ⟨by decide, isDemanding_line (fun _ _ ↦ rfl) (by simp) fun _ _ ↦ rfl⟩
  · exact .inr ⟨by decide, isDemanding_line (fun _ _ ↦ rfl) (by simp) fun _ _ ↦ rfl⟩
  · exact .inr ⟨by decide, isDemanding_line (fun _ _ ↦ rfl) (by simp) fun _ _ ↦ rfl⟩
  · exact .inr ⟨by decide, fun _ _ _ _ h ↦ RegionSum.isDemand_lineDraft h⟩

/-- A generator of a rule of the standard catalog is that of the library under the rule's id. -/
theorem exists_drafter {rule : Rule} (hrule : rule ∈ rules) {generator : Generator}
    (hgenerator : rule.generator = some generator) :
    ∃ drafter, (rule.id, drafter) ∈ libraryDrafters ∧ generator = drafter.toGenerator := by
  simp only [rules, List.mem_cons, List.not_mem_nil, or_false] at hrule
  obtain rfl | rfl | rfl | rfl | rfl | rfl | rfl | rfl | rfl | rfl | rfl | rfl := hrule
  all_goals first | exact absurd hgenerator (Option.some_ne_none generator).symm | skip
  all_goals
    obtain rfl := Option.some.inj hgenerator
    exact ⟨_, by simp [libraryDrafters, globalRegionSumLines, arrow, blackDot, germanWhisper,
      killerCage, regionSumLine, thermometer, whiteDot], rfl⟩

/-- The library has one drafter under an id. -/
theorem drafter_unique {id : String} {drafter other : Drafter}
    (h : (id, drafter) ∈ libraryDrafters) (hother : (id, other) ∈ libraryDrafters) :
    drafter = other := by
  have hnodup : (libraryDrafters.map Prod.fst).Nodup := by decide
  exact congrArg Prod.snd (List.inj_on_of_nodup_map hnodup h hother rfl)

theorem requires_digits : ∀ rule ∈ rules, rule.generator.isSome = true →
    "numbers-all" ∈ rule.requiredKinds := by
  decide

theorem toGenerator_eq_ok {drafter : Drafter} {groups : List Group} {placements : List Placement}
    {grid : Grid} {emission : Emission}
    (h : drafter.toGenerator groups placements grid = .ok emission) :
    ∃ draft, drafter groups placements grid = .ok draft ∧
      emission = ⟨Items.text draft.items, draft.warnings⟩ := by
  obtain ⟨draft, hdraft, h⟩ := bind_eq_ok.1 h
  unfold Draft.emission at h
  split at h
  · exact ⟨draft, hdraft, (Except.ok.inj h).symm⟩
  · simp at h

/-- What the generator of a rule of the standard catalog writes is the text of items on the cells
that it was given, and these declare the total of the rule. -/
theorem generator_eq_ok {rule : Rule} (hrule : rule ∈ rules) {generator : Generator}
    (hgenerator : rule.generator = some generator) {groups : List Group}
    {placements : List Placement} {grid : Grid} {emission : Emission}
    (h : generator groups placements grid = .ok emission) :
    ∃ drafter draft, (rule.id, drafter) ∈ libraryDrafters ∧ generator = drafter.toGenerator ∧
      drafter groups placements grid = .ok draft ∧
      emission = ⟨Items.text draft.items, draft.warnings⟩ ∧
      (∀ item ∈ draft.items, item.IsOn
        (groups.flatMap Group.cells ++ placements.flatMap Placement.cells)) ∧
      draft.items.flatMap Item.declared = (rule.total placements grid).map String.toList := by
  obtain ⟨drafter, hdrafter, rfl⟩ := exists_drafter hrule hgenerator
  obtain ⟨draft, hdraft, rfl⟩ := toGenerator_eq_ok h
  refine ⟨drafter, draft, hdrafter, rfl, hdraft, rfl, ?_⟩
  obtain ⟨hid, rfl⟩ | ⟨hid, hdemand⟩ := drafter_cases hdrafter
  · obtain ⟨hon, hdeclared⟩ := RegionSum.sharedDraft_eq_ok hdraft
    refine ⟨fun item hitem ↦ ?_, ?_⟩
    · exact (hon item hitem).mono (List.subset_append_right _ _)
    · rw [hdeclared, Rule.total]
      cases RegionSum.declaresTotal placements grid <;> simp [hid]
  · have hitems := hdemand groups placements grid draft hdraft
    refine ⟨fun item hitem ↦ ?_, ?_⟩
    · exact (hitems item hitem).toIsOn.mono (List.subset_append_left _ _)
    · have htotal : rule.total placements grid = [] := if_neg fun h ↦ hid h.1
      rw [htotal]
      exact List.flatMap_eq_nil_iff.2 fun item hitem ↦ (hitems item hitem).silent

theorem total_of_isNone {rule : Rule} (hrule : rule ∈ rules) (hnone : rule.generator = none)
    (placements : List Placement) (grid : Grid) : rule.total placements grid = [] := by
  have hids : ∀ rule ∈ rules, rule.generator.isNone = true → rule.id ≠ globalRegionSumLines.id := by
    decide
  exact if_neg fun h ↦ hids rule hrule (by simp [hnone]) h.1

theorem total_of_placed {rule : Rule} (hrule : rule ∈ rules) (hscope : rule.scope = .placed)
    (placements : List Placement) (grid : Grid) : rule.total placements grid = [] := by
  have hids : ∀ rule ∈ rules, rule.scope = .placed → rule.id ≠ globalRegionSumLines.id := by
    decide
  exact if_neg fun h ↦ hids rule hrule hscope h.1

end Standard

end GridPuzzle
