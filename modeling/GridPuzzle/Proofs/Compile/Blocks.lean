import GridPuzzle.Proofs.Catalog.Standard
import GridPuzzle.Proofs.Compile.Outcome

/-!
# Blocks of rules of the standard catalog

The block of a selected rule declares the names of the rule's fragment and the shared total, if the
rule is the one that defines it. The blocks of a placement declare the names of the rule's fragment
where they are the first of their rule. The blocks of a skipped rule declare nothing. All references
in the blocks are to the digits of cells that the generators were given.
-/

namespace GridPuzzle

open Fallible Document Standard

variable {good : CellReference → Prop} {placements : List Placement} {grid : Grid} {rule : Rule}

/-! ## Names -/

def Rule.selectedNames (rule : Rule) (placements : List Placement) (grid : Grid) : List String :=
  if rule.isSkipped grid then [] else rule.declared ++ rule.total placements grid

/-- The names that the blocks of a placement declare, the placements being counted from one. -/
def Rule.placedNames (rule : Rule) (placements : List Placement) (grid : Grid) (position : Nat) :
    List String :=
  if (placements.take (position - 1)).all (·.rule != rule.id) && !rule.isSkipped grid then
    rule.declared
  else []

/-! ## Generated text -/

theorem emits_neutral (reason : String) : Emits good (neutral reason).toList [] [] := by
  have hunder := (@Emits.comment good reason).under emits_neutralConstraint
  simpa [neutral] using hunder

theorem isFramed_itemsText {cells : List Cell} {item : Item} {rest : List Item}
    (hon : ∀ own ∈ item :: rest, own.IsOn cells) :
    Text.IsFramed (Items.text (item :: rest)).toList := by
  refine Text.isFramed_unlines (List.cons_ne_nil _ _) fun l hl ↦ ?_
  obtain ⟨own, hown, rfl⟩ := List.mem_map.1 hl
  exact Item.isFramed_text fun heq ↦ ((hon own hown).stated "" heq).1 rfl

/-- Items on given cells emit what they declare, also when the white space around them is gone. -/
theorem emits_tidy {cells : List Cell} {items : List Item} {warnings : List Warning}
    (hon : ∀ item ∈ items, item.IsOn cells) (hgood : ∀ cell ∈ cells, good cell.digitReference) :
    Emits good (tidy ⟨Items.text items, warnings⟩).text.toList (items.flatMap Item.declared)
      (items.flatMap Item.declared) := by
  unfold tidy
  cases items with
  | nil => exact emits_neutral _
  | cons item rest =>
    have hframed := isFramed_itemsText hon
    have hall : EmitsAll good ((item :: rest).map Item.text) ((item :: rest).flatMap Item.declared)
        ((item :: rest).flatMap Item.declared) := .map fun own hown ↦
      Item.emits fun cell hcell ↦ hgood cell ((hon own hown).reads cell hcell)
    simp only [Text.strip_of_isFramed hframed, Text.isEmpty_of_startsText hframed.1,
      Bool.false_eq_true, if_false]
    exact hall.unlines

/-- What a generator of the standard catalog produces for a rule. -/
theorem emits_generated (hrule : rule ∈ rules) {groups : List Group} {position : Option Nat}
    {body : List Emission} (h : generated rule groups placements grid position = .ok body)
    (hgood : rule.generator.isSome = true → ∀ cell ∈
      groups.flatMap Group.cells ++ placements.flatMap Placement.cells, good cell.digitReference) :
    EmitsAll good (body.map Emission.text) ((rule.total placements grid).map String.toList)
      ((rule.total placements grid).map String.toList) := by
  unfold generated at h
  split at h
  next hnone =>
    obtain rfl := Except.ok.inj h
    rw [total_of_isNone hrule hnone]
    exact .nil
  next generator hgenerator =>
    split at h
    next emission hemission =>
      obtain rfl := Except.ok.inj h
      obtain ⟨_, draft, _, _, _, rfl, hon, hdeclared⟩ := generator_eq_ok hrule hgenerator hemission
      rw [← hdeclared]
      exact .singleton (emits_tidy hon (hgood (by simp [hgenerator])))
    next => simp at h

/-! ## Blocks -/

theorem emits_stack {parts : List Emission} {found declared : List (List Char)}
    (h : EmitsAll good (parts.map Emission.text) found declared) :
    Emits good (Emission.stack parts).text.toList found declared := h.unlines

theorem emits_skipped (rule : Rule) : Emits good (skipped rule).text.toList [] [] :=
  emits_neutral _

/-- The block of a selected rule. -/
theorem emits_selectedBlock (hrule : rule ∈ rules) {block : Emission}
    (h : selectedBlock placements grid rule = .ok block)
    (hgood : rule.generator.isSome = true → ∀ cell ∈ placements.flatMap Placement.cells,
      good cell.digitReference) :
    Emits good block.text.toList ((rule.selectedNames placements grid).map String.toList)
      ((rule.selectedNames placements grid).map String.toList) := by
  unfold selectedBlock at h
  unfold Rule.selectedNames
  split at h
  next hskipped =>
    obtain rfl := Except.ok.inj h
    rw [if_pos hskipped]
    exact emits_stack (.cons_silent (.comment _) (.singleton (emits_skipped rule)))
  next hskipped =>
    obtain ⟨body, hbody, h⟩ := bind_eq_ok.1 h
    obtain rfl := Except.ok.inj h
    rw [if_neg hskipped, List.map_append]
    have hfragment : EmitsAll good (rule.fragment.toList.map Text.strip)
        (rule.declared.map String.toList) (rule.declared.map String.toList) := by
      cases hfragment : rule.fragment with
      | none => simpa [Rule.declared, hfragment] using EmitsAll.nil
      | some fragment => exact .singleton (emits_fragment hrule hfragment).1
    have hgenerated := emits_generated hrule hbody (by simpa using hgood)
    refine emits_stack (.cons_silent (.comment _) ?_)
    simpa [Emission.plain, Function.comp_def] using hfragment.append hgenerated

theorem emits_groupLine {index : Nat} {group : Group} {line : String}
    (h : groupLine rule index group = .ok line) : Emits good line.toList [] [] := by
  obtain ⟨_, text, rfl⟩ := groupLine_eq_comment h
  exact .comment _

/-- The block of a placement declares nothing. -/
theorem emits_placementBlock (hrule : rule ∈ rules) (hscope : rule.scope = .placed)
    {placement : Placement} {position : Nat} {block : Emission}
    (h : placementBlock placements grid rule position placement = .ok block)
    (hgood : rule.generator.isSome = true → ∀ cell ∈
      placement.cells ++ placements.flatMap Placement.cells, good cell.digitReference) :
    Emits good block.text.toList [] [] := by
  obtain ⟨lines, hlines, _⟩ := bind_eq_ok.1 h
  rw [placementBlock_of_lines hlines] at h
  obtain ⟨body, hbody, rfl⟩ := map_eq_ok.1 h
  have hcomments : EmitsAll good lines [] [] := by
    refine .silent fun line hline ↦ ?_
    obtain ⟨⟨group, index⟩, _, heq⟩ := exists_mem_of_mapM_eq_ok hlines hline
    exact emits_groupLine heq
  have htext : EmitsAll good (body.map Emission.text) [] [] := by
    split at hbody
    next =>
      obtain rfl := Except.ok.inj hbody
      exact .singleton (emits_skipped rule)
    next =>
      have hgenerated := emits_generated hrule hbody hgood
      rwa [total_of_placed hrule hscope] at hgenerated
  refine emits_stack ?_
  simp only [List.map_append, List.map_map, List.map_cons, Function.comp_def, Emission.plain,
    List.map_id_fun', id, List.cons_append]
  exact .cons_silent (.comment _) (hcomments.append htext)

/-- The blocks of a placement. -/
theorem emits_placementBlocks (hrule : rule ∈ rules) (hscope : rule.scope = .placed)
    {placement : Placement} (hid : placement.rule = rule.id) {position : Nat}
    {blocks : List Emission}
    (h : placementBlocks placements grid rule position placement = .ok blocks)
    (hgood : rule.generator.isSome = true → ∀ cell ∈
      placement.cells ++ placements.flatMap Placement.cells, good cell.digitReference) :
    EmitsAll good (blocks.map Emission.text)
      ((rule.placedNames placements grid position).map String.toList)
      ((rule.placedNames placements grid position).map String.toList) := by
  obtain ⟨block, hblock, h⟩ := bind_eq_ok.1 h
  obtain rfl := Except.ok.inj h
  have hown : EmitsAll good [block.text] [] [] :=
    .singleton (emits_placementBlock hrule hscope hblock hgood)
  unfold Rule.placedNames
  rw [hid]
  cases hfragment : rule.fragment with
  | none =>
    have hdeclared : rule.declared = [] := by simp [Rule.declared, hfragment]
    simpa [hdeclared] using hown
  | some fragment =>
    dsimp only
    split
    · have hshared : Emits good (sharedBlock rule fragment).text.toList
          (rule.declared.map String.toList) (rule.declared.map String.toList) :=
        emits_stack (.cons_silent (.comment _) (.singleton (emits_fragment hrule hfragment).1))
      simpa using EmitsAll.cons hshared hown
    · exact hown

end GridPuzzle
