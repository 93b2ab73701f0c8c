import GridPuzzle.Catalog.Standard
import GridPuzzle.Proofs.Catalog.Loading
import GridPuzzle.Proofs.Fallible
import GridPuzzle.Proofs.Ordered
import GridPuzzle.Proofs.Selection
import GridPuzzle.Service

/-!
# Compatibility

Whether a rule can be used with variable kinds depends on their families alone: all families that
the rule requires have to be among them. Queries of a catalog, the validation of a puzzle and the
listing of rules agree on this, and the filters of a listing can be combined in any way.
-/

namespace GridPuzzle

open Fallible

/-! ## Rules and their families -/

namespace Rule

theorem missingKinds_eq_nil_iff {rule : Rule} {present : List String} :
    rule.missingKinds present = [] ↔ rule.requiredKinds.map family ⊆ present.map family := by
  constructor
  · intro h f hf
    obtain ⟨required, hrequired, rfl⟩ := List.mem_map.1 hf
    by_cases hname : required ∈ present
    · exact List.mem_map_of_mem hname
    · simpa [hname] using List.filter_eq_nil_iff.1 h required hrequired
  · intro h
    refine List.filter_eq_nil_iff.2 fun required hrequired ↦ ?_
    simpa using fun _ ↦ List.mem_map.1 (h (List.mem_map_of_mem hrequired))

theorem isCompatible_iff {rule : Rule} {present : List String} :
    rule.isCompatible present = true ↔ rule.requiredKinds.map family ⊆ present.map family := by
  rw [isCompatible, List.isEmpty_iff, missingKinds_eq_nil_iff]

end Rule

namespace Catalog

variable {catalog : Catalog}

theorem mem_rules {rule : Rule} : rule ∈ catalog.rules ↔ rule ∈ catalog.entries := by
  rw [rules, List.mem_filterMap]
  constructor
  · rintro ⟨id, -, hfind⟩
    exact (mem_of_find? hfind).1
  · intro hrule
    exact ⟨rule.id, mem_ids.2 ⟨rule, hrule, rfl⟩, find?_id hrule⟩

/-- The rules stand by id in ascending order, no id twice. -/
theorem pairwise_rules (catalog : Catalog) : catalog.rules.Pairwise fun rule other ↦
    Text.isAtMost rule.id other.id = true ∧ rule.id ≠ other.id := by
  have hnodup : catalog.ids.Nodup :=
    (List.mergeSort_perm _ _).nodup_iff.2 catalog.distinct
  have hsorted : catalog.ids.Pairwise fun s t ↦ Text.isAtMost s t = true ∧ s ≠ t :=
    (pairwise_sortNames _).and hnodup
  refine List.pairwise_filterMap.2 (hsorted.imp fun {s t} hst rule hrule other hother ↦ ?_)
  rwa [(mem_of_find? hrule).2, (mem_of_find? hother).2]

theorem mem_compatible {rule : Rule} {present : List String} :
    rule ∈ catalog.compatible present ↔
      rule ∈ catalog.entries ∧ rule.requiredKinds.map family ⊆ present.map family := by
  rw [compatible, List.mem_filter, mem_rules, Rule.isCompatible_iff]

/-- More families never lose a rule, and the rules keep their order. -/
theorem compatible_sublist {present more : List String}
    (h : present.map family ⊆ more.map family) :
    (catalog.compatible present).Sublist (catalog.compatible more) := by
  refine List.monotone_filter_right _ fun rule hrule ↦ ?_
  rw [Rule.isCompatible_iff] at hrule ⊢
  exact List.Subset.trans hrule h

theorem compatible_congr {present other : List String}
    (h : ∀ s, s ∈ present.map family ↔ s ∈ other.map family) :
    catalog.compatible present = catalog.compatible other :=
  (compatible_sublist fun s hs ↦ (h s).1 hs).antisymm (compatible_sublist fun s hs ↦ (h s).2 hs)

end Catalog

/-! ## Validation -/

/-- Whether a puzzle selects or places the rule of an id. -/
def Puzzle.Uses (puzzle : Puzzle) (id : String) : Prop :=
  .text id ∈ puzzle.selected ∨ ∃ placement ∈ puzzle.placements, placement.rule = id

namespace Selection

variable {catalog : Catalog} {kinds : List VariableKind} {rule : Rule}

theorem checkRule_of_missing (h : rule.missingKinds (kinds.map VariableKind.name) ≠ []) :
    checkRule catalog kinds rule = .error (.missingKinds rule.id
      (rule.missingKinds (kinds.map VariableKind.name)) (kinds.map VariableKind.name)) := by
  have hsome : (rule.missingKinds (kinds.map VariableKind.name)).isEmpty = false := by simpa using h
  simp [checkRule, hsome]

/-- The check of a rule in use reports missing kinds only if there are some. -/
theorem missing_of_checkRule {id : String} {missing present : List String}
    (h : checkRule catalog kinds rule = .error (.missingKinds id missing present)) :
    rule.id = id ∧ rule.missingKinds (kinds.map VariableKind.name) ≠ [] := by
  obtain ⟨hsome, heq⟩ | heq | ⟨_, _, h⟩ | ⟨_, _, heq⟩ := checkRule_eq_error h
  · exact ⟨(Error.missingKinds.inj heq).1.symm, hsome⟩
  · cases heq
  · obtain ⟨heq, -⟩ | ⟨heq, -⟩ | ⟨_, _, heq⟩ := resolve_eq_error h <;> cases heq
  · cases heq

/-- A rule of the catalog passes the test of missing kinds if it is compatible with the kinds of
the puzzle. -/
theorem checkRule_missingKinds_iff (hrule : rule ∈ catalog.entries) :
    (∃ missing present,
      checkRule catalog kinds rule = .error (.missingKinds rule.id missing present)) ↔
        rule ∉ catalog.compatible (kinds.map VariableKind.name) := by
  rw [Catalog.mem_compatible, and_iff_right hrule, ← Rule.missingKinds_eq_nil_iff]
  constructor
  · rintro ⟨missing, present, herror⟩
    exact (missing_of_checkRule herror).2
  · intro hsome
    exact ⟨_, _, checkRule_of_missing hsome⟩

/-- Validation reports missing kinds only for a rule that the puzzle uses and that is not compatible
with its kinds. -/
theorem ofPuzzle_missingKinds {puzzle : Puzzle} {id : String} {missing present : List String}
    (h : ofPuzzle catalog puzzle = .error (.missingKinds id missing present)) :
    ∃ rule ∈ catalog.entries, rule.id = id ∧ puzzle.Uses id ∧
      rule ∉ catalog.compatible (puzzle.kinds.map VariableKind.name) := by
  obtain heq | ⟨grid, -, h⟩ := ofPuzzle_eq_error h
  · cases heq
  obtain h | ⟨clue, -, h⟩ | ⟨id, -, h⟩ | ⟨placement, -, position, h⟩ | ⟨rule, hrule, huses, h⟩ := h
  · cases (checkArrays_eq_error h).2
  · obtain ⟨heq, -⟩ | heq | ⟨-, heq⟩ | ⟨_, heq⟩ := checkClue_eq_error h <;> cases heq
  · obtain ⟨heq, -⟩ | ⟨heq, -⟩ | ⟨_, _, heq⟩ := resolve_eq_error h <;> cases heq
  · obtain h | ⟨_, _, -, heq⟩ := resolvePlacement_eq_error h
    · obtain ⟨heq, -⟩ | ⟨heq, -⟩ | ⟨_, _, heq⟩ := resolve_eq_error h <;> cases heq
    · cases heq
  · obtain ⟨rfl, hsome⟩ := missing_of_checkRule h
    exact ⟨rule, hrule, rfl, huses,
      (checkRule_missingKinds_iff hrule).1 ⟨_, _, checkRule_of_missing hsome⟩⟩

/-- The rule of every id that an accepted puzzle uses is in use. -/
theorem Accepted.exists_of_uses {puzzle : Puzzle} {grid : Grid} {selection : Selection}
    (h : Accepted catalog puzzle grid selection) {id : String} (huses : puzzle.Uses id) :
    ∃ rule ∈ selection, rule.id = id := by
  obtain hid | ⟨placement, hplacement, rfl⟩ := huses
  · obtain ⟨rule, hrule, heq, -⟩ := h.selected _ hid
    exact ⟨rule, hrule, (Value.text.inj heq).symm⟩
  · obtain ⟨rule, hrule, heq, -⟩ := h.placed placement hplacement
    exact ⟨rule, hrule, heq.symm⟩

end Selection

/-! ## The listing -/

namespace Service

namespace RuleFilter

/-- The filter of a request in which every part may be left out. -/
def ofNames (scope category : Option String) (kinds : Option (List String)) : RuleFilter where
  scope := scope.elim .null .text
  category := category.elim .null .text
  kinds := kinds.elim .null .texts

variable {catalog : Catalog} {scope category : Option String} {kinds : Option (List String)}
  {rule : Rule}

theorem passesScope_ofNames (hrule : rule ∈ catalog.rules) :
    (ofNames scope category kinds).passesScope rule = true ↔
      ∀ s ∈ scope, rule ∈ catalog.byScope (.text s) := by
  cases scope with
  | none => simp [ofNames, passesScope]
  | some s => simp [ofNames, passesScope, Catalog.byScope, hrule]

theorem passesCategory_ofNames (hrule : rule ∈ catalog.rules) :
    (ofNames scope category kinds).passesCategory rule = true ↔
      ∀ s ∈ category, rule ∈ catalog.byCategory (.text s) := by
  cases category with
  | none => simp [ofNames, passesCategory]
  | some s => simp [ofNames, passesCategory, Catalog.byCategory, hrule]

theorem readKinds_texts (names : List String) :
    (readItems (.texts names) >>= Catalog.readKinds) = .ok names := by
  have hitems : readItems (.texts names) = .ok (names.map .text) := rfl
  rw [hitems, ok_bind, Catalog.readKinds, mapM_eq_ok, List.forall₂_map_left_iff, List.forall₂_same]
  exact fun s _ ↦ rfl

theorem keepCompatible_ofNames (rules : List Rule) :
    (ofNames scope category kinds).keepCompatible rules =
      .ok (rules.filter fun rule ↦ kinds.all rule.isCompatible) := by
  cases kinds with
  | none => simp [ofNames, keepCompatible]
  | some names =>
    cases rules with
    | nil => rfl
    | cons rule rules =>
      have hkinds : (do return (rule :: rules).filter (·.isCompatible
          (← Catalog.readKinds (← readItems (.texts names)))) : Except Error (List Rule)) =
            .ok ((rule :: rules).filter (·.isCompatible names)) := by
        rw [← bind_assoc, readKinds_texts, ok_bind, pure_eq_ok]
      exact hkinds

end RuleFilter

/-- The listing shows the rules that pass the filter, in the order of the catalog. -/
theorem rules_ofNames (catalog : Catalog) (scope category : Option String)
    (kinds : Option (List String)) : rules catalog (.ofNames scope category kinds) =
      .ok (catalog.rules.filter fun rule ↦ kinds.all rule.isCompatible &&
        ((RuleFilter.ofNames scope category kinds).passesScope rule &&
          (RuleFilter.ofNames scope category kinds).passesCategory rule)) := by
  rw [rules, RuleFilter.keepCompatible_ofNames, List.filter_filter]

/-- A rule is listed if every query that the filter stands for finds it. -/
theorem exists_rules_ofNames (catalog : Catalog) (scope category : Option String)
    (kinds : Option (List String)) :
    ∃ found, rules catalog (.ofNames scope category kinds) = .ok found ∧
      found.Sublist catalog.rules ∧
      ∀ rule, rule ∈ found ↔ rule ∈ catalog.rules ∧
        (∀ s ∈ scope, rule ∈ catalog.byScope (.text s)) ∧
        (∀ s ∈ category, rule ∈ catalog.byCategory (.text s)) ∧
        ∀ names ∈ kinds, rule ∈ catalog.compatible names := by
  refine ⟨_, rules_ofNames catalog scope category kinds, List.filter_sublist, fun rule ↦ ?_⟩
  rw [List.mem_filter, and_congr_right_iff]
  intro hrule
  have hkinds : kinds.all rule.isCompatible = true ↔
      ∀ names ∈ kinds, rule ∈ catalog.compatible names := by
    cases kinds with
    | none => simp
    | some names => simp [Catalog.compatible, hrule]
  rw [Bool.and_eq_true, Bool.and_eq_true, hkinds, RuleFilter.passesScope_ofNames hrule,
    RuleFilter.passesCategory_ofNames hrule]
  tauto

end Service

/-- The ids of the standard catalog ascend strictly. -/
theorem Catalog.pairwise_standard : Catalog.standard.rules.Pairwise fun rule other ↦
    Text.codePoints rule.id < Text.codePoints other.id := by
  have hdistinct : ∀ rule ∈ Standard.rules, ∀ other ∈ Standard.rules,
      Text.codePoints rule.id = Text.codePoints other.id → rule.id = other.id := by
    decide
  have hpairwise := Catalog.standard.pairwise_rules
  refine hpairwise.imp_of_mem fun {rule other} hrule hother hboth ↦ lt_of_le_of_ne ?_ ?_
  · exact Text.isAtMost_iff.1 hboth.1
  · exact fun heq ↦ hboth.2 (hdistinct rule (Catalog.mem_rules.1 hrule) other
      (Catalog.mem_rules.1 hother) heq)

/-- Kinds are missing just if a required family is. So more kinds lose no rule of a catalog, and the
families alone matter. Validation faults a rule for its kinds if it is not among the compatible ones
of the catalog, accepts only puzzles of which every id that is used is that of such a rule, and
reports missing kinds only for a rule in use. A listing of the standard catalog shows, by id in
strict order, just the rules that the queries for the given type, category and kinds have in
common. -/
theorem compatibility_of_families :
    (∀ (rule : Rule) (present : List String),
      rule.missingKinds present = [] ↔ rule.requiredKinds.map family ⊆ present.map family) ∧
    (∀ (catalog : Catalog) (present more : List String),
      (∀ rule, rule ∈ catalog.compatible present ↔
        rule ∈ catalog.entries ∧ rule.missingKinds present = []) ∧
      (present ⊆ more → (catalog.compatible present).Sublist (catalog.compatible more)) ∧
      ((∀ s, s ∈ present.map family ↔ s ∈ more.map family) →
        catalog.compatible present = catalog.compatible more)) ∧
    (∀ (catalog : Catalog) (puzzle : Puzzle),
      (∀ rule ∈ catalog.entries,
        (∃ missing present, Selection.checkRule catalog puzzle.kinds rule =
          .error (.missingKinds rule.id missing present)) ↔
            rule ∉ catalog.compatible (puzzle.kinds.map VariableKind.name)) ∧
      (∀ grid selection, Selection.ofPuzzle catalog puzzle = .ok (grid, selection) →
        selection ⊆ catalog.compatible (puzzle.kinds.map VariableKind.name) ∧
          ∀ id, puzzle.Uses id → ∃ rule ∈ selection, rule.id = id) ∧
      ∀ id missing present,
        Selection.ofPuzzle catalog puzzle = .error (.missingKinds id missing present) →
          ∃ rule ∈ catalog.entries, rule.id = id ∧ puzzle.Uses id ∧
            rule ∉ catalog.compatible (puzzle.kinds.map VariableKind.name)) ∧
    ∀ (scope category : Option String) (kinds : Option (List String)),
      ∃ found : List Rule, Service.listRules Catalog.standard (.ofNames scope category kinds) =
          .ok (.content (.list (found.map Service.summary))) ∧
        (found.Pairwise fun rule other ↦ Text.codePoints rule.id < Text.codePoints other.id) ∧
        ∀ rule, rule ∈ found ↔ rule ∈ Catalog.standard.rules ∧
          (∀ s ∈ scope, rule ∈ Catalog.standard.byScope (.text s)) ∧
          (∀ s ∈ category, rule ∈ Catalog.standard.byCategory (.text s)) ∧
          ∀ names ∈ kinds, rule ∈ Catalog.standard.compatible names := by
  refine ⟨fun rule present ↦ Rule.missingKinds_eq_nil_iff, fun catalog present more ↦ ⟨?_, ?_, ?_⟩,
    fun catalog puzzle ↦ ⟨?_, ?_, ?_⟩, fun scope category kinds ↦ ?_⟩
  · intro rule
    rw [Catalog.mem_compatible, Rule.missingKinds_eq_nil_iff]
  · exact fun h ↦ Catalog.compatible_sublist (List.map_subset family h)
  · exact Catalog.compatible_congr
  · exact fun rule hrule ↦ Selection.checkRule_missingKinds_iff hrule
  · intro grid selection h
    have haccepted := Selection.ofPuzzle_eq_ok h
    refine ⟨fun rule hrule ↦ ?_, fun id ↦ haccepted.exists_of_uses⟩
    have hmissing := (Selection.checkRule_eq_ok (haccepted.fits rule hrule)).1
    exact Catalog.mem_compatible.2
      ⟨haccepted.known rule hrule, Rule.missingKinds_eq_nil_iff.1 hmissing⟩
  · exact fun id missing present h ↦ Selection.ofPuzzle_missingKinds h
  · obtain ⟨found, hfound, hsub, hmem⟩ :=
      Service.exists_rules_ofNames Catalog.standard scope category kinds
    refine ⟨found, ?_, Catalog.pairwise_standard.sublist hsub, hmem⟩
    rw [Service.listRules, hfound, ok_bind, pure_eq_ok]

/-- A kind of the same family meets what a rule requires; a rule that requires another family, too,
is not found, neither by the catalog nor in a listing. -/
theorem compatibility_shading :
    Standard.noAdjacentShading.missingKinds ["shading-left"] = [] ∧
    Standard.evenShaded.missingKinds ["shading-left"] ≠ [] ∧
    Standard.noAdjacentShading ∈ Catalog.standard.compatible ["shading-left"] ∧
    ∃ found : List Rule, Service.listRules Catalog.standard
        (.ofNames none (some "shading") (some ["shading-left"])) =
          .ok (.content (.list (found.map Service.summary))) ∧
      Standard.evenShaded ∉ found := by
  obtain ⟨hrule, hcatalog, -, hlisting⟩ := compatibility_of_families
  have hmet : Standard.noAdjacentShading.missingKinds ["shading-left"] = [] :=
    (hrule _ _).2 (by decide)
  have hunmet : Standard.evenShaded.missingKinds ["shading-left"] ≠ [] :=
    fun h ↦ absurd ((hrule _ _).1 h) (by decide)
  have hcompatible (rule : Rule) := (hcatalog Catalog.standard ["shading-left"] []).1 rule
  obtain ⟨found, hfound, -, hmem⟩ := hlisting none (some "shading") (some ["shading-left"])
  refine ⟨hmet, hunmet, (hcompatible _).2 ⟨by simp [Catalog.standard, Standard.rules], hmet⟩,
    found, hfound, fun h ↦ ?_⟩
  exact hunmet ((hcompatible _).1 (((hmem _).1 h).2.2.2 _ rfl)).2

end GridPuzzle
