import GridPuzzle.Compile.Assembly
import GridPuzzle.Proofs.Selection
import GridPuzzle.Proofs.VariableKind

/-!
# The calls of generators

Compiling a puzzle that has passed validation calls generators in the order of the document: those
of the selected rules without groups, then those of the placed rules with the groups of every
placement. No generator is called for a rule that is skipped. What is compiled is a function of the
answers taken in this order, so the first call that fails decides the outcome, and the answers to
later calls do not matter. Nothing else fails before the finished document is checked, unless the
puzzle has a number too long to be written or a row too long to be counted.
-/

namespace GridPuzzle

open Fallible

/-- A call of a rule's generator, the placements being counted from one. -/
structure GeneratorCall where
  rule : String
  generator : Generator
  groups : List Group
  position : Option Nat

/-- Other generators for the rules of a catalog, from their ids and their own generators. -/
abbrev Replacement := String → Generator → Generator

namespace GeneratorCall

def answer (placements : List Placement) (grid : Grid) (call : GeneratorCall) :
    Except Fault Emission := call.generator call.groups placements grid

/-- What a call means for the puzzle: its text, or the failure that names the call. -/
def outcome (placements : List Placement) (grid : Grid) (call : GeneratorCall) :
    Except Error Emission :=
  match call.answer placements grid with
  | .ok emission => .ok emission
  | .error fault => .error (.generatorFailed call.rule call.position fault.reason)

def replace (f : Replacement) (call : GeneratorCall) : GeneratorCall :=
  { call with generator := f call.rule call.generator }

/-- The calls that are made: all up to the first that fails. -/
def made (placements : List Placement) (grid : Grid) : List GeneratorCall → List GeneratorCall
  | [] => []
  | call :: rest =>
    match call.answer placements grid with
    | .ok _ => call :: made placements grid rest
    | .error _ => [call]

end GeneratorCall

/-- The call of a rule's generator for groups, if the rule has one and is not skipped. -/
def Rule.calls (rule : Rule) (grid : Grid) (groups : List Group) (position : Option Nat) :
    List GeneratorCall :=
  if rule.isSkipped grid then []
  else rule.generator.toList.map fun generator ↦ ⟨rule.id, generator, groups, position⟩

/-- A use of a rule: its id in the words of the puzzle, and the groups it is used for. -/
structure RuleUse where
  id : Value
  groups : List Group
  position : Option Nat

namespace Puzzle

/-- The uses of rules for the whole grid, which have no groups. -/
def selectedUses (puzzle : Puzzle) : List RuleUse :=
  puzzle.selected.map fun id ↦ ⟨id, [], none⟩

/-- The uses of rules for placements, which are counted from one. -/
def placedUses (puzzle : Puzzle) : List RuleUse :=
  (puzzle.placements.zipIdx 1).map fun (placement, position) ↦
    ⟨.text placement.rule, placement.groups, some position⟩

/-- The uses of rules in the order of the document. -/
def ruleUses (puzzle : Puzzle) : List RuleUse := puzzle.selectedUses ++ puzzle.placedUses

theorem mem_ruleUses {puzzle : Puzzle} {use : RuleUse} : use ∈ puzzle.ruleUses ↔
    (∃ id ∈ puzzle.selected, use = ⟨id, [], none⟩) ∨
      ∃ placement position, (placement, position) ∈ puzzle.placements.zipIdx 1 ∧
        use = ⟨.text placement.rule, placement.groups, some position⟩ := by
  simp only [ruleUses, selectedUses, placedUses, List.mem_append, List.mem_map, Prod.exists,
    eq_comm]

end Puzzle

/-- The calls for a use of a rule, which the catalog has to have. -/
def RuleUse.calls (catalog : Catalog) (grid : Grid) (use : RuleUse) :
    Except Error (List GeneratorCall) :=
  (catalog.get use.id).map fun rule ↦ rule.calls grid use.groups use.position

/-- The calls for a puzzle in the order of its document. -/
def generatorCalls (catalog : Catalog) (puzzle : Puzzle) (grid : Grid) :
    Except Error (List GeneratorCall) :=
  (puzzle.ruleUses.mapM (RuleUse.calls catalog grid)).map List.flatten

/-- The rule of every use is in use, and the catalog has it. -/
theorem Selection.Accepted.exists_get {catalog : Catalog} {puzzle : Puzzle} {grid : Grid}
    {selection : Selection} (h : Accepted catalog puzzle grid selection) {use : RuleUse}
    (huse : use ∈ puzzle.ruleUses) :
    ∃ rule ∈ selection, selection.get use.id = .ok rule ∧ catalog.get use.id = .ok rule := by
  obtain ⟨id, hid, rfl⟩ | ⟨placement, position, hplaced, rfl⟩ := Puzzle.mem_ruleUses.1 huse
  · obtain ⟨rule, hrule, rfl, _⟩ := h.selected id hid
    exact ⟨rule, hrule, h.get_id hrule⟩
  · obtain ⟨rule, hrule, hid, _⟩ := h.placed placement (List.fst_mem_of_mem_zipIdx hplaced)
    rw [hid]
    exact ⟨rule, hrule, h.get_id hrule⟩

def GeneratorCall.use (call : GeneratorCall) : RuleUse :=
  ⟨.text call.rule, call.groups, call.position⟩

/-- The calls of a rule for groups. -/
theorem mem_calls {rule : Rule} {grid : Grid} {groups : List Group} {position : Option Nat}
    {call : GeneratorCall} (h : call ∈ rule.calls grid groups position) :
    rule.generator = some call.generator ∧ call.use = ⟨.text rule.id, groups, position⟩ := by
  unfold Rule.calls at h
  split at h
  · cases h
  · obtain ⟨generator, hgenerator, rfl⟩ := List.mem_map.1 h
    exact ⟨Option.mem_toList.1 hgenerator, rfl⟩

section Calls

variable {catalog : Catalog} {puzzle : Puzzle} {grid : Grid} {calls : List GeneratorCall}

theorem mem_generatorCalls (h : generatorCalls catalog puzzle grid = .ok calls)
    {call : GeneratorCall} : call ∈ calls ↔ ∃ use ∈ puzzle.ruleUses, ∃ rule,
      catalog.get use.id = .ok rule ∧ call ∈ rule.calls grid use.groups use.position := by
  obtain ⟨parts, hparts, rfl⟩ := map_eq_ok.1 h
  constructor
  · intro hcall
    obtain ⟨use, huse, own, hown, hmem⟩ := exists_mem_of_mem_flatten hparts hcall
    obtain ⟨rule, hrule, rfl⟩ := map_eq_ok.1 hown
    exact ⟨use, huse, rule, hrule, hmem⟩
  · rintro ⟨use, huse, rule, hrule, hmem⟩
    obtain ⟨own, hown, hmade⟩ := forall_of_mapM_eq_ok hparts use huse
    obtain ⟨found, hfound, rfl⟩ := map_eq_ok.1 hmade
    obtain rfl : found = rule := Except.ok.inj (hfound.symm.trans hrule)
    exact List.mem_flatten.2 ⟨_, hown, hmem⟩

/-- A call for a use of a rule that the catalog has is for this use. -/
theorem use_of_mem_calls {use : RuleUse} {rule : Rule} (hget : catalog.get use.id = .ok rule)
    {call : GeneratorCall} (h : call ∈ rule.calls grid use.groups use.position) :
    rule ∈ catalog.entries ∧ rule.generator = some call.generator ∧ call.use = use := by
  obtain ⟨s, hs, hfind⟩ := Catalog.get_eq_ok.1 hget
  obtain ⟨hrule, rfl⟩ := Catalog.mem_of_find? hfind
  obtain ⟨hgenerator, huse⟩ := mem_calls h
  exact ⟨hrule, hgenerator, by rw [huse, ← hs]⟩

/-- The calls for a use of a rule come behind those for earlier uses. -/
theorem generatorCalls_split (h : generatorCalls catalog puzzle grid = .ok calls)
    {before after : List RuleUse} {use : RuleUse} (huses : puzzle.ruleUses = before ++ use :: after)
    {rule : Rule} (hget : catalog.get use.id = .ok rule) :
    ∃ first rest, calls = first ++ rule.calls grid use.groups use.position ++ rest ∧
      ∀ call ∈ first, call.use ∈ before := by
  obtain ⟨parts, hparts, rfl⟩ := map_eq_ok.1 h
  rw [huses] at hparts
  obtain ⟨first, own, rest, hfirst, hown, rfl⟩ := mapM_append_cons_eq_ok hparts
  obtain ⟨found, hfound, rfl⟩ := map_eq_ok.1 hown
  obtain rfl : found = rule := Except.ok.inj (hfound.symm.trans hget)
  refine ⟨first.flatten, rest.flatten, by simp, fun call hcall ↦ ?_⟩
  obtain ⟨earlier, hearlier, calls, hcalls, hmem⟩ := exists_mem_of_mem_flatten hfirst hcall
  obtain ⟨other, hother, rfl⟩ := map_eq_ok.1 hcalls
  rwa [(use_of_mem_calls hother hmem).2.2]

end Calls

/-! ## Other generators -/

def Rule.replace (f : Replacement) (rule : Rule) : Rule :=
  { rule with generator := rule.generator.map (f rule.id) }

def Catalog.replace (f : Replacement) (catalog : Catalog) : Catalog where
  entries := catalog.entries.map (Rule.replace f)
  distinct := by
    have hids : (catalog.entries.map (Rule.replace f)).map Rule.id =
        catalog.entries.map Rule.id := by
      rw [List.map_map]
      rfl
    rw [hids]
    exact catalog.distinct

namespace Rule

@[simp] theorem replace_id (f : Replacement) (rule : Rule) : (rule.replace f).id = rule.id := rfl

theorem replace_self (rule : Rule) : rule.replace (fun _ generator ↦ generator) = rule := by
  simp [replace]

theorem isEmittable_replace (f : Replacement) (rule : Rule) :
    (rule.replace f).isEmittable = rule.isEmittable := by
  cases h : rule.generator <;> simp [isEmittable, capabilities, replace, h]

end Rule

namespace Catalog

theorem find?_replace (f : Replacement) (catalog : Catalog) (id : String) :
    (catalog.replace f).find? id = (catalog.find? id).map (Rule.replace f) := by
  unfold find? replace
  rw [List.find?_map]
  rfl

theorem get_replace (f : Replacement) (catalog : Catalog) (id : Value) :
    (catalog.replace f).get id = (catalog.get id).map (Rule.replace f) := by
  have hids : (catalog.replace f).ids = catalog.ids := by
    unfold ids replace
    rw [List.map_map]
    rfl
  unfold get
  rw [hids]
  split
  next s =>
    rw [find?_replace]
    cases catalog.find? s <;> rfl
  next => split <;> rfl

end Catalog

namespace Selection

theorem map_replace_self (selection : Selection) :
    selection.map (Rule.replace fun _ generator ↦ generator) = selection := by
  have hself : (Rule.replace fun _ generator ↦ generator) = id := funext Rule.replace_self
  rw [hself, List.map_id]

theorem find?_map_replace (f : Replacement) (selection : Selection) (id : Value) :
    find? (selection.map (Rule.replace f)) id = (selection.find? id).map (Rule.replace f) := by
  unfold find?
  rw [List.find?_map]
  rfl

theorem get_map_replace (f : Replacement) (selection : Selection) (id : Value) :
    get (selection.map (Rule.replace f)) id = (selection.get id).map (Rule.replace f) := by
  unfold get
  rw [find?_map_replace]
  cases selection.find? id <;> rfl

theorem add_replace (f : Replacement) (selection : Selection) (rule : Rule) :
    add (selection.map (Rule.replace f)) (rule.replace f) =
      (selection.add rule).map (Rule.replace f) := by
  unfold add
  rw [List.any_map]
  have hany : selection.any ((fun other ↦ other.id == (rule.replace f).id) ∘ Rule.replace f) =
      selection.any (·.id == rule.id) := rfl
  rw [hany]
  split <;> simp

theorem resolve_replace (f : Replacement) (catalog : Catalog) (reference : Reference)
    (scope : Scope) (id : Value) : resolve (catalog.replace f) reference scope id =
      (resolve catalog reference scope id).map (Rule.replace f) := by
  unfold resolve
  rw [Catalog.get_replace]
  cases catalog.get id with
  | error e => rfl
  | ok rule =>
    have hscope : (rule.replace f).scope = rule.scope := rfl
    by_cases h : rule.scope = scope <;> simp [Except.map, hscope, h]

/-- Rules resolved otherwise and added one by one are the rules added, each replaced. -/
theorem foldlM_add_replace {α : Type} (f : Replacement) (source other : α → Except Error Rule)
    (h : ∀ x, other x = (source x).map (Rule.replace f)) (l : List α) (start : Selection) :
    l.foldlM (fun selection : Selection ↦ fun x ↦ (other x).map selection.add)
        (start.map (Rule.replace f)) =
      (l.foldlM (fun selection : Selection ↦ fun x ↦ (source x).map selection.add) start).map
        (List.map (Rule.replace f)) := by
  induction l generalizing start with
  | nil => rfl
  | cons x l ih =>
    rw [List.foldlM_cons, List.foldlM_cons, h]
    cases source x with
    | error e => rfl
    | ok rule =>
      have hadd := add_replace f start rule
      simp only [Except.map, ok_bind, hadd]
      exact ih (start.add rule)

theorem resolvePlacement_replace (f : Replacement) (catalog : Catalog) (grid : Grid)
    (position : Nat) (placement : Placement) :
    resolvePlacement (catalog.replace f) grid position placement =
      (resolvePlacement catalog grid position placement).map (Rule.replace f) := by
  unfold resolvePlacement
  rw [resolve_replace]
  cases resolve catalog (.placement position) .placed (.text placement.rule) with
  | error e => rfl
  | ok rule =>
    simp only [Except.map, ok_bind, pure_eq_ok]
    cases placement.cells.forM (grid.checkCell (.numbered position placement.rule)) <;> rfl

theorem checkRule_replace (f : Replacement) (catalog : Catalog) (kinds : List VariableKind)
    (rule : Rule) : checkRule (catalog.replace f) kinds (rule.replace f) =
      checkRule catalog kinds rule := by
  have hdependency (dependency : String) :
      ((resolve (catalog.replace f) (.dependency rule.id) .placed (.text dependency)).map
        fun _ ↦ ()) =
      (resolve catalog (.dependency rule.id) .placed (.text dependency)).map fun _ ↦ () := by
    rw [resolve_replace]
    cases resolve catalog (.dependency rule.id) .placed (.text dependency) <;> rfl
  have hmissing (names : List String) : (rule.replace f).missingKinds names =
      rule.missingKinds names := rfl
  have hconsumes : (rule.replace f).consumes = rule.consumes := rfl
  have hnames : checkNames kinds (rule.replace f) = checkNames kinds rule := rfl
  unfold checkRule
  simp only [hmissing, hconsumes, hnames, Rule.isEmittable_replace, Rule.replace_id, hdependency]

/-- Validation does not look at generators. -/
theorem ofPuzzle_replace (f : Replacement) {catalog : Catalog} {puzzle : Puzzle} {grid : Grid}
    {selection : Selection} (h : ofPuzzle catalog puzzle = .ok (grid, selection)) :
    ofPuzzle (catalog.replace f) puzzle = .ok (grid, selection.map (Rule.replace f)) := by
  obtain ⟨hgrid, harrays, hclues, chosen, hchosen, hall, hfits⟩ := checks_of_ofPuzzle h
  have hchosen' : resolveSelected (catalog.replace f) [] puzzle.selected =
      .ok (chosen.map (Rule.replace f)) := by
    have heq := foldlM_add_replace f (resolve catalog .selection .wholeGrid) _
      (resolve_replace f catalog .selection .wholeGrid) puzzle.selected []
    unfold resolveSelected at hchosen ⊢
    rw [hchosen] at heq
    exact heq
  have hall' : resolvePlacements (catalog.replace f) grid (chosen.map (Rule.replace f))
      puzzle.placements = .ok (selection.map (Rule.replace f)) := by
    have heq := foldlM_add_replace f
      (fun x : Placement × Nat ↦ resolvePlacement catalog grid x.2 x.1) _
      (fun x ↦ resolvePlacement_replace f catalog grid x.2 x.1) (puzzle.placements.zipIdx 1) chosen
    unfold resolvePlacements at hall ⊢
    rw [hall] at heq
    exact heq
  refine ofPuzzle_of_checks hgrid harrays hclues hchosen' hall' (forM_eq_ok.2 fun rule hrule ↦ ?_)
  obtain ⟨own, hown, rfl⟩ := List.mem_map.1 hrule
  rw [checkRule_replace]
  exact forM_eq_ok.1 hfits own hown

end Selection

end GridPuzzle
