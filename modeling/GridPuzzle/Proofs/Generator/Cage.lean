import GridPuzzle.Proofs.Catalog.Standard
import GridPuzzle.Proofs.Constraint.Meaning
import GridPuzzle.Proofs.Generator.Answer

/-!
# What cages say

The text of cages says that the digits of every cage are different and that they sum to the integer
that the value of the group denotes, if it denotes one. A value that is given and denotes no integer
adds nothing to this but a warning.
-/

namespace GridPuzzle

open Fallible

/-! ## Values -/

/-- The integer that a value denotes: an integer denotes itself, a floating-point number the integer
that it is equal to, and a text what its digits denote, white space around them aside. -/
def GroupValue.Denotes : GroupValue → Int → Prop
  | absent, _ => False
  | int m, n => m = n
  | float x, n => x.Equals n
  | text s, n => Text.Denotes (Text.trim s.toList) n

/-- The integer that is read from a value is the one that the value denotes. -/
theorem GroupValue.denotes_iff {value : GroupValue} {n? : Option Int}
    (h : value.toInt? = .ok n?) {n : Int} : value.Denotes n ↔ n? = some n := by
  cases value with
  | absent =>
    obtain rfl := Except.ok.inj h
    simp [Denotes]
  | int m =>
    obtain rfl := Except.ok.inj h
    simp [Denotes]
  | float x =>
    obtain rfl := Except.ok.inj h
    exact Double.toInt?_eq_some.symm
  | text s =>
    simp only [toInt?] at h
    split at h
    next hlooks =>
      have hread {n : Int} := @Text.readInt_strip_eq_ok s hlooks n
      split at h
      next m hm =>
        obtain rfl := Except.ok.inj h
        have hlength := (hread.1 hm).2
        calc
          Denotes (text s) n ↔ Text.readInt (Text.strip s) = .ok n :=
            (hread.trans (and_iff_left hlength)).symm
          _ ↔ some m = some n := by rw [hm, Except.ok.injEq, Option.some.injEq]
      next => simp at h
    next hlooks =>
      obtain rfl := Except.ok.inj h
      simp only [reduceCtorEq, iff_false]
      exact fun hdenotes ↦ hlooks hdenotes.looksLikeInteger

namespace Cage

variable {groups : List Group} {group : Group}

/-! ## Single cages -/

/-- The digits of a cage are different and have the sum that the value of the group denotes. -/
def IsObeyed (value : Assignment) (group : Group) : Prop :=
  (group.cells.map value).Pairwise (· ≠ ·) ∧
    ∀ n, group.value.Denotes n → (group.cells.map value).sum = n

/-- A cage with a cell of which the value is given and denotes no integer. -/
def IsIgnored (group : Group) : Prop :=
  group.cells ≠ [] ∧ group.value.isGiven = true ∧ ∀ n, ¬group.value.Denotes n

open scoped Classical in
/-- What a cage adds to the model, and whether there is a warning. -/
theorem groupDraft_demands {own : Draft} (h : groupDraft group = .ok own) :
    (∀ item ∈ own.items, item.IsReadable) ∧
      (∀ value total, Items.Hold value total own.items ↔
        (group.cells ≠ [] → IsObeyed value group)) ∧
      own.warnings = if IsIgnored group then [.totalIgnored group.value] else [] := by
  unfold groupDraft at h
  split at h
  next hempty =>
    have hcells : group.cells = [] := List.isEmpty_iff.1 hempty
    obtain rfl := Except.ok.inj h
    simp [Items.Hold, IsIgnored, hcells]
  next hempty =>
    have hcells : group.cells ≠ [] := by simpa using hempty
    obtain ⟨more, htotal, h⟩ := bind_eq_ok.1 h
    obtain rfl := Except.ok.inj h
    obtain ⟨n?, hn, htotal⟩ := bind_eq_ok.1 htotal
    have hdenotes (n : Int) := GroupValue.denotes_iff hn (n := n)
    cases n? with
    | some m =>
      obtain rfl := Except.ok.inj htotal
      have hvalue : group.value.Denotes m := (hdenotes m).2 rfl
      refine ⟨?_, fun value total ↦ ?_, (if_neg fun hignored ↦ hignored.2.2 m hvalue).symm⟩
      · simp [Item.IsReadable, Term.IsReadable, hcells]
      · simp [Items.Hold, Item.Holds, Term.eval, IsObeyed, hdenotes, hcells]
    | none =>
      have hnone (n : Int) : ¬group.value.Denotes n := by simp [hdenotes]
      cases hgiven : group.value.isGiven with
      | true =>
        obtain rfl : ⟨[ignoredTotal group.value], [.totalIgnored group.value]⟩ = more := by
          simpa [hgiven] using htotal
        refine ⟨?_, fun value total ↦ ?_, (if_pos ⟨hcells, hgiven, hnone⟩).symm⟩
        · simp [ignoredTotal, Item.IsReadable, hcells]
        · simp [ignoredTotal, Items.Hold, Item.Holds, IsObeyed, hnone, hcells]
      | false =>
        obtain rfl : ⟨[], []⟩ = more := by simpa [hgiven] using htotal
        refine ⟨?_, fun value total ↦ ?_, (if_neg fun hignored ↦ ?_).symm⟩
        · simp [Item.IsReadable, hcells]
        · simp [Items.Hold, Item.Holds, IsObeyed, hnone, hcells]
        · exact absurd hignored.2.1 (by simp [hgiven])

/-! ## Texts -/

open scoped Classical in
theorem flatMap_ite {α β : Type} (p : α → Prop) (f : α → β) (l : List α) :
    (l.filter p).map f = l.flatMap fun a ↦ if p a then [f a] else [] := by
  induction l with
  | nil => rfl
  | cons a l ih => by_cases ha : p a <;> simp [ha, ih]

open scoped Classical in
/-- The items of cages can be read, and they demand of every cage what its value demands. There is
one warning for every cage of which the value is ignored. -/
theorem draft_demands {placements : List Placement} {grid : Grid} {made : Draft}
    (h : draft groups placements grid = .ok made) :
    (∀ item ∈ made.items, item.IsReadable) ∧
      (∀ value total, Items.Hold value total made.items ↔
        ∀ group ∈ groups, group.cells ≠ [] → IsObeyed value group) ∧
      made.warnings = (groups.filter IsIgnored).map fun group ↦ .totalIgnored group.value := by
  obtain ⟨drafts, hdrafts, h⟩ := bind_eq_ok.1 h
  obtain rfl := Except.ok.inj h
  refine ⟨fun item hitem ↦ ?_, fun value total ↦ ?_, ?_⟩
  · obtain ⟨own, hown, hitem⟩ := List.mem_flatMap.1 hitem
    obtain ⟨group, _, heq⟩ := exists_mem_of_mapM_eq_ok hdrafts hown
    exact (groupDraft_demands heq).1 item hitem
  · rw [Items.hold_flatMap]
    constructor
    · intro hall group hgroup
      obtain ⟨own, hown, heq⟩ := forall_of_mapM_eq_ok hdrafts group hgroup
      exact ((groupDraft_demands heq).2.1 value total).1 (hall own hown)
    · intro hall own hown
      obtain ⟨group, hgroup, heq⟩ := exists_mem_of_mapM_eq_ok hdrafts hown
      exact ((groupDraft_demands heq).2.1 value total).2 (hall group hgroup)
  · rw [flatMap_ite]
    exact flatMap_of_mapM_eq_ok hdrafts fun group _ own hown ↦ (groupDraft_demands hown).2.2

/-- A cage of which a number is too long to be written. -/
def IsLong (group : Group) : Prop :=
  group.cells ≠ [] ∧ (group.value.toValue.isWritable = false ∨
    ∃ cell ∈ group.cells, isWritablePlace cell.row cell.col = false)

/-- Text is written of cages unless one of them is misread or a number of it is too long. -/
theorem exists_toGenerator (hmisread : ¬IsMisread groups) (hlong : ∀ group ∈ groups, ¬IsLong group)
    (placements : List Placement) (grid : Grid) :
    ∃ emission, draft.toGenerator groups placements grid = .ok emission := by
  have hvalues (group : Group) (hgroup : group ∈ groups) (hcells : group.cells ≠ []) :
      group.value.toValue.isWritable = true := by
    by_contra hvalue
    exact hlong group hgroup ⟨hcells, .inl (by simpa using hvalue)⟩
  obtain ⟨made, hdraft, hshort, _⟩ := draft_eq_ok hvalues hmisread placements grid
  have hreads : ∀ item ∈ made.items, ∀ cell ∈ item.cells, cell ∈ groups.flatMap Group.cells :=
    fun item hitem ↦ (isDemand_draft hdraft item hitem).reads
  rw [Drafter.toGenerator, hdraft]
  obtain hok | ⟨_, cell, hcell, hplace⟩ := Draft.emission_cases hreads hshort
  · exact ⟨_, hok⟩
  · obtain ⟨group, hgroup, hcell⟩ := List.mem_flatMap.1 hcell
    exact absurd ⟨List.ne_nil_of_mem hcell, .inr ⟨cell, hcell, hplace⟩⟩ (hlong group hgroup)

open scoped Classical in
/-- The text of cages says that the digits of every cage are different and sum to the integer that
the value of the group denotes. There is one warning for every cage of which the value is given and
denotes no integer, and no other. The generator fails only if a text looks like an integer and
cannot be read, or if a number is too long to be written. -/
theorem says_cages (groups : List Group) (placements : List Placement) (grid : Grid) :
    (∃ emission, draft.toGenerator groups placements grid = .ok emission ∧
      (∀ value total, Says (.ofDigits value total) emission.text ↔
        ∀ group ∈ groups, group.cells ≠ [] → (group.cells.map value).Pairwise (· ≠ ·) ∧
          ∀ n, group.value.Denotes n → (group.cells.map value).sum = n) ∧
      emission.warnings = (groups.filter IsIgnored).map fun group ↦ .totalIgnored group.value) ∨
    ∃ fault, draft.toGenerator groups placements grid = .error fault ∧
      (IsMisread groups ∨ ∃ group ∈ groups, IsLong group) := by
  cases hresult : draft.toGenerator groups placements grid with
  | ok emission =>
    obtain ⟨made, hdraft, rfl⟩ := Standard.toGenerator_eq_ok hresult
    obtain ⟨hreadable, hholds, hwarnings⟩ := draft_demands hdraft
    refine .inl ⟨_, rfl, fun value total ↦ ?_, hwarnings⟩
    rw [says_text hreadable, hholds]
    rfl
  | error fault =>
    refine .inr ⟨fault, rfl, ?_⟩
    by_contra hnot
    obtain ⟨hmisread, hlong⟩ := not_or.1 hnot
    obtain ⟨emission, hok⟩ := exists_toGenerator hmisread (by simpa using hlong) placements grid
    rw [hresult] at hok
    cases hok

end Cage

end GridPuzzle
