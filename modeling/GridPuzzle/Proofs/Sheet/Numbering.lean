import GridPuzzle.Proofs.Grid.InOrder
import GridPuzzle.Proofs.Sheet.Label

/-!
# Labels numbered in order

The labels of a block are numbered in the order in which they appear. A label that was met before
has its number again, and a new one has the number that follows the greatest one so far, so the
numbers are in order and the same labels have the same number.
-/

namespace GridPuzzle

open Fallible

namespace Block

open Grid (OpenMap)
open Grid.OpenMap (Fits Holds)

/-! ## One label -/

/-- A label as it is written, and what it is compared by. -/
def Shows (written : Value) (label : Label) : Prop :=
  ∃ content, written = labelOf content ∧ label? content = some label

theorem Shows.same_iff {a b : Value} {p q : Label} (ha : Shows a p) (hb : Shows b q) :
    a.same b = true ↔ p = q := by
  obtain ⟨c, rfl, hc⟩ := ha
  obtain ⟨d, rfl, hd⟩ := hb
  rw [labelOf_same_iff (by rw [hc]; rfl) (by rw [hd]; rfl), hc, hd, Option.some.injEq]

/-- A label has the number of its place among those met so far, or the next one if it is new. -/
theorem numberOf_cases {labels : List Value} {known : List Label} {written : Value} {label : Label}
    (hlabels : List.Forall₂ Shows labels known) (hwritten : Shows written label) :
    (∃ id, known[id]? = some label ∧ numberOf labels written = (id, labels)) ∨
      label ∉ known ∧ numberOf labels written = (known.length, labels ++ [written]) := by
  have hlength := hlabels.length_eq
  have hsame (i : Nat) (hi : i < labels.length) :
      labels[i].same written = true ↔ known[i] = label :=
    (hlabels.get hi (hlength ▸ hi)).same_iff hwritten
  unfold numberOf
  cases hfind : labels.findIdx? (·.same written) with
  | some id =>
    obtain ⟨hid, hfound, -⟩ := List.findIdx?_eq_some_iff_getElem.1 hfind
    refine .inl ⟨id, ?_, rfl⟩
    rw [List.getElem?_eq_getElem (hlength ▸ hid), (hsame id hid).1 hfound]
  | none =>
    refine .inr ⟨fun hmem ↦ ?_, by rw [hlength]⟩
    obtain ⟨i, hi, hlabel⟩ := List.getElem_of_mem hmem
    have hnot := List.findIdx?_eq_none_iff.1 hfind _ (List.getElem_mem (hlength ▸ hi))
    rw [(hsame i (hlength ▸ hi)).2 hlabel] at hnot
    cases hnot

theorem addLabel_eq {map : OpenMap} {labels : List Value} {cell : Cell} {content : Value}
    (h : (label? content).isSome = true) : addLabel (map, labels) (cell, content) =
      .ok (map.set cell (numberOf labels (labelOf content)).1,
        (numberOf labels (labelOf content)).2) := by
  cases content with
  | null | bytes | list | tuple | set | mapping | linked | link => cases h
  | _ => rfl

/-! ## All labels -/

/-- The numbers given to cells, in the order of the cells. -/
def numbersOf (placed : List (Cell × Nat)) : List Int := placed.map fun place ↦ place.2

theorem numbersOf_concat (placed : List (Cell × Nat)) (cell : Cell) (id : Nat) :
    numbersOf (placed ++ [(cell, id)]) = numbersOf placed ++ [(id : Int)] := by
  rw [numbersOf, List.map_append, List.map_singleton, numbersOf]

/-- What is known when the cells of some entries have been numbered: the labels met, in the order in
which they were, and the cells with the numbers of their labels. -/
structure IsNumbered (rows cols : Nat) (entries : List (Cell × Value))
    (state : OpenMap × List Value) (known : List Label) (placed : List (Cell × Nat)) : Prop where
  holds : Holds rows cols state.1 placed
  shows : List.Forall₂ Shows state.2 known
  distinct : known.Nodup
  agrees : List.Forall₂ (fun entry place ↦ entry.1 = place.1 ∧
    ∃ label, label? entry.2 = some label ∧ known[place.2]? = some label) entries placed
  mem_numbersOf : ∀ id, id ∈ numbersOf placed ↔ 0 ≤ id ∧ id < known.length
  inOrder : IsNumberedInOrder (numbersOf placed)

variable {rows cols : Nat} {entries : List (Cell × Value)} {state : OpenMap × List Value}
  {known : List Label} {placed : List (Cell × Nat)}

theorem IsNumbered.nil (rows cols : Nat) :
    IsNumbered rows cols [] (OpenMap.empty rows cols, []) [] [] where
  holds := Holds.empty rows cols
  shows := .nil
  distinct := .nil
  agrees := .nil
  mem_numbersOf := by simp [numbersOf]
  inOrder := isNumberedInOrder_nil

theorem IsNumbered.map_fst (h : IsNumbered rows cols entries state known placed) :
    placed.map Prod.fst = entries.map Prod.fst := by
  rw [eq_comm, ← List.forall₂_eq_eq_eq, List.forall₂_map_left_iff, List.forall₂_map_right_iff]
  exact h.agrees.imp fun _ _ hplace ↦ hplace.1

/-- The greatest number so far is the one in front of the number of labels met. -/
theorem IsNumbered.foldl_max (h : IsNumbered rows cols entries state known placed) :
    (numbersOf placed).foldl max (-1) + 1 = known.length := by
  rw [foldl_max_eq h.mem_numbersOf]
  omega

theorem IsNumbered.addLabel (h : IsNumbered rows cols entries state known placed) {cell : Cell}
    {content : Value} {label : Label} (hrow : cell.row < rows) (hcol : cell.col < cols)
    (hopen : cell ∉ entries.map Prod.fst) (hlabel : label? content = some label) :
    ∃ next knownThen placedThen, addLabel state (cell, content) = .ok next ∧
      IsNumbered rows cols (entries ++ [(cell, content)]) next knownThen placedThen := by
  obtain ⟨map, labels⟩ := state
  have hwritten : Shows (labelOf content) label := ⟨content, rfl, hlabel⟩
  have hset := h.holds.set hrow hcol (h.map_fst ▸ hopen)
  rw [addLabel_eq (by rw [hlabel]; rfl)]
  obtain ⟨id, hid, hnumber⟩ | ⟨hnew, hnumber⟩ := numberOf_cases h.shows hwritten
  · have hlt : id < known.length := (List.getElem?_eq_some_iff.1 hid).1
    refine ⟨_, known, placed ++ [(cell, id)], rfl, ?_⟩
    rw [hnumber]
    exact {
      holds := hset id
      shows := h.shows
      distinct := h.distinct
      agrees := List.rel_append h.agrees (.cons ⟨rfl, label, hlabel, hid⟩ .nil)
      mem_numbersOf := by
        intro other
        rw [numbersOf_concat, List.mem_append, List.mem_singleton, h.mem_numbersOf]
        omega
      inOrder := by
        rw [numbersOf_concat, isNumberedInOrder_concat]
        exact ⟨h.inOrder, .inl ((h.mem_numbersOf id).2 (by omega))⟩ }
  · refine ⟨_, known ++ [label], placed ++ [(cell, known.length)], rfl, ?_⟩
    rw [hnumber]
    exact {
      holds := hset known.length
      shows := List.rel_append h.shows (.cons hwritten .nil)
      distinct := List.nodup_append_comm.1 (List.nodup_cons.2 ⟨hnew, h.distinct⟩)
      agrees := by
        refine List.rel_append (h.agrees.imp ?_) (.cons ⟨rfl, label, hlabel, by simp⟩ .nil)
        rintro entry place ⟨hcell, other, hother, hget⟩
        refine ⟨hcell, other, hother, ?_⟩
        rw [List.getElem?_append_left (List.getElem?_eq_some_iff.1 hget).1, hget]
      mem_numbersOf := by
        intro other
        rw [numbersOf_concat, List.mem_append, List.mem_singleton, h.mem_numbersOf,
          List.length_append, List.length_singleton]
        omega
      inOrder := by
        rw [numbersOf_concat, isNumberedInOrder_concat]
        exact ⟨h.inOrder, .inr h.foldl_max.symm⟩ }

/-- Entries with labels, each for a cell of its own, are numbered one after the other. -/
theorem exists_isNumbered (entries : List (Cell × Value))
    (hlabels : ∀ entry ∈ entries, (label? entry.2).isSome = true)
    (hfits : Fits rows cols (entries.map Prod.fst)) : ∃ state known placed,
      entries.foldlM Block.addLabel (OpenMap.empty rows cols, []) = .ok state ∧
        IsNumbered rows cols entries state known placed := by
  -- a step of the scan adds an entry behind those that have been numbered
  induction entries using List.reverseRecOn with
  | nil => exact ⟨_, _, _, rfl, .nil rows cols⟩
  | append_singleton entries entry ih =>
    rw [List.map_append, List.map_singleton] at hfits
    obtain ⟨hnodup, hinside⟩ := hfits
    obtain ⟨hinside, hlast⟩ := List.forall_mem_append.1 hinside
    obtain ⟨hrow, hcol⟩ := hlast entry.1 (List.mem_singleton_self _)
    obtain ⟨hopen, hnodup⟩ := List.nodup_cons.1 (List.nodup_append_comm.1 hnodup)
    obtain ⟨hlabels, hlabel⟩ := List.forall_mem_append.1 hlabels
    obtain ⟨label, hlabel⟩ := Option.isSome_iff_exists.1 (hlabel entry (List.mem_singleton_self _))
    obtain ⟨state, known, placed, hstate, hnumbered⟩ := ih hlabels ⟨hnodup, hinside⟩
    obtain ⟨next, knownThen, placedThen, hnext, hthen⟩ :=
      hnumbered.addLabel hrow hcol hopen hlabel
    refine ⟨next, knownThen, placedThen, ?_, hthen⟩
    rw [List.foldlM_append, hstate, ok_bind, List.foldlM_cons, hnext]
    rfl

/-- The number of a cell is the place of its label among those met. -/
theorem IsNumbered.exists_number (h : IsNumbered rows cols entries state known placed)
    {entry : Cell × Value} (hentry : entry ∈ entries) : ∃ id label,
      (entry.1, id) ∈ placed ∧ label? entry.2 = some label ∧ known[id]? = some label := by
  obtain ⟨i, hi, rfl⟩ := List.getElem_of_mem hentry
  have hplace : i < placed.length := h.agrees.length_eq ▸ hi
  obtain ⟨hcell, label, hlabel, hknown⟩ := h.agrees.get hi hplace
  have hmem : (entries[i].1, placed[i].2) ∈ placed := by
    rw [show entries[i].1 = placed[i].1 from hcell]
    exact List.getElem_mem hplace
  exact ⟨placed[i].2, label, hmem, hlabel, hknown⟩

/-- The cells of two entries have one number just if the entries have one label. -/
theorem IsNumbered.exists_number_eq_iff (h : IsNumbered rows cols entries state known placed)
    {entry other : Cell × Value} (hentry : entry ∈ entries) (hother : other ∈ entries) :
    ∃ id otherId, (entry.1, id) ∈ placed ∧ (other.1, otherId) ∈ placed ∧
      (id = otherId ↔ label? entry.2 = label? other.2) := by
  obtain ⟨id, label, hid, hlabel, hknown⟩ := h.exists_number hentry
  obtain ⟨otherId, otherLabel, hotherId, hotherLabel, hotherKnown⟩ := h.exists_number hother
  refine ⟨id, otherId, hid, hotherId, ?_⟩
  rw [hlabel, hotherLabel, Option.some.injEq]
  constructor
  · rintro rfl
    exact Option.some.inj (hknown.symm.trans hotherKnown)
  · rintro rfl
    have hlt := (List.getElem?_eq_some_iff.1 hknown).1
    exact (List.getElem?_inj hlt h.distinct).1 (hknown.trans hotherKnown.symm)

end Block

end GridPuzzle
