import GridPuzzle.Catalog.Basic
import Mathlib

/-!
# Ordered lists without repetition

Names and numbers are listed in ascending order, each of them once. There is one such list of given
members, so whatever has these members in this order is that list.
-/

namespace GridPuzzle

section Reps

variable {α : Type} [BEq α]

theorem eraseRepsBy_loop (a : α) (l acc : List α) :
    List.eraseRepsBy.loop (· == ·) a l acc = acc.reverse ++ (a :: l).eraseReps := by
  induction l generalizing a acc with
  | nil => simp [List.eraseRepsBy.loop, List.eraseReps, List.eraseRepsBy]
  | cons b l ih =>
    change List.eraseRepsBy.loop (· == ·) a (b :: l) acc =
      acc.reverse ++ List.eraseRepsBy.loop (· == ·) a (b :: l) []
    unfold List.eraseRepsBy.loop
    split
    · rw [ih a acc, ih a []]
      simp
    · rw [ih b (a :: acc), ih b [a]]
      simp

/-- Of two equal neighbours one is kept. -/
theorem eraseReps_cons_cons (a b : α) (l : List α) :
    (a :: b :: l).eraseReps = if a == b then (a :: l).eraseReps else a :: (b :: l).eraseReps := by
  change List.eraseRepsBy.loop (· == ·) a (b :: l) [] = _
  unfold List.eraseRepsBy.loop
  split
  next h => rw [eraseRepsBy_loop, if_pos h]; rfl
  next h => rw [eraseRepsBy_loop, if_neg (by simpa using h)]; rfl

theorem mem_eraseReps [LawfulBEq α] {c : α} {l : List α} : c ∈ l.eraseReps ↔ c ∈ l := by
  cases l with
  | nil => rfl
  | cons a l =>
    induction l generalizing a with
    | nil => rfl
    | cons b l ih =>
      rw [eraseReps_cons_cons]
      split
      next h =>
        obtain rfl := eq_of_beq h
        rw [ih]
        simp
      next => simp only [List.mem_cons, ih]

/-- In an ordered list equal members are neighbours, so that all are distinct in the end. -/
theorem pairwise_eraseReps [LawfulBEq α] {r : α → α → Prop} {l : List α} (hl : l.Pairwise r)
    (hanti : ∀ a ∈ l, ∀ b ∈ l, r a b → r b a → a = b) :
    l.eraseReps.Pairwise fun a b ↦ r a b ∧ a ≠ b := by
  cases l with
  | nil => exact .nil
  | cons a l =>
    induction l generalizing a with
    | nil => exact List.pairwise_singleton _ a
    | cons b l ih =>
      have hsub : (a :: l).Sublist (a :: b :: l) := (List.sublist_cons_self b l).cons_cons a
      obtain ⟨hhead, htail⟩ := List.pairwise_cons.1 hl
      rw [eraseReps_cons_cons]
      split
      · exact ih a (hl.sublist hsub) fun c hc d hd ↦ hanti c (hsub.subset hc) d (hsub.subset hd)
      next hne =>
        refine List.pairwise_cons.2 ⟨fun c hc ↦ ?_, ih b htail fun c hc d hd ↦
          hanti c (List.mem_cons_of_mem a hc) d (List.mem_cons_of_mem a hd)⟩
        rw [mem_eraseReps] at hc
        refine ⟨hhead c hc, ?_⟩
        rintro rfl
        obtain rfl | hc := List.mem_cons.1 hc
        · simp at hne
        -- the same member behind `b` is above it and below it
        · have hback := (List.pairwise_cons.1 htail).1 a hc
          have heq := hanti a List.mem_cons_self b (by simp) (hhead b List.mem_cons_self) hback
          simp [heq] at hne

/-- There is one way in which members can stand in strict order. -/
theorem eraseReps_eq [LawfulBEq α] {r : α → α → Prop} {l ordered : List α} (hl : l.Pairwise r)
    (hordered : ordered.Pairwise fun a b ↦ r a b ∧ a ≠ b)
    (hanti : ∀ a ∈ ordered, ∀ b ∈ ordered, r a b → r b a → a = b)
    (hmem : ∀ a, a ∈ l ↔ a ∈ ordered) : l.eraseReps = ordered := by
  have hsorted := pairwise_eraseReps hl fun a ha b hb ↦ hanti a ((hmem a).1 ha) b ((hmem b).1 hb)
  have hsame (a : α) : a ∈ l.eraseReps ↔ a ∈ ordered := mem_eraseReps.trans (hmem a)
  have hperm : l.eraseReps.Perm ordered :=
    (List.perm_ext_iff_of_nodup (hsorted.imp And.right) (hordered.imp And.right)).2 hsame
  exact hperm.eq_of_pairwise (fun a b ha hb hab hba ↦
    hanti a ((hsame a).1 ha) b hb hab.1 hba.1) hsorted hordered

end Reps

/-! ## Names -/

theorem Text.isAtMost_iff {s t : String} :
    isAtMost s t = true ↔ codePoints s ≤ codePoints t := by
  simp [isAtMost]

theorem mem_sortNames {s : String} {names : List String} : s ∈ sortNames names ↔ s ∈ names :=
  List.mem_mergeSort

theorem mem_sortedNames {s : String} {names : List String} : s ∈ sortedNames names ↔ s ∈ names :=
  mem_eraseReps.trans mem_sortNames

theorem pairwise_sortNames (names : List String) :
    (sortNames names).Pairwise fun s t ↦ Text.isAtMost s t = true := by
  refine List.pairwise_mergeSort (fun s t u hst htu ↦ ?_) (fun s t ↦ ?_) names
  · rw [Text.isAtMost_iff] at hst htu ⊢
    exact hst.trans htu
  · rw [Bool.or_eq_true, Text.isAtMost_iff, Text.isAtMost_iff]
    exact le_total _ _

/-! ## Numbers -/

theorem mem_sortedDistinct {id : Int} {ids : List Int} : id ∈ sortedDistinct ids ↔ id ∈ ids :=
  mem_eraseReps.trans List.mem_mergeSort

theorem pairwise_sortIds (ids : List Int) :
    (ids.mergeSort fun a b ↦ decide (a ≤ b)).Pairwise (· ≤ ·) := by
  have hpairwise := @List.pairwise_mergeSort _ (fun a b : Int ↦ decide (a ≤ b))
    (fun a b c ↦ by simpa using Int.le_trans) (fun a b ↦ by simpa using Int.le_total a b) ids
  simpa using hpairwise

theorem nodup_sortedDistinct (ids : List Int) : (sortedDistinct ids).Nodup :=
  (pairwise_eraseReps (pairwise_sortIds ids) fun _ _ _ _ ↦ Int.le_antisymm).imp And.right

/-- Numbers that are all those from zero up to a bound, in any order, are dense. -/
theorem isDense_of_mem {ids : List Int} {n : Nat} (h : ∀ id, id ∈ ids ↔ 0 ≤ id ∧ id < n) :
    IsDense ids := by
  have hrange : sortedDistinct ids = (List.range n).map Int.ofNat := by
    refine eraseReps_eq (pairwise_sortIds ids) ?_ (fun a _ b _ ↦ Int.le_antisymm) fun id ↦ ?_
    · refine List.pairwise_map.2 (List.pairwise_lt_range.imp fun hlt ↦ ?_)
      exact ⟨Int.ofNat_le.2 hlt.le, fun heq ↦ hlt.ne (Int.ofNat.inj heq)⟩
    · rw [List.mem_mergeSort, h]
      constructor
      · rintro ⟨hnonneg, hlt⟩
        exact List.mem_map.2 ⟨id.toNat, List.mem_range.2 (by omega), Int.toNat_of_nonneg hnonneg⟩
      · rintro hmem
        obtain ⟨k, hk, rfl⟩ := List.mem_map.1 hmem
        exact ⟨Int.natCast_nonneg k, Int.ofNat_lt.2 (List.mem_range.1 hk)⟩
  rw [IsDense, hrange, List.length_map, List.length_range]

end GridPuzzle
