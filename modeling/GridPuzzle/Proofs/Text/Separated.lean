import GridPuzzle.Proofs.Text.Paragraph

/-!
# Reading separated texts back

Where a character is known to be missing on one side of a cut, a text can be cut at this character
in one way only. Hence pieces can be recovered from the text in which they are joined, if a
character of the separator is in none of them.
-/

namespace GridPuzzle.Text

/-- Lists on which one function agrees member by member, on which another one has to agree then. -/
theorem map_eq_map_of_map_eq_map {α β γ : Type} {f : α → β} {g : α → γ} {l m : List α}
    (h : ∀ a ∈ l, ∀ b ∈ m, f a = f b → g a = g b) (hmap : l.map f = m.map f) :
    l.map g = m.map g := by
  induction l generalizing m with
  | nil =>
    obtain rfl : m = [] := by simpa using hmap.symm
    rfl
  | cons a l ih =>
    cases m with
    | nil => simp at hmap
    | cons b m =>
      obtain ⟨hhead, htail⟩ := List.cons.inj hmap
      rw [List.map_cons, List.map_cons, h a List.mem_cons_self b List.mem_cons_self hhead]
      congr 1
      apply ih _ htail
      intro x hx y hy
      exact h x (List.mem_cons_of_mem a hx) y (List.mem_cons_of_mem b hy)

/-! ## Cuts -/

variable {c : Char} {s t u v : List Char}

/-- The cut at the first place of a character. -/
theorem append_cons_inj (hs : c ∉ s) (ht : c ∉ t) (h : s ++ c :: u = t ++ c :: v) :
    s = t ∧ u = v := by
  have htake {front : List Char} (hfront : c ∉ front) (back : List Char) :
      (front ++ c :: back).takeWhile (· != c) = front := by
    have hall : ∀ d ∈ front, (d != c) = true := fun d hd ↦
      bne_iff_ne.2 (ne_of_mem_of_not_mem hd hfront)
    rw [List.takeWhile_append_of_pos hall]
    simp
  have heq : s = t := by
    calc
      s = (s ++ c :: u).takeWhile (· != c) := (htake hs u).symm
      _ = (t ++ c :: v).takeWhile (· != c) := by rw [h]
      _ = t := htake ht v
  subst heq
  exact ⟨rfl, (List.cons.inj (List.append_cancel_left h)).2⟩

/-- The cut at the last place of a character. -/
theorem append_cons_inj_last (hu : c ∉ u) (hv : c ∉ v) (h : s ++ c :: u = t ++ c :: v) :
    s = t ∧ u = v := by
  have hreverse : u.reverse ++ c :: s.reverse = v.reverse ++ c :: t.reverse := by
    simpa using congrArg List.reverse h
  obtain ⟨hback, hfront⟩ := append_cons_inj (by simpa using hu) (by simpa using hv) hreverse
  exact ⟨List.reverse_injective hfront, List.reverse_injective hback⟩

/-! ## Pieces -/

variable {sep front back : List Char} {ps qs : List (List Char)}

/-- Pieces with a separator behind each can be told apart. -/
theorem flatMap_append_sep_inj (hsep : sep = front ++ c :: back) (hfront : c ∉ front)
    (hps : ∀ p ∈ ps, c ∉ p) (hqs : ∀ q ∈ qs, c ∉ q)
    (h : ps.flatMap (· ++ sep) = qs.flatMap (· ++ sep)) : ps = qs := by
  induction ps generalizing qs with
  | nil =>
    cases qs with
    | nil => rfl
    | cons q qs => simp [hsep] at h
  | cons p ps ih =>
    cases qs with
    | nil => simp [hsep] at h
    | cons q qs =>
      obtain ⟨hp, hps⟩ := List.forall_mem_cons.1 hps
      obtain ⟨hq, hqs⟩ := List.forall_mem_cons.1 hqs
      have hcut : (p ++ front) ++ c :: (back ++ ps.flatMap (· ++ sep)) =
          (q ++ front) ++ c :: (back ++ qs.flatMap (· ++ sep)) := by
        simpa [hsep] using h
      obtain ⟨hhead, htail⟩ := append_cons_inj (by simp [hp, hfront]) (by simp [hq, hfront]) hcut
      rw [List.append_cancel_right hhead, ih hps hqs (List.append_cancel_left htail)]

theorem intercalate_append_sep (hps : ps ≠ []) :
    sep.intercalate ps ++ sep = ps.flatMap (· ++ sep) := by
  induction ps with
  | nil => exact absurd rfl hps
  | cons p ps ih =>
    cases ps with
    | nil => simp [List.intercalate]
    | cons q ps =>
      rw [List.flatMap_cons, ← ih (List.cons_ne_nil q ps)]
      simp [List.intercalate]

theorem notMem_join {sep : String} {ps : List String} (hsep : c ∉ sep.toList)
    (hps : ∀ p ∈ ps, c ∉ p.toList) : c ∉ (join sep ps).toList := by
  have hall : ∀ d ∈ sep.toList.intercalate (ps.map String.toList), d ≠ c := by
    apply forall_mem_intercalate
    · exact fun d hd ↦ ne_of_mem_of_not_mem hd hsep
    · intro p hp d hd
      obtain ⟨piece, hpiece, rfl⟩ := List.mem_map.1 hp
      exact ne_of_mem_of_not_mem hd (hps piece hpiece)
  rw [toList_join]
  exact fun hmem ↦ hall c hmem rfl

/-- Pieces are told by the text in which they are joined, if there are any. -/
theorem join_inj {sep : String} {ps qs : List String} (hsep : sep.toList = front ++ c :: back)
    (hfront : c ∉ front) (hps : ∀ p ∈ ps, c ∉ p.toList) (hqs : ∀ q ∈ qs, c ∉ q.toList)
    (hne : ps ≠ []) (hne' : qs ≠ []) (h : join sep ps = join sep qs) : ps = qs := by
  have hpieces {ps : List String} (hps : ∀ p ∈ ps, c ∉ p.toList) :
      ∀ p ∈ ps.map String.toList, c ∉ p := by
    intro p hp
    obtain ⟨piece, hpiece, rfl⟩ := List.mem_map.1 hp
    exact hps piece hpiece
  have hflat : (ps.map String.toList).flatMap (· ++ sep.toList) =
      (qs.map String.toList).flatMap (· ++ sep.toList) := by
    rw [← intercalate_append_sep (by simpa using hne),
      ← intercalate_append_sep (by simpa using hne'), ← toList_join, ← toList_join, h]
  have hlists := flatMap_append_sep_inj hsep hfront (hpieces hps) (hpieces hqs) hflat
  exact List.map_injective_iff.2 (fun _ _ ↦ String.toList_inj.1) hlists

/-! ## Beginnings -/

theorem prefix_unlines (l : String) (ls : List String) :
    l.toList <+: (unlines (l :: ls)).toList := by
  cases ls with
  | nil => rw [unlines_singleton]
  | cons next ls =>
    rw [toList_unlines_cons]
    exact List.prefix_append _ _

/-- A solid text begins with its first line. -/
theorem IsSolid.prefix_of_head? {s l : String} (h : IsSolid s) (hl : (lines s).head? = some l) :
    l.toList <+: s.toList := by
  obtain ⟨rest, hrest⟩ := List.head?_eq_some_iff.1 hl
  have hprefix := prefix_unlines l rest
  rwa [← hrest, h.eq] at hprefix

end GridPuzzle.Text
