import GridPuzzle.Text.Char
import GridPuzzle.Text.Line
import Mathlib

/-!
# Lines and the white space around a text

Lines that hold no break and end with a line feed each are the lines that the text is split into. A
text that neither starts nor ends with white space stays as it is when it is trimmed, and so it does
when a line feed stands behind it.
-/

namespace GridPuzzle.Text

/-! ## White space around a text -/

theorem trimEnd_concat (s : List Char) {d : Char} (h : isBlank d = false) :
    trimEnd (s ++ [d]) = s ++ [d] := by
  simp [trimEnd, trimStart, h]

theorem trimEnd_concat_of_isBlank (s : List Char) {d : Char} (h : isBlank d = true) :
    trimEnd (s ++ [d]) = trimEnd s := by
  simp [trimEnd, trimStart, h]

/-- A text whose first character is not white space. -/
def StartsText (s : List Char) : Prop := s.head?.any (!isBlank ·) = true

/-- A text whose last character is not white space. -/
def EndsText (s : List Char) : Prop := s.getLast?.any (!isBlank ·) = true

instance (s : List Char) : Decidable (StartsText s) := inferInstanceAs (Decidable (_ = true))

instance (s : List Char) : Decidable (EndsText s) := inferInstanceAs (Decidable (_ = true))

/-- A text that neither starts nor ends with white space, and is not empty. -/
def IsFramed (s : List Char) : Prop := StartsText s ∧ EndsText s

theorem trimStart_of_startsText {s : List Char} (h : StartsText s) : trimStart s = s := by
  cases s with
  | nil => rfl
  | cons c rest =>
    have hc : isBlank c = false := by simpa [StartsText] using h
    simp [trimStart, hc]

theorem trimEnd_of_endsText {s : List Char} (h : EndsText s) : trimEnd s = s := by
  obtain rfl | hne := eq_or_ne s []
  · rfl
  · have hlast : isBlank (s.getLast hne) = false := by
      simpa [EndsText, List.getLast?_eq_some_getLast hne] using h
    rw [← List.dropLast_concat_getLast hne]
    exact trimEnd_concat _ hlast

theorem trim_of_isFramed {s : List Char} (h : IsFramed s) : trim s = s := by
  rw [trim, trimStart_of_startsText h.1, trimEnd_of_endsText h.2]

theorem startsText_append {s : List Char} (h : StartsText s) (t : List Char) :
    StartsText (s ++ t) := by
  cases s with
  | nil => simp [StartsText] at h
  | cons c rest => exact h

theorem endsText_append (s : List Char) {t : List Char} (h : EndsText t) : EndsText (s ++ t) := by
  obtain rfl | hne := eq_or_ne t []
  · simp [EndsText] at h
  · rwa [EndsText, List.getLast?_append_of_ne_nil s hne]

theorem isEmpty_of_startsText {s : String} (h : StartsText s.toList) : s.isEmpty = false := by
  by_contra hempty
  have hs : s = "" := by simpa using hempty
  simp [hs, StartsText] at h

theorem startsText_ofList {s : List Char} (h : StartsText s) :
    StartsText (String.ofList s).toList := by rwa [String.toList_ofList]

theorem endsText_ofList {s : List Char} (h : EndsText s) :
    EndsText (String.ofList s).toList := by rwa [String.toList_ofList]

theorem endsText_ofList_append {s : String} {t : List Char} (h : EndsText t) :
    EndsText (s ++ String.ofList t).toList := by
  rw [String.toList_append]
  exact endsText_append _ (endsText_ofList h)

theorem trim_concat_break {s : List Char} (h : IsFramed s) : trim (s ++ ['\n']) = s := by
  rw [trim, trimStart_of_startsText (startsText_append h.1 _),
    trimEnd_concat_of_isBlank s (by decide), trimEnd_of_endsText h.2]

theorem strip_of_isFramed {s : String} (h : IsFramed s.toList) : strip s = s := by
  rw [strip, trim_of_isFramed h, String.ofList_toList]

/-- What ends with text stays in front when the white space behind it is gone. -/
theorem exists_trimEnd_append {s : List Char} (hs : EndsText s) (t : List Char) :
    ∃ rest, trimEnd (s ++ t) = s ++ rest ∧ rest <+: t := by
  induction t using List.reverseRecOn with
  | nil => exact ⟨[], by simpa using trimEnd_of_endsText hs, List.prefix_rfl⟩
  | append_singleton t d ih =>
    rw [← List.append_assoc]
    cases hd : isBlank d with
    | false => exact ⟨t ++ [d], by rw [trimEnd_concat _ hd, List.append_assoc], List.prefix_rfl⟩
    | true =>
      obtain ⟨rest, heq, hprefix⟩ := ih
      refine ⟨rest, ?_, hprefix.trans (List.prefix_append t [d])⟩
      rw [← heq]
      exact trimEnd_concat_of_isBlank (s ++ t) hd

/-- What does not start with white space still starts so when the white space at its end is gone. -/
theorem exists_trimEnd_cons {c : Char} (hc : isBlank c = false) (s : List Char) :
    ∃ rest, trimEnd (c :: s) = c :: rest ∧ rest <+: s := by
  apply exists_trimEnd_append (s := [c])
  simp [EndsText, hc]

/-- What is left of a text when the white space at its end is gone ends with text. -/
theorem endsText_trimEnd {s : List Char} (h : trimEnd s ≠ []) : EndsText (trimEnd s) := by
  have hhead := List.head?_dropWhile_not isBlank s.reverse
  have hlast : (trimEnd s).getLast? = (s.reverse.dropWhile isBlank).head? := by
    rw [trimEnd, List.getLast?_reverse, trimStart]
  unfold EndsText
  rw [hlast]
  cases hd : s.reverse.dropWhile isBlank with
  | nil => simp [trimEnd, trimStart, hd] at h
  | cons c rest => simpa [hd] using hhead

/-! ## Lines -/

/-- Lines with a line feed behind each. -/
def joinLines (ls : List (List Char)) : List Char := ls.flatMap (· ++ ['\n'])

@[simp] theorem joinLines_nil : joinLines [] = [] := rfl

@[simp] theorem joinLines_cons (l : List Char) (ls : List (List Char)) :
    joinLines (l :: ls) = l ++ '\n' :: joinLines ls := by
  simp [joinLines]

@[simp] theorem joinLines_append (ls ms : List (List Char)) :
    joinLines (ls ++ ms) = joinLines ls ++ joinLines ms := by
  simp [joinLines]

/-- A line holds no break. -/
def IsLine (l : List Char) : Prop := ∀ c ∈ l, isLineBreak c = false

instance (l : List Char) : Decidable (IsLine l) :=
  decidable_of_iff (l.all (!isLineBreak ·) = true) (by simp [IsLine])

theorem isLine_nil : IsLine [] := fun _ hc ↦ absurd hc List.not_mem_nil

theorem isLine_cons {c : Char} {s : List Char} :
    IsLine (c :: s) ↔ isLineBreak c = false ∧ IsLine s := List.forall_mem_cons

theorem isLine_append {s t : List Char} : IsLine (s ++ t) ↔ IsLine s ∧ IsLine t :=
  List.forall_mem_append

theorem IsLine.subset {s t : List Char} (h : IsLine t) (hsub : s ⊆ t) : IsLine s := fun c hc ↦
  h c (hsub hc)

/-- What holds of the members of pieces and of the separator holds of those of the joined list. -/
theorem forall_mem_intercalate {α : Type} {good : α → Prop} {sep : List α}
    (hsep : ∀ c ∈ sep, good c) {pieces : List (List α)} (h : ∀ p ∈ pieces, ∀ c ∈ p, good c) :
    ∀ c ∈ sep.intercalate pieces, good c := by
  induction pieces with
  | nil => exact fun c hc ↦ absurd hc List.not_mem_nil
  | cons p pieces ih =>
    obtain ⟨hp, hrest⟩ := List.forall_mem_cons.1 h
    cases pieces with
    | nil => simpa [List.intercalate] using hp
    | cons q pieces =>
      rw [List.intercalate_cons_cons]
      exact List.forall_mem_append.2 ⟨List.forall_mem_append.2 ⟨hp, hsep⟩, ih hrest⟩

theorem isLine_intercalate {sep : List Char} (hsep : IsLine sep) {pieces : List (List Char)}
    (h : ∀ p ∈ pieces, IsLine p) : IsLine (sep.intercalate pieces) := forall_mem_intercalate hsep h

theorem splitLines_append_cons {l : List Char} (hl : IsLine l) {c : Char}
    (hc : isLineBreak c = true) (rest : List Char) :
    splitLines (l ++ c :: rest) = l :: splitLines (afterBreak (c :: rest)) := by
  have hkeep : ∀ d ∈ l, (!isLineBreak d) = true := fun d hd ↦ by simp [hl d hd]
  have htake : (l ++ c :: rest).takeWhile (!isLineBreak ·) = l := by
    rw [List.takeWhile_append_of_pos hkeep]
    simp [hc]
  have hdrop : (l ++ c :: rest).dropWhile (!isLineBreak ·) = c :: rest := by
    rw [List.dropWhile_append_of_pos hkeep]
    simp [hc]
  cases h : l ++ c :: rest with
  | nil => simp at h
  | cons d ds => rw [splitLines, ← h, htake, hdrop]

theorem splitLines_append_break {l : List Char} (hl : IsLine l) (rest : List Char) :
    splitLines (l ++ '\n' :: rest) = l :: splitLines rest :=
  splitLines_append_cons hl (by decide) rest

/-- A line in front of a text goes before the first line of the text. -/
theorem splitLines_line_append {l : List Char} (hl : IsLine l) {s : List Char} (hs : s ≠ []) :
    splitLines (l ++ s) = (splitLines s).modifyHead (l ++ ·) := by
  obtain ⟨c, rest, rfl⟩ := List.exists_cons_of_ne_nil hs
  have hkeep : ∀ d ∈ l, (!isLineBreak d) = true := fun d hd ↦ by simp [hl d hd]
  cases h : l ++ c :: rest with
  | nil => simp at h
  | cons d ds =>
    rw [splitLines, ← h, List.takeWhile_append_of_pos hkeep, List.dropWhile_append_of_pos hkeep,
      splitLines]
    rfl

theorem splitLines_joinLines {ls : List (List Char)} (h : ∀ l ∈ ls, IsLine l) :
    splitLines (joinLines ls) = ls := by
  induction ls with
  | nil => simp [splitLines]
  | cons l ls ih =>
    rw [joinLines_cons, splitLines_append_break (h l List.mem_cons_self),
      ih fun m hm ↦ h m (List.mem_cons_of_mem l hm)]

/-- The lines that a text is split into hold no break. -/
theorem isLine_of_mem_splitLines {s l : List Char} (h : l ∈ splitLines s) : IsLine l := by
  fun_induction splitLines s with
  | case1 => simp at h
  | case2 c rest ih =>
    obtain rfl | h := List.mem_cons.1 h
    · intro d hd
      simpa using List.mem_takeWhile_imp hd
    · exact ih h

/-! ## Joined texts -/

theorem toList_join (sep : String) (pieces : List String) :
    (join sep pieces).toList = sep.toList.intercalate (pieces.map String.toList) :=
  String.toList_ofList

theorem join_eq_intercalate (sep : String) (pieces : List String) :
    join sep pieces = sep.intercalate pieces :=
  String.toList_injective (by rw [toList_join, String.toList_intercalate])

theorem join_append {sep : String} {first second : List String} (hfirst : first ≠ [])
    (hsecond : second ≠ []) :
    join sep (first ++ second) = join sep first ++ sep ++ join sep second := by
  simp only [join_eq_intercalate, String.intercalate_append_of_ne_nil hfirst hsecond]

theorem join_singleton (sep piece : String) : join sep [piece] = piece := by
  rw [join_eq_intercalate, String.intercalate_singleton]

theorem toList_join_cons (sep : String) (piece next : String) (rest : List String) :
    (join sep (piece :: next :: rest)).toList =
      piece.toList ++ (sep.toList ++ (join sep (next :: rest)).toList) := by
  simp [toList_join, List.intercalate]

theorem unlines_singleton (l : String) : unlines [l] = l := join_singleton "\n" l

theorem toList_unlines_cons (l next : String) (rest : List String) :
    (unlines (l :: next :: rest)).toList =
      l.toList ++ '\n' :: (unlines (next :: rest)).toList := toList_join_cons "\n" l next rest

theorem startsText_unlines {l : String} (h : StartsText l.toList) (ls : List String) :
    StartsText (unlines (l :: ls)).toList := by
  cases ls with
  | nil => rwa [unlines_singleton]
  | cons next rest =>
    rw [toList_unlines_cons]
    exact startsText_append h _

theorem endsText_unlines {ls : List String} (hne : ls ≠ []) (h : EndsText (ls.getLast hne).toList) :
    EndsText (unlines ls).toList := by
  induction ls with
  | nil => exact absurd rfl hne
  | cons l ls ih =>
    cases ls with
    | nil => rwa [unlines_singleton]
    | cons next rest =>
      rw [toList_unlines_cons, List.append_cons]
      exact endsText_append _ (ih (List.cons_ne_nil next rest) (by simpa using h))

/-- A text of lines is framed if all its lines are. -/
theorem isFramed_unlines {ls : List String} (hne : ls ≠ [])
    (h : ∀ l ∈ ls, IsFramed l.toList) : IsFramed (unlines ls).toList := by
  refine ⟨?_, endsText_unlines hne (h _ (List.getLast_mem hne)).2⟩
  cases ls with
  | nil => exact absurd rfl hne
  | cons l ls => exact startsText_unlines (h l List.mem_cons_self).1 ls

end GridPuzzle.Text
