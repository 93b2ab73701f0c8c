import GridPuzzle.Naming
import GridPuzzle.Proofs.Text.Line

/-!
# Paragraphs

A text is cut into paragraphs wherever two line feeds follow one another, from left to right. A text
is solid if it consists of lines with line feeds between them, none of which is empty. Solid texts
with blank lines between them are the paragraphs that the whole is cut into, and the lines of the
whole are those of the texts with an empty line between each two of these.
-/

namespace GridPuzzle.Text

/-- The pieces of a text between pairs of line feeds. -/
def splitParagraphs : List Char → List (List Char)
  | [] => [[]]
  | '\n' :: '\n' :: rest => [] :: splitParagraphs rest
  | c :: rest => (splitParagraphs rest).modifyHead (c :: ·)

def paragraphs (s : String) : List String := (splitParagraphs s.toList).map String.ofList

/-! ## Lines of a text -/

theorem splitLines_of_isLine {l : List Char} (hl : IsLine l) (hne : l ≠ []) :
    splitLines l = [l] := by
  cases l with
  | nil => exact absurd rfl hne
  | cons c rest =>
    have hkeep : ∀ d ∈ c :: rest, (!isLineBreak d) = true := fun d hd ↦ by simp [hl d hd]
    rw [splitLines, List.takeWhile_eq_self_iff.2 hkeep, List.dropWhile_eq_nil_iff.2 hkeep]
    simp [afterBreak, splitLines]

theorem toList_unlines (ls : List String) :
    (unlines ls).toList = ['\n'].intercalate (ls.map String.toList) := toList_join "\n" ls

theorem unlines_cons (l : String) {ls : List String} (hls : ls ≠ []) :
    unlines (l :: ls) = l ++ "\n" ++ unlines ls := by
  obtain ⟨next, rest, rfl⟩ := List.exists_cons_of_ne_nil hls
  rw [← String.toList_inj, toList_unlines_cons, String.toList_append, String.toList_append]
  simp

theorem unlines_append {ls ms : List String} (hls : ls ≠ []) (hms : ms ≠ []) :
    unlines (ls ++ ms) = unlines ls ++ "\n" ++ unlines ms := by
  induction ls with
  | nil => exact absurd rfl hls
  | cons l ls ih =>
    cases ls with
    | nil => rw [List.singleton_append, unlines_cons l hms, unlines_singleton]
    | cons next ls =>
      have hne := List.cons_ne_nil next ls
      rw [List.cons_append, unlines_cons l (by simp), ih hne, unlines_cons l hne]
      simp only [String.append_assoc]

theorem splitLines_intercalate {ls : List (List Char)} (hls : ∀ l ∈ ls, IsLine l ∧ l ≠ []) :
    splitLines (['\n'].intercalate ls) = ls := by
  induction ls with
  | nil => simp [List.intercalate, splitLines]
  | cons l ls ih =>
    obtain ⟨⟨hl, hne⟩, hrest⟩ := List.forall_mem_cons.1 hls
    cases ls with
    | nil => simpa [List.intercalate] using splitLines_of_isLine hl hne
    | cons next ls =>
      have hcons : ['\n'].intercalate (l :: next :: ls) =
          l ++ '\n' :: ['\n'].intercalate (next :: ls) := by simp [List.intercalate]
      rw [hcons, splitLines_append_break hl, ih hrest]

theorem splitLines_intercalate_append {ls : List (List Char)} (hne : ls ≠ [])
    (hls : ∀ l ∈ ls, IsLine l) (rest : List Char) :
    splitLines (['\n'].intercalate ls ++ '\n' :: rest) = ls ++ splitLines rest := by
  induction ls with
  | nil => exact absurd rfl hne
  | cons l ls ih =>
    obtain ⟨hl, hrest⟩ := List.forall_mem_cons.1 hls
    cases ls with
    | nil => simpa [List.intercalate] using splitLines_append_break hl rest
    | cons next ls =>
      have hcons : ['\n'].intercalate (l :: next :: ls) ++ '\n' :: rest =
          l ++ '\n' :: (['\n'].intercalate (next :: ls) ++ '\n' :: rest) := by
        simp [List.intercalate]
      rw [hcons, splitLines_append_break hl, ih (List.cons_ne_nil next ls) hrest]
      rfl

/-! ## Solid texts -/

/-- A text of one or more lines, none of them empty, with a line feed between each two. -/
structure IsSolid (s : String) : Prop where
  eq : unlines (lines s) = s
  ne_nil : lines s ≠ []
  ne_empty : ∀ l ∈ lines s, l ≠ ""

theorem isLine_of_mem_lines {s l : String} (h : l ∈ lines s) : IsLine l.toList := by
  obtain ⟨chars, hchars, rfl⟩ := List.mem_map.1 h
  rw [String.toList_ofList]
  exact isLine_of_mem_splitLines hchars

theorem lines_unlines {ls : List String} (hls : ∀ l ∈ ls, IsLine l.toList ∧ l ≠ "") :
    lines (unlines ls) = ls := by
  have hchars : ∀ l ∈ ls.map String.toList, IsLine l ∧ l ≠ [] := by
    intro l hl
    obtain ⟨line, hline, rfl⟩ := List.mem_map.1 hl
    exact ⟨(hls line hline).1, by simpa using (hls line hline).2⟩
  rw [lines, toList_unlines, splitLines_intercalate hchars, List.map_map]
  simp [Function.comp_def]

theorem isSolid_unlines {ls : List String} (hne : ls ≠ [])
    (hls : ∀ l ∈ ls, IsLine l.toList ∧ l ≠ "") : IsSolid (unlines ls) := by
  have hlines := lines_unlines hls
  exact ⟨by rw [hlines], by rwa [hlines], by rw [hlines]; exact fun l hl ↦ (hls l hl).2⟩

theorem lines_of_isLine {l : String} (hl : IsLine l.toList) (hne : l ≠ "") : lines l = [l] := by
  have hlines : lines (unlines [l]) = [l] := lines_unlines (by simpa using ⟨hl, hne⟩)
  rwa [unlines_singleton] at hlines

theorem lines_ne_nil {s : String} (hs : s ≠ "") : lines s ≠ [] := by
  obtain ⟨c, rest, hcons⟩ := List.exists_cons_of_ne_nil (show s.toList ≠ [] by simpa using hs)
  simp [lines, hcons, splitLines]

theorem lines_append {l : String} (hl : IsLine l.toList) {s : String} (hs : s ≠ "") :
    lines (l ++ s) = (lines s).modifyHead (l ++ ·) := by
  have hne : s.toList ≠ [] := by simpa using hs
  rw [lines, String.toList_append, splitLines_line_append hl hne, lines]
  cases splitLines s.toList <;> simp

theorem isSolid_of_isLine {l : String} (hl : IsLine l.toList) (hne : l ≠ "") : IsSolid l := by
  have hsolid : IsSolid (unlines [l]) :=
    isSolid_unlines (List.cons_ne_nil l []) (by simpa using ⟨hl, hne⟩)
  rwa [unlines_singleton] at hsolid

namespace IsSolid

variable {s : String} {texts : List String}

theorem lines_spec (h : IsSolid s) : ∀ l ∈ lines s, IsLine l.toList ∧ l ≠ "" := fun l hl ↦
  ⟨isLine_of_mem_lines hl, h.ne_empty l hl⟩

/-- The lines of solid texts one under another are those of all of them. -/
theorem unlines_flatMap (h : ∀ t ∈ texts, IsSolid t) :
    unlines (texts.flatMap Text.lines) = unlines texts := by
  induction texts with
  | nil => rfl
  | cons t texts ih =>
    obtain ⟨ht, hrest⟩ := List.forall_mem_cons.1 h
    rw [List.flatMap_cons]
    cases texts with
    | nil => simpa [unlines_singleton] using ht.eq
    | cons next texts =>
      have hflat : (next :: texts).flatMap Text.lines ≠ [] := by
        simp [(hrest next List.mem_cons_self).ne_nil]
      rw [unlines_append ht.ne_nil hflat, ih hrest, ht.eq,
        unlines_cons t (List.cons_ne_nil next texts)]

theorem flatMap_lines_spec (h : ∀ t ∈ texts, IsSolid t) :
    ∀ l ∈ texts.flatMap Text.lines, IsLine l.toList ∧ l ≠ "" := by
  intro l hl
  obtain ⟨t, ht, hl⟩ := List.mem_flatMap.1 hl
  exact (h t ht).lines_spec l hl

theorem lines_stack (h : ∀ t ∈ texts, IsSolid t) :
    Text.lines (unlines texts) = texts.flatMap Text.lines := by
  rw [← unlines_flatMap h]
  exact lines_unlines (flatMap_lines_spec h)

theorem stack (hne : texts ≠ []) (h : ∀ t ∈ texts, IsSolid t) : IsSolid (unlines texts) := by
  obtain ⟨t, rest, rfl⟩ := List.exists_cons_of_ne_nil hne
  rw [← unlines_flatMap h]
  refine isSolid_unlines ?_ (flatMap_lines_spec h)
  simp [(h t List.mem_cons_self).ne_nil]

/-! ## Paragraphs of solid texts -/

theorem splitParagraphs_append {l : List Char} (hl : '\n' ∉ l) (s : List Char) :
    splitParagraphs (l ++ s) = (splitParagraphs s).modifyHead (l ++ ·) := by
  induction l with
  | nil => cases h : splitParagraphs s <;> simp [h]
  | cons c l ih =>
    obtain ⟨hc, hl⟩ := List.ne_and_not_mem_of_not_mem_cons hl
    have hcons : splitParagraphs (c :: (l ++ s)) =
        (splitParagraphs (l ++ s)).modifyHead (c :: ·) := by
      rw [splitParagraphs]
      rintro rest rfl
      exact absurd rfl hc
    rw [List.cons_append, hcons, ih hl, List.modifyHead_modifyHead]
    rfl

/-- A line feed between two lines that are not empty cuts nothing. -/
theorem splitParagraphs_break {c : Char} (hc : c ≠ '\n') (s : List Char) :
    splitParagraphs ('\n' :: c :: s) = (splitParagraphs (c :: s)).modifyHead ('\n' :: ·) := by
  rw [splitParagraphs]
  rintro rest - heq
  exact absurd (List.cons.inj heq).1 hc

theorem splitParagraphs_intercalate {ls : List (List Char)} (hne : ls ≠ [])
    (hls : ∀ l ∈ ls, '\n' ∉ l ∧ l ≠ []) (s : List Char) :
    splitParagraphs (['\n'].intercalate ls ++ s) =
      (splitParagraphs s).modifyHead (['\n'].intercalate ls ++ ·) := by
  induction ls with
  | nil => exact absurd rfl hne
  | cons l ls ih =>
    obtain ⟨⟨hl, _⟩, hrest⟩ := List.forall_mem_cons.1 hls
    cases ls with
    | nil => simpa [List.intercalate] using splitParagraphs_append hl s
    | cons next ls =>
      obtain ⟨⟨hnext, hne⟩, _⟩ := List.forall_mem_cons.1 hrest
      obtain ⟨c, tail, rfl⟩ := List.exists_cons_of_ne_nil hne
      have hc : c ≠ '\n' := fun heq ↦ hnext (by simp [heq])
      have hcons : ['\n'].intercalate (l :: (c :: tail) :: ls) =
          l ++ '\n' :: ['\n'].intercalate ((c :: tail) :: ls) := by simp [List.intercalate]
      obtain ⟨more, hmore⟩ : ∃ more, ['\n'].intercalate ((c :: tail) :: ls) = c :: more := by
        cases ls <;> simp [List.intercalate]
      have hih := ih (List.cons_ne_nil _ _) hrest
      rw [hmore] at hih
      rw [hcons, hmore, List.append_assoc, splitParagraphs_append hl, List.cons_append,
        List.cons_append, splitParagraphs_break hc, ← List.cons_append, hih,
        List.modifyHead_modifyHead, List.modifyHead_modifyHead]
      congr 1
      funext p
      simp

theorem splitParagraphs_toList (h : IsSolid s) (t : List Char) :
    splitParagraphs (s.toList ++ t) = (splitParagraphs t).modifyHead (s.toList ++ ·) := by
  have hls : ∀ l ∈ (Text.lines s).map String.toList, '\n' ∉ l ∧ l ≠ [] := by
    intro l hl
    obtain ⟨line, hline, rfl⟩ := List.mem_map.1 hl
    obtain ⟨hbreaks, hne⟩ := h.lines_spec line hline
    exact ⟨fun hmem ↦ Bool.noConfusion (hbreaks '\n' hmem), by simpa using hne⟩
  have hsplit := splitParagraphs_intercalate (by simpa using h.ne_nil) hls t
  rwa [← toList_unlines, h.eq] at hsplit

/-- Solid texts with blank lines between them are the paragraphs of the whole. -/
theorem paragraphs_join (hne : texts ≠ []) (h : ∀ t ∈ texts, IsSolid t) :
    paragraphs (join "\n\n" texts) = texts := by
  suffices hchars : splitParagraphs (join "\n\n" texts).toList = texts.map String.toList by
    rw [paragraphs, hchars, List.map_map]
    simp [Function.comp_def]
  induction texts with
  | nil => exact absurd rfl hne
  | cons t texts ih =>
    obtain ⟨ht, hrest⟩ := List.forall_mem_cons.1 h
    cases texts with
    | nil =>
      have hsplit := ht.splitParagraphs_toList []
      simpa [toList_join, List.intercalate, splitParagraphs] using hsplit
    | cons next texts =>
      have hbreaks : splitParagraphs ("\n\n".toList ++ (join "\n\n" (next :: texts)).toList) =
          [] :: splitParagraphs (join "\n\n" (next :: texts)).toList := by
        change splitParagraphs ('\n' :: '\n' :: (join "\n\n" (next :: texts)).toList) = _
        rw [splitParagraphs]
      rw [toList_join_cons, ht.splitParagraphs_toList, hbreaks,
        ih (List.cons_ne_nil next texts) hrest]
      simp

/-! ## Lines of paragraphs -/

theorem splitLines_append (h : IsSolid s) (rest : List Char) :
    splitLines (s.toList ++ '\n' :: rest) =
      (Text.lines s).map String.toList ++ splitLines rest := by
  have hls : ∀ l ∈ (Text.lines s).map String.toList, IsLine l := by
    intro l hl
    obtain ⟨line, hline, rfl⟩ := List.mem_map.1 hl
    exact (h.lines_spec line hline).1
  have hsplit := splitLines_intercalate_append (by simpa using h.ne_nil) hls rest
  rwa [← toList_unlines, h.eq] at hsplit

/-- The lines of solid texts with blank lines between them and a line feed at the end. -/
theorem lines_document (hne : texts ≠ []) (h : ∀ t ∈ texts, IsSolid t) :
    Text.lines (join "\n\n" texts ++ "\n") = [""].intercalate (texts.map Text.lines) := by
  suffices hchars : splitLines ((join "\n\n" texts).toList ++ ['\n']) =
      ([""].intercalate (texts.map Text.lines)).map String.toList by
    have htoList : (join "\n\n" texts ++ "\n").toList = (join "\n\n" texts).toList ++ ['\n'] := by
      simp
    rw [Text.lines, htoList, hchars, List.map_map]
    simp [Function.comp_def]
  induction texts with
  | nil => exact absurd rfl hne
  | cons t texts ih =>
    obtain ⟨ht, hrest⟩ := List.forall_mem_cons.1 h
    cases texts with
    | nil =>
      have hsplit := ht.splitLines_append []
      simpa [toList_join, List.intercalate, splitLines] using hsplit
    | cons next texts =>
      have hcons : (join "\n\n" (t :: next :: texts)).toList ++ ['\n'] =
          t.toList ++ '\n' :: ([] ++ '\n' :: ((join "\n\n" (next :: texts)).toList ++ ['\n'])) := by
        rw [toList_join_cons]
        simp
      rw [hcons, ht.splitLines_append, splitLines_append_break isLine_nil,
        ih (List.cons_ne_nil next texts) hrest]
      simp [List.intercalate]

end IsSolid

end GridPuzzle.Text
