import GridPuzzle.Proofs.Document.Emitted

/-!
# Pieces of a text in its code

A piece of a line that stands in front of the first percent sign is found again in the code of the
text, and a word in front of it goes on into it in the code only if it does so in the text.
-/

namespace GridPuzzle

namespace Text

/-! ## The last line -/

/-- What stands behind the last break of a text. -/
def lastLine (s : List Char) : List Char := (s.reverse.takeWhile (!isLineBreak ·)).reverse

/-- A text that is empty or ends with a break. -/
def EndsBreak (s : List Char) : Prop := ∀ c, s.getLast? = some c → isLineBreak c = true

theorem isLine_lastLine (s : List Char) : IsLine (lastLine s) := by
  intro c hc
  simpa using List.mem_takeWhile_imp (List.mem_reverse.1 hc)

/-- The lines above the last one, with their breaks. -/
theorem exists_upper (s : List Char) : ∃ upper, s = upper ++ lastLine s ∧ EndsBreak upper := by
  let rest := s.reverse.dropWhile (!isLineBreak ·)
  refine ⟨rest.reverse, ?_, ?_⟩
  · calc s
        = s.reverse.reverse := (List.reverse_reverse s).symm
      _ = (s.reverse.takeWhile (!isLineBreak ·) ++ rest).reverse := by
        rw [List.takeWhile_append_dropWhile]
      _ = rest.reverse ++ lastLine s := List.reverse_append
  · intro c hc
    rw [List.getLast?_reverse] at hc
    have hhead := List.head?_dropWhile_not (!isLineBreak ·) s.reverse
    simpa [show (s.reverse.dropWhile (!isLineBreak ·)).head? = some c from hc] using hhead

theorem lastLine_append {line : List Char} (hline : IsLine line) (s : List Char) :
    lastLine (s ++ line) = lastLine s ++ line := by
  have hkeep : ∀ c ∈ line.reverse, (!isLineBreak c) = true := by
    intro c hc
    simp [hline c (List.mem_reverse.1 hc)]
  rw [lastLine, List.reverse_append, List.takeWhile_append_of_pos hkeep, List.reverse_append,
    List.reverse_reverse, lastLine]

theorem EndsBreak.suffix {s t : List Char} (hs : EndsBreak s) (hsuffix : t <:+ s) :
    EndsBreak t := by
  intro c hc
  obtain ⟨front, rfl⟩ := hsuffix
  apply hs
  rw [List.getLast?_append, hc]
  rfl

/-- A text that is not empty and ends with a break has a break. -/
theorem EndsBreak.exists_break {s : List Char} (hs : EndsBreak s) (hne : s ≠ []) :
    ∃ c rest, s.dropWhile (!isLineBreak ·) = c :: rest ∧ isLineBreak c = true := by
  cases hdrop : s.dropWhile (!isLineBreak ·) with
  | nil =>
    have hlast := hs _ (List.getLast?_eq_some_getLast hne)
    have hkeep := List.dropWhile_eq_nil_iff.1 hdrop _ (List.getLast_mem hne)
    simp [hlast] at hkeep
  | cons c rest =>
    have hhead := List.head?_dropWhile_not (!isLineBreak ·) s
    exact ⟨c, rest, rfl, by simpa [hdrop] using hhead⟩

theorem afterBreak_cons {c : Char} {rest : List Char} (h : c = '\r' → rest.head? ≠ some '\n') :
    afterBreak (c :: rest) = rest := by
  unfold afterBreak
  split
  next heq =>
    obtain ⟨rfl, rfl⟩ := List.cons.inj heq
    exact absurd rfl (h rfl)
  next heq => exact (List.cons.inj heq).2.symm
  next heq => cases heq

/-- A break is not made longer by a text that does not start with a line feed. -/
theorem afterBreak_append {c : Char} {rest t : List Char} (ht : t.head? ≠ some '\n') :
    afterBreak (c :: rest ++ t) = afterBreak (c :: rest) ++ t := by
  by_cases hpair : c = '\r' ∧ rest.head? = some '\n'
  · obtain ⟨rfl, hhead⟩ := hpair
    obtain ⟨rest, rfl⟩ := List.head?_eq_some_iff.1 hhead
    rfl
  · have hrest : c = '\r' → rest.head? ≠ some '\n' := fun hc hhead ↦ hpair ⟨hc, hhead⟩
    have happend : c = '\r' → (rest ++ t).head? ≠ some '\n' := by
      intro hc
      cases rest with
      | nil => exact ht
      | cons d rest => exact hrest hc
    rw [List.cons_append, afterBreak_cons happend, afterBreak_cons hrest]

theorem afterBreak_suffix (s : List Char) : afterBreak s <:+ s := by
  unfold afterBreak
  split
  next rest => exact ⟨['\r', '\n'], rfl⟩
  next c rest _ => exact List.suffix_cons c rest
  next => exact List.suffix_rfl

/-- Behind a break the lines are counted anew. -/
theorem splitLines_append {s t : List Char} (hs : EndsBreak s) (ht : t.head? ≠ some '\n') :
    splitLines (s ++ t) = splitLines s ++ splitLines t := by
  fun_induction splitLines s with
  | case1 => simp
  | case2 d ds ih =>
    obtain ⟨c, rest, hdrop, hbreak⟩ := hs.exists_break (List.cons_ne_nil d ds)
    let line := (d :: ds).takeWhile (!isLineBreak ·)
    have hline : IsLine line := by
      intro e he
      simpa using List.mem_takeWhile_imp he
    have hsplit : d :: ds = line ++ c :: rest := by
      rw [← hdrop, List.takeWhile_append_dropWhile]
    have hsuffix : afterBreak (c :: rest) <:+ d :: ds :=
      (afterBreak_suffix _).trans (hsplit ▸ List.suffix_append line (c :: rest))
    rw [hdrop] at ih ⊢
    calc splitLines (d :: ds ++ t)
        = splitLines (line ++ c :: (rest ++ t)) := by rw [hsplit, List.append_assoc]; rfl
      _ = line :: splitLines (afterBreak (c :: rest ++ t)) := splitLines_append_cons hline hbreak _
      _ = line :: splitLines (afterBreak (c :: rest) ++ t) := by rw [afterBreak_append ht]
      _ = line :: (splitLines (afterBreak (c :: rest)) ++ splitLines t) := by
        rw [ih (hs.suffix hsuffix)]

/-- A line that is not empty is the start of the first line. -/
theorem splitLines_line_cons {line : List Char} (hline : IsLine line) (hne : line ≠ [])
    (t : List Char) : ∃ tail others, splitLines (line ++ t) = (line ++ tail) :: others := by
  have hkeep : ∀ c ∈ line, (!isLineBreak c) = true := fun c hc ↦ by simp [hline c hc]
  obtain ⟨c, rest, rfl⟩ := List.exists_cons_of_ne_nil hne
  rw [List.cons_append, splitLines, ← List.cons_append, List.takeWhile_append_of_pos hkeep]
  exact ⟨_, _, rfl⟩

/-! ## Words at the end of a text -/

/-- Whether the last character of a text is a word character. -/
def endsWord (s : List Char) : Bool := s.getLast?.any isWord

theorem isWord_of_isLineBreak {c : Char} (h : isLineBreak c = true) : isWord c = false := by
  have htable : ∀ n ∈ [0xa, 0xb, 0xc, 0xd, 0x1c, 0x1d, 0x1e, 0x85, 0x2028, 0x2029],
      isWord (Char.ofNat n) = false := by decide +kernel
  have hmem : c.toNat ∈ [0xa, 0xb, 0xc, 0xd, 0x1c, 0x1d, 0x1e, 0x85, 0x2028, 0x2029] := by
    simp only [isLineBreak, Bool.or_eq_true, Bool.and_eq_true, decide_eq_true_eq,
      beq_iff_eq] at h
    simp only [List.mem_cons, List.not_mem_nil, or_false]
    omega
  have hc := htable _ hmem
  rwa [Char.ofNat_toNat] at hc

theorem endsWord_concat (s : List Char) (c : Char) : endsWord (s ++ [c]) = isWord c := by
  simp [endsWord]

theorem endsWord_append (s : List Char) {t : List Char} (ht : t ≠ []) :
    endsWord (s ++ t) = endsWord t := by
  rw [endsWord, List.getLast?_append_of_ne_nil s ht, endsWord]

theorem endsWord_cons_cons (c d : Char) (s : List Char) :
    endsWord (c :: d :: s) = endsWord (d :: s) :=
  endsWord_append [c] (List.cons_ne_nil d s)

/-- A word does not go on behind a character that belongs to none. -/
theorem endsWord_append_cons {c : Char} (hc : isWord c = false) (s t : List Char) :
    endsWord (s ++ c :: t) = endsWord t := by
  cases t with
  | nil => rw [endsWord_concat, hc, endsWord, List.getLast?_nil, Option.any_none]
  | cons d t =>
    rw [endsWord_append s (List.cons_ne_nil c _), endsWord_cons_cons]

theorem endsWord_append_eq_false {s t : List Char} (hs : endsWord s = false)
    (ht : endsWord t = false) : endsWord (s ++ t) = false := by
  cases t with
  | nil => rwa [List.append_nil]
  | cons c t => rwa [endsWord_append s (List.cons_ne_nil c t)]

theorem EndsBreak.endsWord_append {s : List Char} (hs : EndsBreak s) (t : List Char) :
    endsWord (s ++ t) = endsWord t := by
  cases hlast : s.getLast? with
  | none => rw [List.getLast?_eq_none_iff.1 hlast, List.nil_append]
  | some c =>
    obtain ⟨front, rfl⟩ := List.getLast?_eq_some_iff.1 hlast
    rw [List.append_assoc]
    exact endsWord_append_cons (isWord_of_isLineBreak (hs c hlast)) front t

end Text

namespace Document

open Text

/-! ## Pieces -/

/-- A piece that stands in a text, with no word in front of it that goes on into it. -/
def StandsIn (piece s : List Char) : Prop :=
  ∃ before behind, s = before ++ (piece ++ behind) ∧ endsWord before = false

/-- A piece that stands in a document with no percent sign in front of it on its line and no word
in front of it that goes on into it. -/
def Occurs (piece : List Char) (text : String) : Prop :=
  ∃ before behind, text.toList = before ++ (piece ++ behind) ∧ '%' ∉ lastLine before ∧
    endsWord before = false

namespace StandsIn

variable {piece part s t : List Char}

theorem refl (s : List Char) : StandsIn s s := ⟨[], [], by simp, rfl⟩

theorem trans (hpart : StandsIn part piece) (hpiece : StandsIn piece s) : StandsIn part s := by
  obtain ⟨before, behind, rfl, hbefore⟩ := hpiece
  obtain ⟨front, back, rfl, hfront⟩ := hpart
  exact ⟨before ++ front, back ++ behind, by simp only [List.append_assoc],
    endsWord_append_eq_false hbefore hfront⟩

theorem append_right (h : StandsIn piece s) (t : List Char) : StandsIn piece (s ++ t) :=
  h.trans ⟨[], t, rfl, rfl⟩

/-- What stands behind a character that belongs to no word. -/
theorem append_cons {c : Char} (h : StandsIn piece t) (hc : isWord c = false) (s : List Char) :
    StandsIn piece (s ++ c :: t) :=
  h.trans ⟨s ++ [c], [], by simp, by rw [endsWord_concat, hc]⟩

/-- A piece of a list that is joined by separators that end outside of words. -/
theorem join {sep : String} (hsep : sep.toList.getLast?.any (!isWord ·) = true)
    {pieces : List String} {p : String} (hp : p ∈ pieces) :
    StandsIn p.toList (Text.join sep pieces).toList := by
  obtain ⟨front, c, hfront, hc⟩ : ∃ front c, sep.toList = front ++ [c] ∧ isWord c = false := by
    cases hlast : sep.toList.getLast? with
    | none => simp [hlast] at hsep
    | some c =>
      obtain ⟨front, hfront⟩ := List.getLast?_eq_some_iff.1 hlast
      exact ⟨front, c, hfront, by simpa [hlast] using hsep⟩
  induction pieces with
  | nil => exact absurd hp List.not_mem_nil
  | cons q pieces ih =>
    cases pieces with
    | nil =>
      rw [List.mem_singleton.1 hp, join_singleton]
      exact refl _
    | cons next rest =>
      have htext : (Text.join sep (q :: next :: rest)).toList =
          q.toList ++ front ++ c :: (Text.join sep (next :: rest)).toList := by
        rw [toList_join_cons, hfront]
        simp only [List.append_assoc, List.cons_append, List.nil_append]
      rw [htext]
      obtain rfl | hp := List.mem_cons.1 hp
      · exact ((refl _).append_right front).append_right _
      · exact (ih hp).append_cons hc _

end StandsIn

/-- What stands in a piece without breaks and percent signs occurs wherever the piece does. -/
theorem Occurs.of_standsIn {part piece : List Char} {text : String} (h : Occurs piece text)
    (hpart : StandsIn part piece) (hline : IsLine piece) (hplain : '%' ∉ piece) :
    Occurs part text := by
  obtain ⟨before, behind, htext, hpercent, hbefore⟩ := h
  obtain ⟨front, back, rfl, hfront⟩ := hpart
  have hlineFront : IsLine front := hline.subset (List.subset_append_left _ _)
  refine ⟨before ++ front, back ++ behind, ?_, ?_, endsWord_append_eq_false hbefore hfront⟩
  · rw [htext]
    simp only [List.append_assoc]
  · rw [lastLine_append hlineFront, List.mem_append, not_or]
    exact ⟨hpercent, fun hmem ↦ hplain (List.mem_append_left _ hmem)⟩

/-! ## Code -/

theorem codeOfLines_cons (line : List Char) (others : List (List Char)) :
    ∃ back, codeOfLines (line :: others) = line.takeWhile (· != '%') ++ back := by
  cases others with
  | nil => exact ⟨[], by simp [codeOfLines]⟩
  | cons next others =>
    have hfront := codeOfLines_append (List.cons_ne_nil line []) (List.cons_ne_nil next others)
    have hline : codeOfLines [line] = line.takeWhile (· != '%') := by simp [codeOfLines]
    exact ⟨_, hline ▸ hfront⟩

/-- A piece of a line occurs in one of the lines of a text, behind a part without percent signs. -/
theorem Occurs.exists_line {piece : List Char} {text : String} (h : Occurs piece text)
    (hne : piece ≠ []) (hline : IsLine piece) : ∃ upper front tail others,
      splitLines text.toList = splitLines upper ++ (front ++ piece ++ tail) :: others ∧
        '%' ∉ front ∧ endsWord front = false := by
  obtain ⟨before, behind, htext, hpercent, hbefore⟩ := h
  obtain ⟨upper, hupper, hbreak⟩ := exists_upper before
  have hword : endsWord (lastLine before) = false := by
    rw [← hbreak.endsWord_append, ← hupper]
    exact hbefore
  have hstart : IsLine (lastLine before ++ piece) :=
    Text.isLine_append.2 ⟨isLine_lastLine before, hline⟩
  generalize lastLine before = front at hupper hstart hpercent hword
  have hstartNe : front ++ piece ≠ [] := List.append_ne_nil_of_right_ne_nil front hne
  have hhead : (front ++ piece ++ behind).head? ≠ some '\n' := by
    intro hfeed
    rw [List.head?_append_of_ne_nil _ hstartNe] at hfeed
    have hnot := hstart '\n' (List.mem_of_mem_head? hfeed)
    exact absurd hnot (by decide)
  obtain ⟨tail, others, hfirst⟩ := splitLines_line_cons hstart hstartNe behind
  refine ⟨upper, front, tail, others, ?_, hpercent, hword⟩
  rw [← hfirst, ← splitLines_append hbreak hhead, htext, hupper]
  simp only [List.append_assoc]

/-- A piece of a line that occurs in a text stands in its code. -/
theorem Occurs.standsIn_codeOf {piece : List Char} {text : String} (h : Occurs piece text)
    (hne : piece ≠ []) (hline : IsLine piece) (hplain : '%' ∉ piece) :
    StandsIn piece (codeOf text) := by
  obtain ⟨upper, front, tail, others, hlines, hpercent, hword⟩ := h.exists_line hne hline
  have hkept : (front ++ piece ++ tail).takeWhile (· != '%') =
      front ++ (piece ++ tail.takeWhile (· != '%')) := by
    have hstart : '%' ∉ front ++ piece := by simp [hpercent, hplain]
    rw [List.takeWhile_append_of_pos (bne_of_not_mem hstart), List.append_assoc]
  obtain ⟨back, hback⟩ := codeOfLines_cons (front ++ piece ++ tail) others
  have hcode : codeOf text = codeOfLines (splitLines text.toList) := rfl
  rw [hcode, hlines]
  -- the code of the lines above, if there are any, ends with a break
  by_cases hnone : splitLines upper = []
  · refine ⟨front, tail.takeWhile (· != '%') ++ back, ?_, hword⟩
    rw [hnone, List.nil_append, hback, hkept]
    simp only [List.append_assoc]
  · refine ⟨codeOfLines (splitLines upper) ++ '\n' :: front, tail.takeWhile (· != '%') ++ back, ?_,
      (endsWord_append_cons (by decide) _ front).trans hword⟩
    rw [codeOfLines_append hnone (List.cons_ne_nil _ _), hback, hkept]
    simp only [List.append_assoc, List.cons_append]

end Document

end GridPuzzle
