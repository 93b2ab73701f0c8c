import GridPuzzle.Constraint.Sentence
import GridPuzzle.Naming
import GridPuzzle.Proofs.Text.Char
import GridPuzzle.Proofs.Text.Line

/-!
# Words and signs of joined texts

The tokens of a text are those of its parts, if it is cut where no word goes on and outside of
comments, or behind the break of a line. Hence comments have no tokens, and the tokens of joined
texts are those of the texts with the tokens of the separator between them.
-/

namespace GridPuzzle.Token

open Text

/-! ## Texts that are cut -/

/-- Whether a comment is open at the end of a text. -/
def commentAfter (inComment : Bool) (s : List Char) : Bool :=
  s.foldl (fun inside c ↦ if inside then c != '\n' else c == '%') inComment

theorem commentAfter_of_notMem {s : List Char} (h : '%' ∉ s) : commentAfter false s = false := by
  induction s with
  | nil => rfl
  | cons c s ih =>
    obtain ⟨hc, hs⟩ := List.ne_and_not_mem_of_not_mem_cons h
    have hsign : (c == '%') = false := beq_eq_false_iff_ne.2 hc.symm
    simpa [commentAfter, hsign] using ih hs

/-- The first character of a text that starts with a word. -/
theorem allFrom_cons_word {c : Char} (hc : isIdentifierChar c = true) (s : List Char) :
    allFrom false (c :: s) = extend c (s.head?.any isIdentifierChar) (allFrom false s) := by
  have hnot (d : Char) (hd : isIdentifierChar d = false) : (c == d) = false := by
    refine beq_eq_false_iff_ne.2 ?_
    rintro rfl
    rw [hc] at hd
    cases hd
  simp [allFrom, hc, hnot '%' (by decide), hnot ' ' (by decide), hnot '\n' (by decide)]

theorem extend_ne_nil (c : Char) (adjoins : Bool) (tokens : List Token) :
    extend c adjoins tokens ≠ [] := by
  fun_cases extend c adjoins tokens <;> simp [*]

theorem allFrom_ne_nil {s : List Char} (h : s.head?.any isIdentifierChar = true) :
    allFrom false s ≠ [] := by
  cases s with
  | nil => cases h
  | cons c rest =>
    rw [allFrom_cons_word h]
    exact extend_ne_nil c _ _

theorem extend_append {c : Char} {adjoins : Bool} {tokens : List Token}
    (h : adjoins = true → tokens ≠ []) (more : List Token) :
    extend c adjoins (tokens ++ more) = extend c adjoins tokens ++ more := by
  cases tokens with
  | cons token tokens =>
    cases token with
    | word s => cases adjoins <;> rfl
    | sign d => rfl
  | nil =>
    obtain rfl : adjoins = false := by simpa using h
    cases more with
    | nil => rfl
    | cons token more => cases token <;> rfl

/-- A text may be cut in front of a character that does not go on with a word. -/
theorem allFrom_append {s t : List Char} (ht : t.head?.any isIdentifierChar = false)
    (inComment : Bool) :
    allFrom inComment (s ++ t) = allFrom inComment s ++ allFrom (commentAfter inComment s) t := by
  induction s generalizing inComment with
  | nil => rfl
  | cons c s ih =>
    have hadjoins : (s ++ t).head?.any isIdentifierChar = s.head?.any isIdentifierChar := by
      cases s with
      | nil => exact ht
      | cons d s => rfl
    have hafter : commentAfter inComment (c :: s) =
        commentAfter (if inComment then c != '\n' else c == '%') s := rfl
    rw [List.cons_append, allFrom, allFrom, hafter, hadjoins]
    simp only [ih]
    split
    · rfl
    split
    next hpercent => rw [hpercent]
    next hpercent =>
      have hoff : (c == '%') = false := by simpa using hpercent
      rw [hoff]
      split
      · rfl
      split
      · exact extend_append allFrom_ne_nil _
      · rfl

/-- A text may be cut behind the break of a line. -/
theorem all_append_break (s t : List Char) : all (s ++ '\n' :: t) = all s ++ all t := by
  have hbreak (inside : Bool) : allFrom inside ('\n' :: t) = all t := by cases inside <;> rfl
  rw [all, allFrom_append rfl, hbreak]
  rfl

variable {s t : List Char}

theorem all_append (hs : '%' ∉ s) (ht : t.head?.any isIdentifierChar = false) :
    all (s ++ t) = all s ++ all t := by
  rw [all, allFrom_append ht, commentAfter_of_notMem hs]
  rfl

theorem all_append_cons {c : Char} (hs : '%' ∉ s) (hc : isIdentifierChar c = false) :
    all (s ++ c :: t) = all s ++ all (c :: t) := all_append hs hc

theorem all_space : all (' ' :: s) = all s := rfl

/-- A character that stands for itself. -/
def isSign (c : Char) : Bool := c != '%' && c != ' ' && c != '\n' && !isIdentifierChar c

theorem all_sign {c : Char} (hc : isSign c = true) : all (c :: s) = sign c :: all s := by
  simp only [isSign, Bool.and_eq_true, bne_iff_ne, Bool.not_eq_true'] at hc
  obtain ⟨⟨⟨hpercent, hspace⟩, hbreak⟩, hword⟩ := hc
  simp [all, allFrom, hpercent, hspace, hbreak, hword]

theorem all_word (hne : s ≠ []) (h : ∀ c ∈ s, isIdentifierChar c = true) : all s = [word s] := by
  induction s with
  | nil => exact absurd rfl hne
  | cons c s ih =>
    obtain ⟨hc, hs⟩ := List.forall_mem_cons.1 h
    have hstep : all (c :: s) = extend c (s.head?.any isIdentifierChar) (all s) :=
      allFrom_cons_word hc s
    cases s with
    | nil => exact hstep
    | cons d s =>
      have hd : isIdentifierChar d = true := hs d List.mem_cons_self
      rw [hstep, ih (List.cons_ne_nil d s) hs]
      simp [hd, extend]

/-! ## Comments and joined texts -/

theorem allFrom_comment {s : List Char} (h : '\n' ∉ s) : allFrom true s = [] := by
  induction s with
  | nil => rfl
  | cons c s ih =>
    obtain ⟨hc, hs⟩ := List.ne_and_not_mem_of_not_mem_cons h
    have hinside : (c != '\n') = true := bne_iff_ne.2 hc.symm
    rw [allFrom, if_pos rfl, hinside]
    exact ih hs

theorem all_commentLine {l : String} (hl : IsLine l.toList) : all (commentLine l).toList = [] := by
  obtain ⟨rest, heq, hstart⟩ :=
    exists_trimEnd_cons (by decide : isBlank '%' = false) (' ' :: l.toList)
  have htext : (commentLine l).toList = '%' :: rest := by
    simpa [commentLine, stripEnd] using heq
  have hbreak : '\n' ∉ rest := fun hmem ↦ by
    obtain h | hmem := List.mem_cons.1 (hstart.subset hmem)
    · cases h
    · exact Bool.noConfusion (hl '\n' hmem)
  rw [htext]
  exact allFrom_comment hbreak

theorem all_unlines (ls : List String) :
    all (unlines ls).toList = ls.flatMap fun l ↦ all l.toList := by
  induction ls with
  | nil => rfl
  | cons l ls ih =>
    cases ls with
    | nil => rw [unlines_singleton, List.flatMap_singleton]
    | cons next ls => rw [List.flatMap_cons, ← ih, toList_unlines_cons, all_append_break]

/-- A comment has no tokens, whatever its text. -/
theorem all_comment (text : String) : all (comment text).toList = [] := by
  rw [comment, all_unlines, List.flatMap_eq_nil_iff]
  intro l hl
  obtain ⟨line, hline, rfl⟩ := List.mem_map.1 hl
  obtain ⟨chars, hchars, rfl⟩ := List.mem_map.1 hline
  exact all_commentLine (by simpa using isLine_of_mem_splitLines hchars)

/-- Two texts with a sign between them and spaces around it. -/
theorem all_operator (hs : '%' ∉ s) {c : Char} (hc : isSign c = true) :
    all (s ++ ' ' :: c :: ' ' :: t) = all s ++ sign c :: all t := by
  rw [all_append_cons hs (by decide), all_space, all_sign hc, all_space]

/-- Texts that are joined by a separator with a space at its end. -/
theorem all_join {sep : String} (front : List Char) (hsep : sep.toList = front ++ [' '])
    (hfront : '%' ∉ front ∧ front.head?.any isIdentifierChar = false) {pieces : List String}
    (h : ∀ p ∈ pieces, '%' ∉ p.toList) :
    all (join sep pieces).toList = (all front).intercalate (pieces.map fun p ↦ all p.toList) := by
  induction pieces with
  | nil =>
    rw [toList_join]
    rfl
  | cons p pieces ih =>
    obtain ⟨hp, hrest⟩ := List.forall_mem_cons.1 h
    cases pieces with
    | nil => simp [toList_join, List.intercalate]
    | cons q pieces =>
      have hcut (t : List Char) : (front ++ ' ' :: t).head?.any isIdentifierChar = false := by
        cases front with
        | nil => rfl
        | cons c front => exact hfront.2
      rw [toList_join_cons, hsep, List.append_assoc, List.singleton_append, all_append hp (hcut _),
        all_append_cons hfront.1 (by decide), all_space, ih hrest, List.map_cons, List.map_cons,
        List.map_cons, List.intercalate_cons_cons, List.append_assoc]

end GridPuzzle.Token
