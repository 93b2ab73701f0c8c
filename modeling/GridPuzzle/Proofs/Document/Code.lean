import GridPuzzle.Document.Code
import Mathlib

/-!
# Declarations found in code

The reader of declarations looks at the starts of lines. `Declares` says which names it finds in
code that begins there, whatever follows on the next lines, so the names of code joined from lines
are those of the lines in order. A line without a colon declares nothing, unless it starts like an
array or a predicate.
-/

namespace GridPuzzle.Document

/-- A text that starts where a line ends. -/
def EndsLine (tail : List Char) : Prop := tail = [] ∨ ∃ rest, tail = '\n' :: rest

/-- Code from the start of a line to the end of one in which the reader finds the given names. -/
def Declares (code : List Char) (names : List (List Char)) : Prop :=
  ∀ tail, EndsLine tail → declaredFrom 0 true (code ++ tail) = names ++ declaredFrom 0 false tail

/-! ## Reading from the start of a line -/

theorem item?_break (rest : List Char) : item? ('\n' :: rest) = none := rfl

theorem predicate?_break (rest : List Char) : predicate? ('\n' :: rest) = none := rfl

theorem declaredFrom_true_of_endsLine {tail : List Char} (h : EndsLine tail) :
    declaredFrom 0 true tail = declaredFrom 0 false tail := by
  obtain rfl | ⟨rest, rfl⟩ := h
  · rfl
  · simp [declaredFrom, item?_break, predicate?_break]

theorem declaredFrom_false_break (rest : List Char) :
    declaredFrom 0 false ('\n' :: rest) = declaredFrom 0 true rest := by
  simp [declaredFrom]

/-- Nothing is found behind the start of a line up to its end. -/
theorem declaredFrom_rest {line : List Char} (hline : '\n' ∉ line) {skip : Nat}
    (hskip : skip ≤ line.length) (tail : List Char) :
    declaredFrom skip false (line ++ tail) = declaredFrom 0 false tail := by
  induction line generalizing skip with
  | nil =>
    obtain rfl : skip = 0 := by simpa using hskip
    rfl
  | cons c line ih =>
    obtain ⟨hc, hline⟩ := List.ne_and_not_mem_of_not_mem_cons hline
    have hbreak : (c == '\n') = false := by simpa using hc.symm
    have hrest : skip - 1 ≤ line.length := by
      simp only [List.length_cons] at hskip
      omega
    simpa [declaredFrom, hbreak] using ih hline hrest

theorem Declares.nil : Declares [] [] := fun _ htail ↦ declaredFrom_true_of_endsLine htail

theorem Declares.append {first second : List Char} {names more : List (List Char)}
    (h₁ : Declares first names) (h₂ : Declares second more) :
    Declares (first ++ '\n' :: second) (names ++ more) := by
  intro tail htail
  calc declaredFrom 0 true (first ++ '\n' :: second ++ tail)
      = declaredFrom 0 true (first ++ '\n' :: (second ++ tail)) := by simp
    _ = names ++ declaredFrom 0 true (second ++ tail) := by
      rw [h₁ _ (.inr ⟨_, rfl⟩), declaredFrom_false_break]
    _ = names ++ more ++ declaredFrom 0 false tail := by rw [h₂ tail htail, List.append_assoc]

/-! ## One line -/

/-- A line declares what is found at its start, and the rest of it is skipped. -/
theorem Declares.of_start {c : Char} {line : List Char} {names : List (List Char)}
    (hline : '\n' ∉ c :: line)
    (h : ∀ tail, EndsLine tail → ∃ skip ≤ line.length, declaredFrom 0 true (c :: (line ++ tail)) =
      names ++ declaredFrom skip false (line ++ tail)) : Declares (c :: line) names := by
  intro tail htail
  obtain ⟨skip, hskip, heq⟩ := h tail htail
  rw [List.cons_append, heq, declaredFrom_rest (List.not_mem_of_not_mem_cons hline) hskip tail]

theorem beq_break_eq_false {c : Char} {line : List Char} (h : '\n' ∉ c :: line) :
    (c == '\n') = false := by
  simpa using (List.ne_of_not_mem_cons h).symm

/-- A line at whose start there is neither an item nor a predicate. -/
theorem Declares.of_none {line : List Char} (hline : '\n' ∉ line)
    (hitem : ∀ tail, EndsLine tail → item? (line ++ tail) = none)
    (hpredicate : ∀ tail, EndsLine tail → predicate? (line ++ tail) = none) :
    Declares line [] := by
  cases line with
  | nil => exact fun tail htail ↦ declaredFrom_true_of_endsLine htail
  | cons c line =>
    refine .of_start hline fun tail htail ↦ ⟨0, Nat.zero_le _, ?_⟩
    have hi := hitem tail htail
    have hp := hpredicate tail htail
    rw [List.cons_append] at hi hp
    simp [declaredFrom, hi, hp, beq_break_eq_false hline]

theorem declaredFrom_item {c : Char} {rest name behind : List Char}
    (h : item? (c :: rest) = some (name, behind)) : declaredFrom 0 true (c :: rest) =
      name :: declaredFrom (rest.length - behind.length) (c == '\n') rest := by
  simp [declaredFrom, h]

/-- A line that starts with an item. -/
theorem Declares.of_item {line name behind : List Char} (hline : '\n' ∉ line)
    (hlength : behind.length < line.length)
    (hitem : ∀ tail, EndsLine tail → item? (line ++ tail) = some (name, behind ++ tail)) :
    Declares line [name] := by
  cases line with
  | nil => simp at hlength
  | cons c line =>
    refine .of_start hline fun tail htail ↦
      ⟨(line ++ tail).length - (behind ++ tail).length, ?_, ?_⟩
    · simp only [List.length_append]
      omega
    · have hi := hitem tail htail
      rw [List.cons_append] at hi
      rw [declaredFrom_item hi, beq_break_eq_false hline]
      rfl

/-- A line that starts with a predicate. -/
theorem Declares.of_predicate {line name : List Char} (hline : '\n' ∉ line)
    (hitem : ∀ tail, EndsLine tail → item? (line ++ tail) = none)
    (hpredicate : ∀ tail, EndsLine tail → predicate? (line ++ tail) = some name) :
    Declares line [name] := by
  cases line with
  | nil =>
    have hp : none = some name := hpredicate [] (.inl rfl)
    exact absurd hp (Option.some_ne_none name).symm
  | cons c line =>
    refine .of_start hline fun tail htail ↦ ⟨0, Nat.zero_le _, ?_⟩
    have hi := hitem tail htail
    have hp := hpredicate tail htail
    rw [List.cons_append] at hi hp
    simp [declaredFrom, hi, hp, beq_break_eq_false hline]

/-! ## Lines that declare nothing -/

theorem behindRun?_append_cons {inRun : Char → Bool} {closing c : Char} {run rest : List Char}
    (hrun : ∀ d ∈ run, inRun d = true) (hc : inRun c = false) (hne : run ≠ []) :
    behindRun? inRun closing (run ++ c :: rest) = if c = closing then some rest else none := by
  unfold behindRun?
  rw [List.takeWhile_append_of_pos hrun, List.dropWhile_append_of_pos hrun,
    List.takeWhile_cons_of_neg (by simp [hc]), List.dropWhile_cons_of_neg (by simp [hc]),
    List.append_nil]
  cases run with
  | nil => exact absurd rfl hne
  | cons d run => simp

/-- No type ends with a colon in a line that has none. -/
theorem behindRun?_isTypeChar_eq_none {line : List Char} (hcolon : ':' ∉ line) {tail : List Char}
    (htail : EndsLine tail) : behindRun? isTypeChar ':' (line ++ tail) = none := by
  have hhead : ((line ++ tail).dropWhile isTypeChar).head? ≠ some ':' := by
    have hbreak : isTypeChar '\n' = false := by decide
    rw [List.dropWhile_append]
    cases hdrop : line.dropWhile isTypeChar with
    | nil =>
      obtain rfl | ⟨rest, rfl⟩ := htail
      · simp
      · simp [hbreak]
    | cons c rest =>
      have hmem : c ∈ line := (List.dropWhile_suffix isTypeChar).subset (by simp [hdrop])
      simpa using ne_of_mem_of_not_mem hmem hcolon
  unfold behindRun?
  split
  next c rest _ hdrop =>
    rw [hdrop] at hhead
    have hne : (c == ':') = false := by simpa using hhead
    rw [hne, if_neg Bool.false_ne_true]
  next => rfl

theorem item?_eq_none {line : List Char} (hcolon : ':' ∉ line) {tail : List Char}
    (htail : EndsLine tail) (harray : behind? "array[".toList (skipBlanks (line ++ tail)) = none) :
    item? (line ++ tail) = none := by
  unfold item? behindItemType?
  rw [harray, behindRun?_isTypeChar_eq_none hcolon htail]
  rfl

/-- The first characters of blanks, of array declarations and of the keywords of predicates. -/
def declarationStarts : List Char := [' ', '\t', 'a', 'p', 't', 'f']

theorem behind?_cons_of_ne {b c : Char} (h : b ≠ c) (bs s : List Char) :
    behind? (b :: bs) (c :: s) = none := by
  simp [behind?, h]

/-- A line without a colon that does not start like a declaration. -/
theorem Declares.of_head {line : List Char} (hline : '\n' ∉ line) (hcolon : ':' ∉ line)
    (hhead : line.head?.all (!declarationStarts.contains ·) = true) : Declares line [] := by
  cases line with
  | nil => exact .nil
  | cons c line =>
    have hc : c ∉ declarationStarts := by simpa using hhead
    simp only [declarationStarts, List.mem_cons, List.not_mem_nil, or_false, not_or] at hc
    obtain ⟨hspace, htab, ha, hp, ht, hf⟩ := hc
    have hblank : Text.isSpaceOrTab c = false := by simp [Text.isSpaceOrTab, hspace, htab]
    have hskip (s : List Char) : skipBlanks (c :: s) = c :: s := by simp [skipBlanks, hblank]
    refine .of_none hline (fun tail htail ↦ item?_eq_none hcolon htail ?_) fun tail _ ↦ ?_
    · rw [List.cons_append, hskip]
      exact behind?_cons_of_ne (Ne.symm ha) _ _
    · have hkeyword : behindPredicateKeyword? (c :: (line ++ tail)) = none := by
        unfold behindPredicateKeyword?
        have h₁ : behind? "predicate".toList (c :: (line ++ tail)) = none :=
          behind?_cons_of_ne (Ne.symm hp) _ _
        have h₂ : behind? "test".toList (c :: (line ++ tail)) = none :=
          behind?_cons_of_ne (Ne.symm ht) _ _
        have h₃ : behind? "function".toList (c :: (line ++ tail)) = none :=
          behind?_cons_of_ne (Ne.symm hf) _ _
        rw [h₁, h₂, h₃]
        rfl
      rw [List.cons_append, predicate?, hskip, hkeyword]
      rfl

end GridPuzzle.Document
