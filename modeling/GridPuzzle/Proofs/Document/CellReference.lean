import GridPuzzle.Proofs.Document.Spelling

/-!
# References found in code

`Refers` says of a piece of text that only references of a kind start in it, whatever stands before
and behind it. Pieces of this sort can be put together. A piece without brackets is one, as long as
it does not end in the middle of a name; so is one in which brackets open no coordinates, and so is
an element of an array of which the reference is of the kind.
-/

namespace GridPuzzle.CellReference

/-- Only references of a kind start in the text, whatever stands before and behind it. -/
def Refers (good : CellReference → Prop) (s : List Char) : Prop :=
  ∀ inWord rest, ∀ found ∈ allFrom inWord (s ++ rest), good found.1 ∨ found ∈ allFrom false rest

variable {good : CellReference → Prop}

/-! ## Putting pieces together -/

/-- What is found in the middle of a word is found at its start as well. -/
theorem mem_allFrom_false {inWord : Bool} {s : List Char} {found : CellReference × String}
    (h : found ∈ allFrom inWord s) : found ∈ allFrom false s := by
  cases inWord with
  | false => exact h
  | true =>
    cases s with
    | nil => exact h
    | cons c rest =>
      unfold allFrom at h ⊢
      simp only [Bool.true_or, if_true] at h
      split
      · exact h
      · split
        · exact List.mem_cons_of_mem _ h
        · exact h

theorem allFrom_true_cons (c : Char) (rest : List Char) :
    allFrom true (c :: rest) = allFrom (Text.isWord c) rest := by
  simp [allFrom]

theorem allFrom_of_not_letter {c : Char} (hc : Text.isAsciiLetter c = false) (inWord : Bool)
    (rest : List Char) : allFrom inWord (c :: rest) = allFrom (Text.isWord c) rest := by
  simp [allFrom, hc]

theorem allFrom_of_read?_eq_none {c : Char} {rest : List Char} (h : read? (c :: rest) = none)
    (inWord : Bool) : allFrom inWord (c :: rest) = allFrom (Text.isWord c) rest := by
  simp [allFrom, h]

theorem Refers.nil : Refers good [] := fun _ _ _ hfound ↦ .inr (mem_allFrom_false hfound)

theorem Refers.append {s t : List Char} (hs : Refers good s) (ht : Refers good t) :
    Refers good (s ++ t) := by
  intro inWord rest found hfound
  rw [List.append_assoc] at hfound
  obtain h | h := hs inWord (t ++ rest) found hfound
  · exact .inl h
  · exact ht false rest found h

theorem Refers.cons {c : Char} {s : List Char} (hc : Text.isAsciiLetter c = false)
    (hs : Refers good s) : Refers good (c :: s) := by
  intro inWord rest found hfound
  rw [List.cons_append, allFrom_of_not_letter hc] at hfound
  exact hs _ rest found hfound

theorem Refers.of_not_letters {s : List Char} (h : ∀ c ∈ s, Text.isAsciiLetter c = false) :
    Refers good s := by
  induction s with
  | nil => exact .nil
  | cons c s ih =>
    exact .cons (h c List.mem_cons_self) (ih fun d hd ↦ h d (List.mem_cons_of_mem c hd))

/-! ## Pieces without references -/

/-- Whether no bracket in a text can open coordinates, nor one behind the end of the text. -/
def isInert : List Char → Bool
  | [] => true
  | [c] => !Text.isIdentifierChar c && c != '['
  | c :: d :: rest =>
    (c != '[' || (!Text.isBlank d && !Text.isDigit d)) && isInert (d :: rest)

theorem readPlace?_eq_none (array : String) {d : Char} (hblank : Text.isBlank d = false)
    (hdigit : Text.isDigit d = false) (s : List Char) : readPlace? array (d :: s) = none := by
  have hnumber : readNumber? (d :: s) = none := by
    simp [readNumber?, Text.trimStart, hblank, hdigit, Text.digits?]
  rw [readPlace?, hnumber]
  rfl

/-- Behind the rest of a name that starts in an inert text there are no coordinates. -/
theorem expect?_bind_readPlace?_eq_none {s : List Char} (hne : s ≠ []) (h : isInert s = true)
    (array : String) (rest : List Char) :
    (expect? '[' ((s ++ rest).dropWhile Text.isIdentifierChar)).bind (readPlace? array) = none := by
  fun_induction isInert s with
  | case1 => exact absurd rfl hne
  | case2 c =>
    obtain ⟨hidentifier, hbracket⟩ : Text.isIdentifierChar c = false ∧ c ≠ '[' := by simpa using h
    simp [hidentifier, expect?, hbracket]
  | case3 c d t ih =>
    obtain ⟨hbracket, hinert⟩ := Bool.and_eq_true_iff.1 h
    cases hidentifier : Text.isIdentifierChar c with
    | true => simpa [hidentifier] using ih (List.cons_ne_nil d t) hinert
    | false =>
      by_cases hc : c = '['
      · obtain ⟨hblank, hdigit⟩ : Text.isBlank d = false ∧ Text.isDigit d = false := by
          simpa [hc] using hbracket
        have hplace := readPlace?_eq_none array hblank hdigit (t ++ rest)
        simp [hidentifier, expect?, hplace]
      · simp [hidentifier, expect?, hc]

theorem read?_eq_none {s : List Char} (hne : s ≠ []) (h : isInert s = true) (rest : List Char) :
    read? (s ++ rest) = none := by
  unfold read?
  have hplace := expect?_bind_readPlace?_eq_none hne h
    (String.ofList ((s ++ rest).takeWhile Text.isIdentifierChar)) rest
  by_cases hname : ((s ++ rest).takeWhile Text.isIdentifierChar).head?.any Text.isAsciiLetter = true
  · simpa [hname] using hplace
  · simp [hname]

theorem isInert_tail {c : Char} {s : List Char} (h : isInert (c :: s) = true) :
    isInert s = true := by
  cases s with
  | nil => rfl
  | cons d s => exact (Bool.and_eq_true_iff.1 h).2

theorem Refers.of_isInert {s : List Char} (h : isInert s = true) : Refers good s := by
  induction s with
  | nil => exact .nil
  | cons c s ih =>
    intro inWord rest found hfound
    have hnone := read?_eq_none (List.cons_ne_nil c s) h rest
    rw [List.cons_append] at hnone hfound
    rw [allFrom_of_read?_eq_none hnone] at hfound
    exact ih (isInert_tail h) _ rest found hfound

/-- A name with a bracket behind it that opens no coordinates. -/
theorem Refers.of_name {name s : List Char} (hname : ∀ c ∈ name, Text.isIdentifierChar c = true)
    (hplace : ∀ array rest, readPlace? array (s ++ rest) = none) (hs : Refers good s) :
    Refers good (name ++ '[' :: s) := by
  induction name with
  | nil => exact .cons (by decide) hs
  | cons c name ih =>
    intro inWord rest found hfound
    have hbracket : Text.isIdentifierChar '[' = false := by decide
    have hdrop : (c :: name ++ '[' :: s ++ rest).dropWhile Text.isIdentifierChar =
        '[' :: (s ++ rest) := by
      rw [List.append_assoc, List.dropWhile_append_of_pos hname]
      simp [hbracket]
    have hread : read? (c :: (name ++ '[' :: s ++ rest)) = none := by
      unfold read?
      rw [← List.cons_append, ← List.cons_append, hdrop]
      simp [expect?, hplace]
    rw [List.cons_append, List.cons_append, allFrom_of_read?_eq_none hread] at hfound
    exact ih (fun d hd ↦ hname d (List.mem_cons_of_mem c hd)) _ rest found hfound

/-! ## Elements of arrays -/

/-- Nothing starts in the rest of a name. -/
theorem allFrom_true_append {name : List Char}
    (hname : ∀ c ∈ name, Text.isIdentifierChar c = true) (s : List Char) :
    allFrom true (name ++ s) = allFrom true s := by
  induction name with
  | nil => rfl
  | cons c name ih =>
    have hword := Text.isWord_of_isIdentifierChar (hname c List.mem_cons_self)
    rw [List.cons_append, allFrom_true_cons, hword]
    exact ih fun d hd ↦ hname d (List.mem_cons_of_mem c hd)

theorem isAsciiLetter_of_mem_placeText {row col : Nat} :
    ∀ c ∈ placeText row col, Text.isAsciiLetter c = false := by
  have hdecimal (n : Nat) : ∀ c ∈ Text.decimal n, Text.isAsciiLetter c = false := fun c hc ↦
    Text.isAsciiLetter_of_isAsciiDigit (Text.isAsciiDigit_of_mem_decimal n c hc)
  intro c hc
  simp only [placeText, List.mem_cons, List.mem_append, List.not_mem_nil, or_false] at hc
  obtain rfl | hc | rfl | rfl | hc | rfl := hc
  all_goals first | exact hdecimal _ c hc | decide

/-- The only reference that starts in an element is the element's own. -/
theorem Refers.element {array : List Char} (harray : isPlainIdentifier array = true) {row col : Nat}
    (hgood : good (ofElement array row col)) : Refers good (array ++ placeText row col) := by
  intro inWord rest found hfound
  have hplace : Refers good (placeText row col) := .of_not_letters isAsciiLetter_of_mem_placeText
  have hread := read?_element harray row col rest
  have hchars := isIdentifierChar_of_plain harray
  rw [List.append_assoc] at hfound
  replace hfound := mem_allFrom_false hfound
  cases array with
  | nil => simp [isPlainIdentifier] at harray
  | cons c name =>
    have hletter : Text.isAsciiLetter c = true := (Bool.and_eq_true_iff.1 harray).1
    have hword := Text.isWord_of_isIdentifierChar (hchars c List.mem_cons_self)
    rw [List.cons_append] at hread hfound
    simp only [allFrom, hletter, hread, hword, Bool.not_true, Bool.or_false, Bool.false_eq_true,
      if_false, List.mem_cons] at hfound
    obtain rfl | hfound := hfound
    · exact .inl hgood
    · rw [allFrom_true_append fun d hd ↦ hchars d (List.mem_cons_of_mem c hd)] at hfound
      exact hplace true rest found hfound

end GridPuzzle.CellReference
