import GridPuzzle.Proofs.Document.Occurrence

/-!
# The search for references

The references of a text are those that a search from left to right finds which goes on behind each
reference it has found: no reference starts inside another one. Hence a reference is found wherever
it stands with no word in front that goes on into it, whatever stands around it.
-/

namespace GridPuzzle.CellReference

open Document (StandsIn)

/-- The references that a search finds which goes on behind each reference that it has found, where
`skip` counts the characters that are left of the last one, and `inWord` says whether a word
character stands before the text. -/
def searchFrom (skip : Nat) (inWord : Bool) : List Char → List (CellReference × String)
  | [] => []
  | c :: rest =>
    let found := if !inWord && skip == 0 then read? (c :: rest) else none
    match found with
    | some (reference, behind) =>
      (reference, String.ofList ((c :: rest).take (rest.length + 1 - behind.length))) ::
        searchFrom (rest.length - behind.length) (Text.isWord c) rest
    | none => searchFrom (skip - 1) (Text.isWord c) rest

def search (s : List Char) : List (CellReference × String) := searchFrom 0 false s

/-! ## Behind a reference -/

theorem searchFrom_succ (skip : Nat) (inWord : Bool) (c : Char) (rest : List Char) :
    searchFrom (skip + 1) inWord (c :: rest) = searchFrom skip (Text.isWord c) rest := by
  simp [searchFrom]

theorem searchFrom_of_read?_eq_none {c : Char} {rest : List Char} (h : read? (c :: rest) = none)
    (inWord : Bool) : searchFrom 0 inWord (c :: rest) = searchFrom 0 (Text.isWord c) rest := by
  simp [searchFrom, h]

/-- The search goes on where the last reference ends. -/
theorem searchFrom_skip (inner : List Char) (d : Char) (rest : List Char) (inWord : Bool) :
    searchFrom (inner.length + 1) inWord (inner ++ d :: rest) =
      searchFrom 0 (Text.isWord d) rest := by
  induction inner generalizing inWord with
  | nil => exact searchFrom_succ 0 inWord d rest
  | cons c inner ih =>
    rw [List.cons_append, List.length_cons, searchFrom_succ]
    exact ih (Text.isWord c)

theorem allFrom_append_of_not_letters {s : List Char}
    (hs : ∀ c ∈ s, Text.isAsciiLetter c = false) {d : Char} (hd : Text.isAsciiLetter d = false)
    (rest : List Char) (inWord : Bool) :
    allFrom inWord (s ++ d :: rest) = allFrom (Text.isWord d) rest := by
  induction s generalizing inWord with
  | nil => exact allFrom_of_not_letter hd inWord rest
  | cons c s ih =>
    obtain ⟨hc, hs⟩ := List.forall_mem_cons.1 hs
    rw [List.cons_append, allFrom_of_not_letter hc]
    exact ih hs (Text.isWord c)

/-- No reference starts inside another one. -/
theorem Spells.exists_inner {written : List Char} {reference : CellReference}
    (h : Spells written reference) : ∃ c inner, written = c :: (inner ++ [']']) ∧
      Text.isAsciiLetter c = true ∧
      ∀ rest, allFrom (Text.isWord c) (inner ++ ']' :: rest) = allFrom false rest := by
  cases h with
  | @intro array rowField row colField col m n harray hrowField hrow hcolField hcol =>
    cases array with
    | nil => simp [isPlainIdentifier] at harray
    | cons c name =>
      have hname := isIdentifierChar_of_plain harray
      have hpadded {field digits : List Char} {k : Nat} (hfield : Text.IsPadded field digits)
          (hdigits : Text.DigitsDenote digits k) : ∀ d ∈ field, Text.isAsciiLetter d = false := by
        obtain ⟨before, behind, rfl, hbefore, hbehind⟩ := hfield
        intro d hd
        simp only [List.mem_append] at hd
        obtain hd | hd | hd := hd
        · exact Text.isAsciiLetter_of_isBlank (hbefore d hd)
        · exact Text.isAsciiLetter_of_isDigit (hdigits.isDigit d hd)
        · exact Text.isAsciiLetter_of_isBlank (hbehind d hd)
      have hplace : ∀ d ∈ '[' :: (rowField ++ ',' :: colField), Text.isAsciiLetter d = false := by
        intro d hd
        simp only [List.mem_cons, List.mem_append] at hd
        obtain rfl | hd | rfl | hd := hd
        · decide
        · exact hpadded hrowField hrow d hd
        · decide
        · exact hpadded hcolField hcol d hd
      have hword := Text.isWord_of_isIdentifierChar (hname c List.mem_cons_self)
      refine ⟨c, name ++ '[' :: (rowField ++ ',' :: colField), by simp, ?_, fun rest ↦ ?_⟩
      · exact (Bool.and_eq_true_iff.1 harray).1
      · rw [hword, List.append_assoc,
          allFrom_true_append fun d hd ↦ hname d (List.mem_cons_of_mem c hd)]
        exact allFrom_append_of_not_letters hplace (by decide) rest true

/-! ## What is found -/

theorem searchFrom_eq_allFrom (s : List Char) (inWord : Bool) :
    searchFrom 0 inWord s = allFrom inWord s := by
  -- the search skips what it has read, so the induction is on the length of what is left
  induction hlength : s.length using Nat.strong_induction_on generalizing s inWord with
  | _ length ih =>
    cases s with
    | nil => rfl
    | cons c rest =>
      have hrest (w : Bool) : searchFrom 0 w rest = allFrom w rest :=
        ih rest.length (by simp [← hlength]) rest w rfl
      cases hread : read? (c :: rest) with
      | none => rw [searchFrom_of_read?_eq_none hread, allFrom_of_read?_eq_none hread, hrest]
      | some found =>
        obtain ⟨reference, behind⟩ := found
        cases inWord with
        | true =>
          rw [allFrom_true_cons, ← hrest]
          simp [searchFrom]
        | false =>
          obtain ⟨written, hspells, htext⟩ := read?_eq_some.1 hread
          obtain ⟨d, inner, rfl, hletter, hinner⟩ := hspells.exists_inner
          obtain ⟨rfl, rfl⟩ : c = d ∧ rest = inner ++ ']' :: behind := by simpa using htext
          have hskip : (inner ++ ']' :: behind).length - behind.length = inner.length + 1 := by
            simp only [List.length_append, List.length_cons]
            omega
          have hbehind : searchFrom 0 (Text.isWord ']') behind = allFrom false behind := by
            apply ih behind.length _ behind _ rfl
            simp only [← hlength, List.length_cons, List.length_append]
            omega
          simp only [searchFrom, allFrom, hread, hletter, hskip, Bool.not_false, Bool.not_true,
            Bool.or_self, Bool.and_self, beq_self_eq_true, Bool.false_eq_true, if_true, if_false]
          rw [searchFrom_skip, hbehind, hinner]

theorem search_eq_allIn (s : List Char) : search s = allIn s := searchFrom_eq_allFrom s false

/-- A reference is found behind any text in which no word goes on into it. -/
theorem mem_allFrom_append {found : CellReference × String} {s : List Char}
    (h : found ∈ allFrom false s) {before : List Char} (hbefore : Text.endsWord before = false)
    {inWord : Bool} (hnil : before = [] → inWord = false) :
    found ∈ allFrom inWord (before ++ s) := by
  induction before generalizing inWord with
  | nil =>
    rw [hnil rfl]
    exact h
  | cons c before ih =>
    have hrest : found ∈ allFrom (Text.isWord c) (before ++ s) := by
      cases before with
      | nil => exact ih rfl fun _ ↦ by rwa [← Text.endsWord_concat [] c]
      | cons d before =>
        apply ih _ fun hempty ↦ absurd hempty (List.cons_ne_nil d before)
        rwa [← Text.endsWord_cons_cons c]
    rw [List.cons_append]
    unfold allFrom
    split
    · exact hrest
    · split
      · exact List.mem_cons_of_mem _ hrest
      · exact hrest

/-- A reference is found with its own text where it is spelled. -/
theorem Spells.mem_allFrom {written : List Char} {reference : CellReference}
    (h : Spells written reference) (behind : List Char) :
    (reference, String.ofList written) ∈ allFrom false (written ++ behind) := by
  obtain ⟨c, inner, rfl, hletter, -⟩ := h.exists_inner
  have hread : read? (c :: (inner ++ [']']) ++ behind) = some (reference, behind) :=
    read?_eq_some.2 ⟨_, h, rfl⟩
  have hlength : (inner ++ [']'] ++ behind).length + 1 - behind.length =
      (c :: (inner ++ [']'])).length := by
    simp only [List.length_append, List.length_cons]
    omega
  have htake : (c :: (inner ++ [']'] ++ behind)).take (c :: (inner ++ [']'])).length =
      c :: (inner ++ [']']) := List.take_left
  rw [List.cons_append] at hread ⊢
  simp only [allFrom, hletter, hread, hlength, htake, Bool.not_true, Bool.or_self,
    Bool.false_eq_true, if_false]
  exact List.mem_cons_self

/-- A reference is found wherever it stands. -/
theorem Spells.mem_search {written : List Char} {reference : CellReference}
    (h : Spells written reference) {s : List Char} (hstands : StandsIn written s) :
    (reference, String.ofList written) ∈ search s := by
  obtain ⟨before, behind, rfl, hbefore⟩ := hstands
  rw [search_eq_allIn]
  exact mem_allFrom_append (h.mem_allFrom behind) hbefore fun _ ↦ rfl

end GridPuzzle.CellReference
