import GridPuzzle.Address
import GridPuzzle.Proofs.Document.Emitted

/-!
# Bodies of constraints

The body of an emitted constraint is written on one line without colons and semicolons, and its
references are of a given kind as long as it is not continued by a name or a bracket. Numerals,
elements of arrays and texts without opening brackets are such bodies, and so are bodies with
punctuation between them. A constraint with such a body declares nothing.
-/

namespace GridPuzzle.Document

open Text
open CellReference (Refers placeText ofElement)

/-- The characters of a body: no breaks, percent signs, colons or semicolons. -/
def isBodyChar (c : Char) : Bool := !isLineBreak c && c != '%' && c != ':' && c != ';'

/-- The characters between bodies: those that neither go on with a name nor open coordinates. -/
def isSeparatorChar (c : Char) : Bool := isBodyChar c && !isIdentifierChar c && c != '['

def isSeparator (s : List Char) : Bool := !s.isEmpty && s.all isSeparatorChar

/-- A text in which only references of a kind start, however it goes on behind it, as long as that
is neither with a name nor with a bracket. -/
structure IsBody (good : CellReference → Prop) (s : List Char) : Prop where
  chars : ∀ c ∈ s, isBodyChar c = true
  refers : ∀ c, isIdentifierChar c = false → c ≠ '[' → Refers good (s ++ [c])

variable {good : CellReference → Prop}

/-! ## Characters -/

theorem isBodyChar_of_isIdentifierChar {c : Char} (h : isIdentifierChar c = true) :
    isBodyChar c = true := by
  have hbreak := isLineBreak_of_isIdentifierChar h
  have hne (d : Char) (hd : isIdentifierChar d = false) : (c != d) = true := by
    refine bne_iff_ne.2 ?_
    rintro rfl
    rw [h] at hd
    exact Bool.noConfusion hd
  simp only [isBodyChar, hbreak, Bool.not_false, Bool.true_and, Bool.and_eq_true]
  exact ⟨⟨hne '%' (by decide), hne ':' (by decide)⟩, hne ';' (by decide)⟩

theorem isBodyChar_of_mem_decimal (n : Nat) : ∀ c ∈ decimal n, isBodyChar c = true := fun c hc ↦
  isBodyChar_of_isIdentifierChar
    (isIdentifierChar_of_isAsciiDigit (isAsciiDigit_of_mem_decimal n c hc))

theorem isBodyChar_of_mem_intText (n : Int) : ∀ c ∈ (intText n).toList, isBodyChar c = true := by
  intro c hc
  obtain hdigit | rfl := mem_toList_intText hc
  · exact isBodyChar_of_isIdentifierChar (isIdentifierChar_of_isAsciiDigit hdigit)
  · decide

theorem isBodyChar_of_mem_placeText (row col : Nat) :
    ∀ c ∈ placeText row col, isBodyChar c = true := by
  intro c hc
  simp only [placeText, List.mem_cons, List.mem_append, List.not_mem_nil, or_false] at hc
  obtain rfl | hc | rfl | rfl | hc | rfl := hc
  all_goals first | exact isBodyChar_of_mem_decimal _ c hc | decide

theorem isAsciiLetter_of_not_isIdentifierChar {c : Char} (h : isIdentifierChar c = false) :
    isAsciiLetter c = false := by
  simp only [isIdentifierChar, Bool.or_eq_false_iff] at h
  exact h.1.1

/-- A line of body characters holds neither breaks nor percent signs. -/
theorem isLine_of_isBodyChar {s : List Char} (h : ∀ c ∈ s, isBodyChar c = true) :
    IsLine s ∧ '%' ∉ s ∧ ':' ∉ s ∧ ';' ∉ s ∧ '\n' ∉ s := by
  have hnot (d : Char) (hd : isBodyChar d = false) : d ∉ s := fun hmem ↦ by
    rw [h d hmem] at hd
    exact Bool.noConfusion hd
  refine ⟨fun c hc ↦ ?_, hnot _ (by decide), hnot _ (by decide), hnot _ (by decide),
    hnot _ (by decide)⟩
  have hchar := h c hc
  simp only [isBodyChar, Bool.and_eq_true, Bool.not_eq_true'] at hchar
  exact hchar.1.1.1

/-! ## Parts of bodies -/

namespace IsBody

theorem nil : IsBody good [] :=
  ⟨by simp, fun _ hc _ ↦ .cons (isAsciiLetter_of_not_isIdentifierChar hc) .nil⟩

/-- A body behind any punctuation. -/
theorem cons {c : Char} {s : List Char} (hbody : isBodyChar c = true)
    (hc : isIdentifierChar c = false) (hs : IsBody good s) : IsBody good (c :: s) := by
  refine ⟨fun d hd ↦ ?_, fun d hd hne ↦ ?_⟩
  · obtain rfl | hd := List.mem_cons.1 hd
    · exact hbody
    · exact hs.chars d hd
  · exact .cons (isAsciiLetter_of_not_isIdentifierChar hc) (hs.refers d hd hne)

/-- Two bodies with punctuation between them that is not an opening bracket. -/
theorem append_cons {s t : List Char} {c : Char} (hs : IsBody good s) (hbody : isBodyChar c = true)
    (hc : isIdentifierChar c = false) (hne : c ≠ '[') (ht : IsBody good t) :
    IsBody good (s ++ c :: t) := by
  refine ⟨fun d hd ↦ ?_, fun d hd hd' ↦ ?_⟩
  · obtain hd | hd := List.mem_append.1 hd
    · exact hs.chars d hd
    · obtain rfl | hd := List.mem_cons.1 hd
      · exact hbody
      · exact ht.chars d hd
  · have happend := (hs.refers c hc hne).append (ht.refers d hd hd')
    simpa using happend

theorem of_refers {s : List Char} (hchars : ∀ c ∈ s, isBodyChar c = true) (hs : Refers good s) :
    IsBody good s :=
  ⟨hchars, fun _ hc _ ↦ hs.append (.cons (isAsciiLetter_of_not_isIdentifierChar hc) .nil)⟩

theorem isInert_concat {s : List Char} (hs : '[' ∉ s) {c : Char} (hc : isIdentifierChar c = false)
    (hne : c ≠ '[') : CellReference.isInert (s ++ [c]) = true := by
  induction s with
  | nil => simp [CellReference.isInert, hc, hne]
  | cons d s ih =>
    obtain ⟨hd, hs⟩ := List.ne_and_not_mem_of_not_mem_cons hs
    have hrest := ih hs
    have hbracket : (d != '[') = true := bne_iff_ne.2 hd.symm
    cases s with
    | nil => simpa [CellReference.isInert, hbracket] using hrest
    | cons e s => simpa [CellReference.isInert, hbracket] using hrest

theorem of_no_bracket {s : List Char} (hchars : ∀ c ∈ s, isBodyChar c = true) (hs : '[' ∉ s) :
    IsBody good s :=
  ⟨hchars, fun _ hc hne ↦ .of_isInert (isInert_concat hs hc hne)⟩

/-- A fixed text without opening brackets. -/
theorem fixed {s : List Char} (h : s.all (fun c ↦ isBodyChar c && c != '[') = true) :
    IsBody good s := by
  have hall : ∀ c ∈ s, isBodyChar c = true ∧ c ≠ '[' := fun c hc ↦ by
    simpa using List.all_eq_true.1 h c hc
  exact of_no_bracket (fun c hc ↦ (hall c hc).1) fun hmem ↦ (hall '[' hmem).2 rfl

theorem intText (n : Int) : IsBody good (Text.intText n).toList := by
  refine of_no_bracket (isBodyChar_of_mem_intText n) fun hmem ↦ ?_
  obtain h | h := mem_toList_intText hmem
  · exact absurd h (by decide)
  · exact absurd h (by decide)

theorem element {array : List Char} (harray : isPlainIdentifier array = true) {row col : Nat}
    (hgood : good (ofElement array row col)) : IsBody good (array ++ placeText row col) := by
  refine of_refers (fun c hc ↦ ?_) (.element harray hgood)
  obtain hc | hc := List.mem_append.1 hc
  · exact isBodyChar_of_isIdentifierChar (isIdentifierChar_of_plain harray c hc)
  · exact isBodyChar_of_mem_placeText row col c hc

/-- Two bodies with a sign between them and spaces around it. -/
theorem operator {s t m : List Char} (hs : IsBody good s) (hm : m.all isBodyChar = true)
    (hbracket : '[' ∉ m) (ht : IsBody good t) : IsBody good (s ++ ' ' :: (m ++ ' ' :: t)) :=
  hs.append_cons (by decide) (by decide) (by decide)
    ((of_no_bracket (List.all_eq_true.1 hm) hbracket).append_cons (by decide) (by decide)
      (by decide) ht)

/-- A name with a body in round brackets behind it, and another body behind these. -/
theorem call {s t u : List Char} (hs : IsBody good s) (ht : IsBody good t) (hu : IsBody good u) :
    IsBody good (s ++ '(' :: (t ++ ')' :: u)) :=
  hs.append_cons (by decide) (by decide) (by decide)
    (ht.append_cons (by decide) (by decide) (by decide) hu)

/-- Two bodies with a separator between them. -/
theorem append_separator {s sep t : List Char} (hs : IsBody good s) (hsep : isSeparator sep = true)
    (ht : IsBody good t) : IsBody good (s ++ (sep ++ t)) := by
  have hchars (c : Char) (hc : isSeparatorChar c = true) :
      isBodyChar c = true ∧ isIdentifierChar c = false ∧ c ≠ '[' := by
    simpa [isSeparatorChar, and_assoc] using hc
  have hrest (sep : List Char) (hsep : sep.all isSeparatorChar = true) :
      IsBody good (sep ++ t) := by
    induction sep with
    | nil => exact ht
    | cons c sep ih =>
      obtain ⟨hc, hsep⟩ := Bool.and_eq_true_iff.1 hsep
      exact .cons (hchars c hc).1 (hchars c hc).2.1 (ih hsep)
  cases sep with
  | nil => exact absurd hsep (by decide)
  | cons c sep =>
    obtain ⟨hc, hsep⟩ := Bool.and_eq_true_iff.1 (Bool.and_eq_true_iff.1 hsep).2
    exact hs.append_cons (hchars c hc).1 (hchars c hc).2.1 (hchars c hc).2.2 (hrest sep hsep)

/-- Bodies with separators between them. -/
theorem intercalate {sep : List Char} {pieces : List (List Char)} (hsep : isSeparator sep = true)
    (h : ∀ p ∈ pieces, IsBody good p) : IsBody good (sep.intercalate pieces) := by
  induction pieces with
  | nil => exact .nil
  | cons p pieces ih =>
    have hp := h p List.mem_cons_self
    have hrest := ih fun q hq ↦ h q (List.mem_cons_of_mem p hq)
    cases pieces with
    | nil => simpa [List.intercalate] using hp
    | cons q pieces =>
      have hcons : sep.intercalate (p :: q :: pieces) =
          p ++ (sep ++ sep.intercalate (q :: pieces)) := by simp [List.intercalate]
      rw [hcons]
      exact hp.append_separator hsep hrest

theorem join {sep : String} (hsep : isSeparator sep.toList = true) {pieces : List String}
    (h : ∀ p ∈ pieces, IsBody good p.toList) : IsBody good (Text.join sep pieces).toList := by
  rw [toList_join]
  refine .intercalate hsep fun p hp ↦ ?_
  obtain ⟨piece, hpiece, rfl⟩ := List.mem_map.1 hp
  exact h piece hpiece

end IsBody

/-! ## Constraints and declarations -/

def constraintStart : List Char := ['c', 'o', 'n', 's', 't', 'r', 'a', 'i', 'n', 't', ' ']

theorem toList_constraintStart : "constraint ".toList = constraintStart := String.toList_ofList

theorem Introduces.constraint {body : List Char} (h : ';' ∉ body) :
    Introduces (constraintStart ++ (body ++ [';'])) [] := by
  have hbody : ';' ∉ constraintStart ++ body := by simpa [constraintStart] using h
  have hitem := Introduces.item hbody
  rw [← toList_constraintStart, itemName?_constraint, toList_constraintStart] at hitem
  simpa using hitem

/-- A line that starts with given characters and goes on with a body. -/
theorem isLine_append {start body : List Char}
    (hstart : start.all (fun c ↦ !isLineBreak c && c != '%' && c != ';') = true)
    (hbody : ∀ c ∈ body, isBodyChar c = true) :
    IsLine (start ++ (body ++ [';'])) ∧ '%' ∉ start ++ (body ++ [';']) ∧
      '\n' ∉ start ++ (body ++ [';']) ∧ ';' ∉ start ++ body := by
  obtain ⟨hline, hpercent, _, hsemicolon, _⟩ := isLine_of_isBodyChar hbody
  have hfirst : ∀ c ∈ start, isLineBreak c = false ∧ c ≠ '%' ∧ c ≠ ';' := fun c hc ↦ by
    simpa [and_assoc] using List.all_eq_true.1 hstart c hc
  have hall : IsLine (start ++ (body ++ [';'])) := by
    intro c hc
    simp only [List.mem_append, List.mem_singleton] at hc
    obtain hc | hc | rfl := hc
    · exact (hfirst c hc).1
    · exact hline c hc
    · decide
  refine ⟨hall, ?_, fun hmem ↦ Bool.noConfusion (hall '\n' hmem), ?_⟩
  · simp only [List.mem_append, List.mem_singleton, not_or]
    exact ⟨fun hmem ↦ (hfirst _ hmem).2.1 rfl, hpercent, by decide⟩
  · simp only [List.mem_append, not_or]
    exact ⟨fun hmem ↦ (hfirst _ hmem).2.2 rfl, hsemicolon⟩

/-- A constraint on one line. -/
theorem Emits.constraint {body : List Char} (h : IsBody good body) :
    Emits good (constraintStart ++ (body ++ [';'])) [] [] := by
  obtain ⟨hline, hpercent, hbreak, _⟩ := @isLine_append constraintStart body (by decide) h.chars
  obtain ⟨_, _, hcolon, hsemicolon, _⟩ := isLine_of_isBodyChar h.chars
  refine .line hline hpercent ⟨?_, ?_, .constraint hsemicolon⟩
  · exact .append (.of_isInert (by decide)) (h.refers ';' (by decide) (by decide))
  · exact .of_head hbreak (by simpa [constraintStart] using hcolon) rfl

/-- A declaration on one line, of which the start holds the name and the body the value. -/
theorem Emits.declaration {start name body : List Char}
    (hstart : start.all (fun c ↦ !isLineBreak c && c != '%' && c != ';') = true)
    (hlength : 1 < start.length) (hrefers : Refers good start)
    (hitem : ∀ behind, item? (start ++ behind) = some (name, ' ' :: behind))
    (hname : ∀ behind, itemName? (start ++ behind) = some name) (h : IsBody good body) :
    Emits good (start ++ (body ++ [';'])) [name] [name] := by
  obtain ⟨hline, hpercent, hbreak, hsemicolon⟩ := isLine_append hstart h.chars
  refine .line hline hpercent ⟨?_, ?_, ?_⟩
  · exact .append hrefers (h.refers ';' (by decide) (by decide))
  · refine @Declares.of_item _ _ (' ' :: (body ++ [';'])) hbreak ?_ fun tail _ ↦ ?_
    · simp only [List.length_cons, List.length_append]
      omega
    · rw [List.append_assoc, hitem]
      rfl
  · have hintroduces := Introduces.item hsemicolon
    rwa [hname, List.append_assoc] at hintroduces

end GridPuzzle.Document
