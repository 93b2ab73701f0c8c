import GridPuzzle.Compile.Assembly
import GridPuzzle.Naming
import GridPuzzle.Proofs.Document.CellReference
import GridPuzzle.Proofs.Document.Code
import GridPuzzle.Proofs.Document.TopLevel
import GridPuzzle.Proofs.Fallible
import GridPuzzle.Proofs.Text.Line

/-!
# Emitted text

`Emits` says what is known of a piece of an emitted document that consists of whole lines: the
references in its code are of a given kind, and there are the names that the check finds in it and
the names that it declares. The pieces of a document can be put together, and comments add nothing.
-/

namespace GridPuzzle.Document

open Text
open CellReference (Refers)

def codeOfLines (ls : List (List Char)) : List Char :=
  ['\n'].intercalate (ls.map (·.takeWhile (· != '%')))

/-- What a reader makes of code: its references are of a kind, these names are found by the check,
and those are declared. -/
structure IsBlock (good : CellReference → Prop) (code : List Char)
    (found declared : List (List Char)) : Prop where
  refers : Refers good code
  finds : Declares code found
  introduces : Introduces code declared

/-- Text of whole lines of which the code is a block. The last line has no line feed behind it. -/
def Emits (good : CellReference → Prop) (s : List Char) (found declared : List (List Char)) :
    Prop :=
  ∃ ls, (∀ l ∈ ls, IsLine l) ∧ s ++ ['\n'] = joinLines ls ∧
    IsBlock good (codeOfLines ls) found declared

variable {good : CellReference → Prop}

/-! ## Blocks -/

theorem IsBlock.nil : IsBlock good [] [] [] := ⟨.nil, .nil, .nil⟩

theorem IsBlock.append {first second : List Char} {found more declared others : List (List Char)}
    (h₁ : IsBlock good first found declared) (h₂ : IsBlock good second more others) :
    IsBlock good (first ++ '\n' :: second) (found ++ more) (declared ++ others) :=
  ⟨h₁.refers.append (.cons (by decide) h₂.refers), h₁.finds.append h₂.finds,
    h₁.introduces.join h₂.introduces⟩

theorem codeOfLines_append {ls ms : List (List Char)} (hls : ls ≠ []) (hms : ms ≠ []) :
    codeOfLines (ls ++ ms) = codeOfLines ls ++ '\n' :: codeOfLines ms := by
  induction ls with
  | nil => exact absurd rfl hls
  | cons l ls ih =>
    cases ls with
    | nil =>
      cases ms with
      | nil => exact absurd rfl hms
      | cons m ms => simp [codeOfLines, List.intercalate]
    | cons next ls =>
      have hrest := ih (List.cons_ne_nil next ls)
      have hcons (l : List Char) (ls : List (List Char)) (hne : ls ≠ []) :
          codeOfLines (l :: ls) = l.takeWhile (· != '%') ++ '\n' :: codeOfLines ls := by
        cases ls with
        | nil => exact absurd rfl hne
        | cons next ls => simp [codeOfLines, List.intercalate]
      rw [List.cons_append, hcons l (next :: ls ++ ms) (by simp), hrest,
        hcons l (next :: ls) (by simp)]
      simp

theorem codeOf_of_lines {s : String} {ls : List (List Char)} (hls : ∀ l ∈ ls, IsLine l)
    (h : s.toList = joinLines ls) : codeOf s = codeOfLines ls := by
  rw [codeOf, h, splitLines_joinLines hls]
  rfl

/-! ## Putting text together -/

theorem ne_nil_of_joinLines {s : List Char} {ls : List (List Char)}
    (h : s ++ ['\n'] = joinLines ls) : ls ≠ [] := by
  rintro rfl
  simp at h

theorem Emits.nil : Emits good [] [] [] :=
  ⟨[[]], by simp [IsLine], rfl, IsBlock.nil⟩

/-- One text under another. -/
theorem Emits.under {s t : List Char} {found more declared others : List (List Char)}
    (hs : Emits good s found declared) (ht : Emits good t more others) :
    Emits good (s ++ '\n' :: t) (found ++ more) (declared ++ others) := by
  obtain ⟨ls, hls, hs, hsblock⟩ := hs
  obtain ⟨ms, hms, ht, htblock⟩ := ht
  refine ⟨ls ++ ms, fun l hl ↦ (List.mem_append.1 hl).elim (hls l) (hms l), ?_, ?_⟩
  · rw [joinLines_append, ← hs, ← ht]
    simp
  · rw [codeOfLines_append (ne_nil_of_joinLines hs) (ne_nil_of_joinLines ht)]
    exact hsblock.append htblock

inductive EmitsAll (good : CellReference → Prop) :
    List String → List (List Char) → List (List Char) → Prop
  | nil : EmitsAll good [] [] []
  | cons {s : String} {texts : List String} {found more declared others : List (List Char)} :
    Emits good s.toList found declared → EmitsAll good texts more others →
      EmitsAll good (s :: texts) (found ++ more) (declared ++ others)

namespace EmitsAll

theorem cons_silent {s : String} {texts : List String} {found declared : List (List Char)}
    (hs : Emits good s.toList [] []) (h : EmitsAll good texts found declared) :
    EmitsAll good (s :: texts) found declared := cons hs h

theorem cons_name {s : String} {texts : List String} {name : List Char}
    {found declared : List (List Char)} (hs : Emits good s.toList [name] [name])
    (h : EmitsAll good texts found declared) :
    EmitsAll good (s :: texts) (name :: found) (name :: declared) := cons hs h

theorem singleton {s : String} {found declared : List (List Char)}
    (h : Emits good s.toList found declared) : EmitsAll good [s] found declared := by
  simpa using cons h nil

theorem append {texts others : List String} {found more declared rest : List (List Char)}
    (h₁ : EmitsAll good texts found declared) (h₂ : EmitsAll good others more rest) :
    EmitsAll good (texts ++ others) (found ++ more) (declared ++ rest) := by
  induction h₁ with
  | nil => exact h₂
  | cons hs _ ih => simpa using cons hs ih

theorem silent {texts : List String} (h : ∀ s ∈ texts, Emits good s.toList [] []) :
    EmitsAll good texts [] [] := by
  induction texts with
  | nil => exact nil
  | cons s texts ih =>
    exact cons_silent (h s List.mem_cons_self) (ih fun t ht ↦ h t (by simp [ht]))

/-- The texts of the members of a list. -/
theorem map {α : Type} {l : List α} {text : α → String} {found declared : α → List (List Char)}
    (h : ∀ a ∈ l, Emits good (text a).toList (found a) (declared a)) :
    EmitsAll good (l.map text) (l.flatMap found) (l.flatMap declared) := by
  induction l with
  | nil => exact nil
  | cons a l ih => exact cons (h a List.mem_cons_self) (ih fun b hb ↦ h b (by simp [hb]))

/-- Texts computed for the members of a list one by one. -/
theorem of_mapM {α β ε : Type} {l : List α} {f : α → Except ε β} {r : List β}
    {texts : β → List String} {found declared : α → List (List Char)} (hr : l.mapM f = .ok r)
    (h : ∀ a ∈ l, ∀ b, f a = .ok b → EmitsAll good (texts b) (found a) (declared a)) :
    EmitsAll good (r.flatMap texts) (l.flatMap found) (l.flatMap declared) := by
  have hall := Fallible.mapM_eq_ok.1 hr
  clear hr
  induction hall with
  | nil => exact nil
  | cons ha _ ih =>
    exact (h _ List.mem_cons_self _ ha).append (ih fun b hb ↦ h b (List.mem_cons_of_mem _ hb))

/-- Texts one under another. -/
theorem unlines {texts : List String} {found declared : List (List Char)}
    (h : EmitsAll good texts found declared) :
    Emits good (Text.unlines texts).toList found declared := by
  induction h with
  | nil => exact .nil
  | @cons s texts _ _ _ _ hs hrest ih =>
    cases hrest with
    | nil => simpa [unlines_singleton] using hs
    | cons _ _ =>
      rw [toList_unlines_cons]
      exact hs.under ih

/-- Texts with blank lines between them. -/
theorem paragraphs {texts : List String} {found declared : List (List Char)}
    (h : EmitsAll good texts found declared) :
    Emits good (Text.join "\n\n" texts).toList found declared := by
  induction h with
  | nil => exact .nil
  | @cons s texts _ _ _ _ hs hrest ih =>
    cases hrest with
    | nil => simpa [toList_join, List.intercalate] using hs
    | cons _ _ =>
      rw [toList_join_cons]
      exact hs.under (Emits.nil.under ih)

end EmitsAll

/-! ## Single lines -/

theorem joinLines_eq_intercalate {ls : List (List Char)} (hne : ls ≠ []) :
    ['\n'].intercalate ls ++ ['\n'] = joinLines ls := by
  induction ls with
  | nil => exact absurd rfl hne
  | cons l ls ih =>
    cases ls with
    | nil => simp [List.intercalate]
    | cons next ls =>
      rw [joinLines_cons, ← ih (List.cons_ne_nil next ls)]
      simp [List.intercalate]

/-- Lines without comments are their own code. -/
theorem Emits.lines {ls : List (List Char)} {found declared : List (List Char)} (hne : ls ≠ [])
    (hls : ∀ l ∈ ls, IsLine l ∧ '%' ∉ l) (h : IsBlock good (['\n'].intercalate ls) found declared) :
    Emits good (['\n'].intercalate ls) found declared := by
  refine ⟨ls, fun l hl ↦ (hls l hl).1, joinLines_eq_intercalate hne, ?_⟩
  have hline (l : List Char) (hl : l ∈ ls) : l.takeWhile (· != '%') = l :=
    List.takeWhile_eq_self_iff.2 fun c hc ↦ bne_iff_ne.2 (ne_of_mem_of_not_mem hc (hls l hl).2)
  have hcode : ls.map (·.takeWhile (· != '%')) = ls := by
    rw [List.map_congr_left hline, List.map_id']
  rwa [codeOfLines, hcode]

theorem Emits.line {l : List Char} {found declared : List (List Char)} (hl : IsLine l)
    (hpercent : '%' ∉ l) (h : IsBlock good l found declared) : Emits good l found declared := by
  have hlines := @Emits.lines good [l] found declared (List.cons_ne_nil l [])
    (by simpa using ⟨hl, hpercent⟩)
  simpa [List.intercalate] using hlines (by simpa [List.intercalate] using h)

theorem Emits.two_lines {first second : List Char} {found declared : List (List Char)}
    (hfirst : IsLine first ∧ '%' ∉ first) (hsecond : IsLine second ∧ '%' ∉ second)
    (h : IsBlock good (first ++ '\n' :: second) found declared) :
    Emits good (first ++ '\n' :: second) found declared := by
  have hlines := @Emits.lines good [first, second] found declared (List.cons_ne_nil _ _)
    (by simpa using ⟨hfirst, hsecond⟩)
  simpa [List.intercalate] using hlines (by simpa [List.intercalate] using h)

theorem Emits.commentLine {l : String} (hl : IsLine l.toList) :
    Emits good (GridPuzzle.commentLine l).toList [] [] := by
  obtain ⟨rest, heq, hstart⟩ :=
    exists_trimEnd_cons (by decide : isBlank '%' = false) (' ' :: l.toList)
  have htext : (GridPuzzle.commentLine l).toList = '%' :: rest := by
    simpa [GridPuzzle.commentLine, stripEnd] using heq
  refine ⟨['%' :: rest], ?_, by simp [htext], ?_⟩
  · intro m hm c hc
    obtain rfl := List.mem_singleton.1 hm
    obtain rfl | hc := List.mem_cons.1 hc
    · decide
    · obtain rfl | hc := List.mem_cons.1 (hstart.subset hc)
      · decide
      · exact hl c hc
  · exact IsBlock.nil

/-- A comment holds no code, whatever its text. -/
theorem Emits.comment (s : String) : Emits good (GridPuzzle.comment s).toList [] [] := by
  refine (EmitsAll.silent fun l hl ↦ ?_).unlines
  obtain ⟨line, hline, rfl⟩ := List.mem_map.1 hl
  obtain ⟨chars, hchars, rfl⟩ := List.mem_map.1 hline
  exact Emits.commentLine (by simpa using isLine_of_mem_splitLines hchars)

/-! ## Documents -/

/-- What the readers find in a text with a line break at its end. -/
theorem Emits.read {s : String} {t : List Char} {found declared : List (List Char)}
    (ht : Emits good t found declared) (h : s.toList = t ++ ['\n']) :
    (∀ reference ∈ CellReference.allIn (codeOf s), good reference.1) ∧
      declaredNames s = found.map String.ofList ∧ topLevelNames (codeOf s) = declared := by
  obtain ⟨ls, hls, htext, hblock⟩ := ht
  have hcode : codeOf s = codeOfLines ls := codeOf_of_lines hls (h.trans htext)
  refine ⟨fun reference hreference ↦ ?_, ?_, ?_⟩
  · rw [hcode] at hreference
    have hfound := hblock.refers false [] reference
      (by simpa [CellReference.allIn] using hreference)
    simpa [CellReference.allFrom] using hfound
  · have hfinds := hblock.finds [] (.inl rfl)
    rw [List.append_nil] at hfinds
    rw [declaredNames, hcode, hfinds]
    simp [declaredFrom]
  · have hintroduces := hblock.introduces []
    rw [List.append_nil] at hintroduces
    rw [hcode, hintroduces]
    exact List.append_nil _

theorem EmitsAll.document {parts : List Emission} {found declared : List (List Char)}
    (h : EmitsAll good (parts.map Emission.text) found declared) :
    (∀ reference ∈ CellReference.allIn (codeOf (documentText parts)), good reference.1) ∧
      declaredNames (documentText parts) = found.map String.ofList ∧
      topLevelNames (codeOf (documentText parts)) = declared :=
  h.paragraphs.read (by rw [documentText, String.toList_append]; rfl)

end GridPuzzle.Document
