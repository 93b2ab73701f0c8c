import GridPuzzle.Constraint.Item
import GridPuzzle.VariableKind
import Mathlib

/-!
# The arrays of variable kinds

The name of a variable kind is checked as a whole, and its array is the part before the first
hyphen. That part is a plain identifier, or a plain identifier with one line feed behind it, which
the check of the name lets through. Either way the array can be emitted, and it is not reserved.
-/

namespace GridPuzzle

/-! ## Names and their first parts -/

theorem dropFinalBreak_cases (s : List Char) :
    dropFinalBreak s = s ∨ s = dropFinalBreak s ++ ['\n'] := by
  unfold dropFinalBreak
  split
  next h =>
    right
    have hlast : s.getLast? = some '\n' := by simpa using h
    exact (List.dropLast_append_getLast? '\n' hlast).symm
  next => exact .inl rfl

theorem bne_of_not_mem {s : List Char} {d : Char} (h : d ∉ s) : ∀ c ∈ s, (c != d) = true :=
  fun _ hc ↦ bne_iff_ne.2 (ne_of_mem_of_not_mem hc h)

theorem takeWhile_of_splitOn {s first : List Char} {parts : List (List Char)}
    (h : s.splitOn '-' = first :: parts) :
    s.takeWhile (· != '-') = first ∧ (parts = [] → '-' ∉ s) := by
  by_cases hmem : '-' ∈ s
  · obtain ⟨before, rest, rfl, hbefore⟩ := List.eq_append_cons_of_mem hmem
    rw [List.splitOn_append_cons_self_of_not_mem hbefore] at h
    obtain ⟨rfl, hparts⟩ := List.cons.inj h
    refine ⟨?_, fun hnil ↦ absurd (hparts.trans hnil) (List.splitOn_ne_nil _ _)⟩
    rw [List.takeWhile_append_of_pos (bne_of_not_mem hbefore)]
    simp
  · rw [List.splitOn_eq_singleton hmem] at h
    obtain ⟨rfl, _⟩ := List.cons.inj h
    exact ⟨List.takeWhile_eq_self_iff.2 (bne_of_not_mem hmem), fun _ ↦ hmem⟩

/-- The line feed at the end of a text does not matter where a hyphen stands before it. -/
theorem takeWhile_dropFinalBreak {s : List Char} (h : '-' ∈ s) :
    (dropFinalBreak s).takeWhile (· != '-') = s.takeWhile (· != '-') := by
  obtain heq | heq := dropFinalBreak_cases s
  · rw [heq]
  · have hmem : '-' ∈ dropFinalBreak s := by
      rw [heq] at h
      simpa using h
    obtain ⟨before, rest, hrest, hbefore⟩ := List.eq_append_cons_of_mem hmem
    have htake (l : List Char) : (before ++ '-' :: l).takeWhile (· != '-') = before := by
      rw [List.takeWhile_append_of_pos (bne_of_not_mem hbefore)]
      simp
    rw [hrest] at heq ⊢
    rw [heq, htake, List.append_assoc, List.cons_append, htake]

/-- The family of a kind's name is a plain identifier, or it is the whole name and a plain
identifier with a line feed behind it. -/
theorem family_cases {name : String} (h : isKindName name = true) :
    isPlainIdentifier (family name).toList = true ∨
      ∃ s, isPlainIdentifier s = true ∧ (family name).toList = s ++ ['\n'] ∧
        family name = name := by
  unfold isKindName at h
  split at h
  next => simp at h
  next first parts hsplit =>
    have hfirst := (takeWhile_of_splitOn hsplit).1
    have hplain : isPlainIdentifier first = true := (Bool.and_eq_true _ _ ▸ h).1
    by_cases hmem : '-' ∈ name.toList
    · left
      rw [family, String.toList_ofList, ← takeWhile_dropFinalBreak hmem, hfirst]
      exact hplain
    · have hself : family name = name := by
        rw [family, List.takeWhile_eq_self_iff.2 (bne_of_not_mem hmem), String.ofList_toList]
      obtain heq | heq := dropFinalBreak_cases name.toList
      · left
        rw [family, String.toList_ofList, ← heq, hfirst]
        exact hplain
      · right
        have hall := bne_of_not_mem fun hdrop ↦ hmem (heq ▸ List.mem_append_left _ hdrop)
        rw [List.takeWhile_eq_self_iff.2 hall] at hfirst
        exact ⟨first, hplain, by rw [hself, heq, hfirst], hself⟩

/-- What a reader of names takes from the start of a text is an identifier. -/
theorem isPlainIdentifier_takeWhile {s : List Char}
    (h : (s.takeWhile Text.isIdentifierChar).head?.any Text.isAsciiLetter = true) :
    isPlainIdentifier (s.takeWhile Text.isIdentifierChar) = true := by
  cases hname : s.takeWhile Text.isIdentifierChar with
  | nil => simp [hname] at h
  | cons c name =>
    rw [isPlainIdentifier, Bool.and_eq_true, List.all_eq_true]
    refine ⟨by simpa [hname] using h, fun d hd ↦ ?_⟩
    exact List.mem_takeWhile_imp (hname ▸ List.mem_cons_of_mem c hd)

theorem isIdentifierChar_of_plain {s : List Char} (h : isPlainIdentifier s = true) :
    ∀ c ∈ s, Text.isIdentifierChar c = true := by
  cases s with
  | nil => simp
  | cons c rest =>
    obtain ⟨hc, hrest⟩ : Text.isAsciiLetter c = true ∧
        ∀ d ∈ rest, Text.isIdentifierChar d = true := by
      simpa [isPlainIdentifier] using h
    intro d hd
    obtain rfl | hd := List.mem_cons.1 hd
    · simp [Text.isIdentifierChar, hc]
    · exact hrest d hd

/-- An identifier remains one when a line feed is put behind it. -/
theorem isIdentifier_of_cases {name : String}
    (h : isPlainIdentifier name.toList = true ∨
      ∃ s, isPlainIdentifier s = true ∧ name.toList = s ++ ['\n']) : isIdentifier name = true := by
  unfold isIdentifier dropFinalBreak
  obtain h | ⟨s, hs, heq⟩ := h
  · split
    next hlast =>
      have hmem : '\n' ∈ name.toList := List.mem_of_getLast? (by simpa using hlast)
      exact absurd (isIdentifierChar_of_plain h '\n' hmem) (by decide)
    next => exact h
  · simp [heq, hs]

/-- The name of an array is the family of the kind. -/
theorem arrayName_eq_ok {kind array : String} (h : arrayName kind = .ok array) :
    array = family kind := by
  unfold arrayName at h
  dsimp only at h
  split at h
  · simp at h
  · split at h
    · simp at h
    · exact (Except.ok.inj h).symm

namespace VariableKind

/-- An array is a plain identifier, possibly with a line feed behind it. -/
theorem array_cases (kind : VariableKind) :
    isPlainIdentifier kind.array.toList = true ∨
      ∃ s, isPlainIdentifier s = true ∧ kind.array.toList = s ++ ['\n'] :=
  (family_cases kind.isKindName_name).imp_right fun ⟨s, hs, heq, _⟩ ↦ ⟨s, hs, heq⟩

theorem arrayName_name (kind : VariableKind) : arrayName kind.name = .ok kind.array := by
  unfold arrayName
  have hident : isIdentifier (family kind.name) = true := isIdentifier_of_cases kind.array_cases
  simp [hident, kind.family_free, array]

/-- A name of the family of a kind has the kind's array. -/
theorem arrayName_of_family {kind : VariableKind} {name : String}
    (h : family name = family kind.name) : arrayName name = .ok kind.array := by
  have hkind := kind.arrayName_name
  unfold arrayName at hkind ⊢
  have hident : isIdentifier (family kind.name) = true := isIdentifier_of_cases kind.array_cases
  simp only [h, hident, kind.family_free, Bool.not_true, Bool.false_eq_true, if_false]
  rfl

/-- The digits that the standard catalog reads, from one to four. -/
def fourDigits : VariableKind := ⟨digitKind, .int 1 4 (by decide), by decide, by decide⟩

end VariableKind

end GridPuzzle
