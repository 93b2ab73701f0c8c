import GridPuzzle.Proofs.Compile.TopLevel

/-!
# The arrays of accepted kinds

A kind is refused if its array would bear a reserved name, and two kinds of a puzzle never share an
array. Both checks compare the names as they are written, with the line feed that may stand behind
the name of a kind. A name that is all family therefore passes with a line feed behind it even if it
is reserved, and what the section of the kind declares is the name without the line feed.
-/

namespace GridPuzzle

open Document

namespace VariableKind

variable {name type min max : Value} {kind : VariableKind}

/-! ## Reading a kind -/

/-- A kind that is read keeps its name and has the domain of its type and bounds. -/
theorem read_eq_ok : read name type min max = .ok kind ↔
    name = .text kind.name ∧ readDomain kind.name type min max = .ok kind.domain := by
  constructor
  · intro h
    unfold read at h
    split at h
    next s =>
      split at h
      next hname =>
        split at h
        next hfree =>
          obtain ⟨domain, hdomain, rfl⟩ := Fallible.map_eq_ok.1 h
          exact ⟨rfl, hdomain⟩
        next => simp at h
      next => simp at h
    next => simp at h
  · rintro ⟨rfl, hdomain⟩
    simp [read, kind.isKindName_name, kind.family_free, hdomain, Except.map]

/-! ## Names with a line feed -/

/-- A plain identifier with a line feed behind it. -/
def IsBroken (name : Value) : Prop :=
  ∃ plain : String, isPlainIdentifier plain.toList = true ∧ name = .text (plain ++ "\n")

theorem hyphen_not_mem {s : List Char} (h : isPlainIdentifier s = true) : '-' ∉ s := fun hmem ↦
  absurd (isIdentifierChar_of_plain h '-' hmem) (by decide)

/-- A plain identifier with a line feed behind it is the name of a kind and its own family. -/
theorem family_append_break {plain : String} (h : isPlainIdentifier plain.toList = true) :
    isKindName (plain ++ "\n") = true ∧ family (plain ++ "\n") = plain ++ "\n" := by
  have hhyphen := hyphen_not_mem h
  constructor
  · have hdrop : dropFinalBreak (plain ++ "\n").toList = plain.toList := by simp [dropFinalBreak]
    unfold isKindName
    rw [hdrop, List.splitOn_eq_singleton hhyphen]
    simpa using h
  · have hall : ∀ c ∈ (plain ++ "\n").toList, (c != '-') = true :=
      bne_of_not_mem (by simpa using hhyphen)
    rw [family, List.takeWhile_eq_self_iff.2 hall, String.ofList_toList]

/-- No name that ends in a line feed is reserved. -/
theorem isReserved_append_break (s : String) : isReserved (s ++ "\n") = false := by
  have hbreak : ∀ reserved ∈ keywords ++ gridNames ++ usedFunctions, '\n' ∉ reserved.toList := by
    decide
  have hne (names : List String) (h : names ⊆ keywords ++ gridNames ++ usedFunctions) :
      names.contains (s ++ "\n") = false := by
    rw [← Bool.not_eq_true, List.contains_iff_mem]
    exact fun hmem ↦ hbreak _ (h hmem) (by simp)
  simp only [isReserved, Bool.or_eq_false_iff]
  exact ⟨⟨hne _ (by simp), hne _ (by simp)⟩, hne _ (by simp)⟩

/-- Every plain identifier, reserved or not, is accepted with a line feed behind it and is then the
array as it stands. -/
theorem read_append_break {plain : String} (h : isPlainIdentifier plain.toList = true)
    (type min max : Value) : (read (.text (plain ++ "\n")) type min max).map array =
      (readDomain (plain ++ "\n") type min max).map fun _ ↦ plain ++ "\n" := by
  obtain ⟨hname, hfamily⟩ := family_append_break h
  have hfree : isReserved (family (plain ++ "\n")) = false := by
    rw [hfamily]
    exact isReserved_append_break plain
  simp only [read, hname, hfree, dite_true]
  cases readDomain (plain ++ "\n") type min max with
  | error e => rfl
  | ok domain => simp [Except.map, array, hfamily]

/-- The array of an accepted kind is a plain identifier unless the name of the kind is broken, and
then it is the name, line feed and all. -/
theorem isPlainIdentifier_array (h : read name type min max = .ok kind) :
    isPlainIdentifier kind.array.toList = true ↔ ¬IsBroken name := by
  have hname := (read_eq_ok.1 h).1
  constructor
  · rintro harray ⟨plain, hplain, rfl⟩
    have hself : kind.array = plain ++ "\n" := by
      rw [array, ← Value.text.inj hname, (family_append_break hplain).2]
    have hbreak : '\n' ∈ kind.array.toList := by simp [hself]
    exact absurd (isIdentifierChar_of_plain harray '\n' hbreak) (by decide)
  · intro hunbroken
    obtain hplain | ⟨s, hplain, hbreak, hself⟩ := family_cases kind.isKindName_name
    · exact hplain
    · have harray : kind.array = String.ofList s ++ "\n" := by
        refine String.toList_injective (hbreak.trans ?_)
        simp
      refine absurd ⟨String.ofList s, by simpa using hplain, ?_⟩ hunbroken
      rw [hname, ← harray, array, hself]

/-! ## Declared names -/

/-- The section of a kind declares the array without its line feed, and nothing else. -/
theorem topLevelNames_declareKind (kind : VariableKind) :
    topLevelNames (codeOf (declareKind kind ++ "\n")) = [kind.identifier] :=
  ((@emits_declareKind (fun _ ↦ True) kind).read (by simp)).2.2

/-! ## What is let through -/

/-- The array of an accepted kind is not reserved and is a plain identifier unless the name of the
kind is broken. The section of the kind declares the array without a line feed behind it, so kinds
with distinct arrays declare distinct names unless the line feed is all that differs. A broken name
is accepted whatever identifier it breaks, also a reserved one, and is then the array. -/
theorem accepted_arrays (name type min max : Value) :
    (∀ kind, read name type min max = .ok kind →
      isReserved kind.array = false ∧
      (isPlainIdentifier kind.array.toList = true ↔ ¬IsBroken name) ∧
      topLevelNames (codeOf (declareKind kind ++ "\n")) = [dropFinalBreak kind.array.toList] ∧
      ∀ other : VariableKind, kind.array ≠ other.array →
        (topLevelNames (codeOf (declareKind kind ++ "\n")) =
            topLevelNames (codeOf (declareKind other ++ "\n")) ↔
          kind.array = other.array ++ "\n" ∨ other.array = kind.array ++ "\n")) ∧
    ∀ plain : String, isPlainIdentifier plain.toList = true → name = .text (plain ++ "\n") →
      (read name type min max).map array =
        (readDomain (plain ++ "\n") type min max).map fun _ ↦ plain ++ "\n" := by
  constructor
  · intro kind h
    refine ⟨kind.family_free, isPlainIdentifier_array h, kind.topLevelNames_declareKind,
      fun other hne ↦ ?_⟩
    rw [topLevelNames_declareKind, topLevelNames_declareKind, List.singleton_inj]
    exact identifier_eq_iff hne
  · rintro plain hplain rfl
    exact read_append_break hplain type min max

/-- The keyword of the integer type, with a line feed behind it, names a kind of truth values that
declares the keyword. -/
theorem accepted_keyword : isReserved "int" = true ∧
    ∃ kind, read (.text "int\n") (.text "bool") .null .null = .ok kind ∧
      kind.array = "int\n" ∧ isPlainIdentifier kind.array.toList = false ∧
        topLevelNames (codeOf (declareKind kind ++ "\n")) = ["int".toList] := by
  refine ⟨by decide, ?_⟩
  obtain ⟨haccepted, hbroken⟩ := accepted_arrays (.text "int\n") (.text "bool") .null .null
  obtain ⟨kind, hkind, harray⟩ := Fallible.map_eq_ok.1 (hbroken "int" (by decide) rfl)
  refine ⟨kind, hkind, harray, by rw [harray]; decide, ?_⟩
  rw [(haccepted kind hkind).2.2.1, harray]
  decide

end VariableKind

end GridPuzzle
