import GridPuzzle.Proofs.Document.Occurrence
import GridPuzzle.Proofs.VariableKind

/-!
# Array declarations in code

An array counts as declared where the declaration of an array is spelled: the keyword with an index
set in brackets, `of` with white space around it, a type, a colon and the name. The declaration may
stand in the middle of a line and go on over several.
-/

namespace GridPuzzle.Document

open Text

/-- The declaration of an array, up to the end of its name. -/
inductive SpellsArray : List Char → List Char → Prop
  | intro {index gap type pad name : List Char} {blank : Char} (hindex : ']' ∉ index)
    (hgap : gap ≠ [] ∧ ∀ c ∈ gap, isBlank c = true) (hblank : isBlank blank = true)
    (htype : type ≠ [] ∧ ':' ∉ type ∧ ';' ∉ type) (hpad : ∀ c ∈ pad, isBlank c = true)
    (hname : isPlainIdentifier name = true) :
    SpellsArray ("array[".toList ++ (index ++ ']' :: (gap ++ ("of".toList ++
      blank :: (type ++ ':' :: (pad ++ name)))))) name

/-- A name that code declares as that of an array. -/
def IsDeclaredIn (code : List Char) (name : String) : Prop :=
  ∃ item, SpellsArray item name.toList ∧ StandsIn item code

/-! ## Reading a declaration -/

theorem eq_append_of_behind? {beginning s rest : List Char} (h : behind? beginning s = some rest) :
    s = beginning ++ rest := by
  fun_induction behind? beginning s with
  | case1 s => exact Option.some.inj h
  | case2 => cases h
  | case3 b bs c s hbc ih => rw [ih h, eq_of_beq hbc, List.cons_append]
  | case4 => cases h

theorem exists_run_of_behindRun? {inRun : Char → Bool} {closing : Char} {s rest : List Char}
    (h : behindRun? inRun closing s = some rest) :
    ∃ run, run ≠ [] ∧ (∀ c ∈ run, inRun c = true) ∧ s = run ++ closing :: rest := by
  unfold behindRun? at h
  split at h
  next c run d behind htake hdrop =>
    have hclosing : d = closing ∧ behind = rest := by simpa using h
    obtain ⟨rfl, rfl⟩ := hclosing
    refine ⟨c :: run, List.cons_ne_nil c run, fun e he ↦ ?_, ?_⟩
    · rw [← htake] at he
      exact List.mem_takeWhile_imp he
    · rw [← htake, ← hdrop, List.takeWhile_append_dropWhile]
  next => cases h

theorem exists_index_of_behindIndexSet? {s rest : List Char} (h : behindIndexSet? s = some rest) :
    ∃ index, ']' ∉ index ∧ s = index ++ ']' :: rest := by
  unfold behindIndexSet? at h
  split at h
  next c behind hdrop =>
    obtain rfl := Option.some.inj h
    have hhead := List.head?_dropWhile_not (· != ']') s
    obtain rfl : c = ']' := by simpa [hdrop] using hhead
    refine ⟨s.takeWhile (· != ']'), fun hmem ↦ ?_, ?_⟩
    · simpa using List.mem_takeWhile_imp hmem
    · rw [← hdrop, List.takeWhile_append_dropWhile]
  next => cases h

theorem exists_gap_of_behindOf? {inGap : Char → Bool} {s rest : List Char}
    (h : behindOf? inGap s = some rest) :
    ∃ gap blank, (gap ≠ [] ∧ ∀ c ∈ gap, inGap c = true) ∧ inGap blank = true ∧
      s = gap ++ ("of".toList ++ blank :: rest) := by
  simp only [behindOf?, Option.bind_eq_bind, Option.bind_eq_some_iff] at h
  obtain ⟨⟨⟩, hguard, t, ht, h⟩ := h
  split at h
  next c behind =>
    have hc : inGap c = true ∧ behind = rest := by simpa using h
    obtain ⟨hblank, rfl⟩ := hc
    have hfirst : s.head?.any inGap = true := (Option.guard_eq_some' _).1 hguard
    refine ⟨s.takeWhile inGap, c, ⟨?_, fun d hd ↦ List.mem_takeWhile_imp hd⟩, hblank, ?_⟩
    · cases s with
      | nil => simp at hfirst
      | cons d s =>
        have hd : inGap d = true := by simpa using hfirst
        simp [hd]
    · rw [← eq_append_of_behind? ht, List.takeWhile_append_dropWhile]
  next => cases h

theorem spellsArray_of_array? {s name behind : List Char} (h : array? s = some (name, behind)) :
    ∃ item, SpellsArray item name ∧ s = item ++ behind := by
  simp only [array?, Option.bind_eq_bind, Option.bind_eq_some_iff] at h
  obtain ⟨inside, hstart, behindIndex, hset, behindOf, hof, behindType, hrun, ⟨⟩, hguard, h⟩ := h
  obtain ⟨index, hindex, rfl⟩ := exists_index_of_behindIndexSet? hset
  obtain ⟨gap, blank, hgap, hblank, rfl⟩ := exists_gap_of_behindOf? hof
  obtain ⟨type, htype, hchars, rfl⟩ := exists_run_of_behindRun? hrun
  obtain ⟨pad, hpad, hblanks⟩ := exists_trimStart behindType
  obtain ⟨rfl, rfl⟩ := Prod.mk.inj (Option.some.inj h)
  have hcolon : ':' ∉ type := fun hmem ↦ by simpa using hchars ':' hmem
  have hsemicolon : ';' ∉ type := fun hmem ↦ by simpa using hchars ';' hmem
  have hname : isPlainIdentifier ((trimStart behindType).takeWhile isIdentifierChar) = true :=
    isPlainIdentifier_takeWhile ((Option.guard_eq_some' _).1 hguard)
  refine ⟨_, .intro hindex hgap hblank ⟨htype, hcolon, hsemicolon⟩ hblanks hname, ?_⟩
  rw [eq_append_of_behind? hstart]
  simp only [List.append_assoc, List.cons_append, List.takeWhile_append_dropWhile, ← hpad]

/-! ## Declarations found -/

/-- An array that is found in a text is declared there. -/
theorem exists_spellsArray_of_mem {name s : List Char} {skip : Nat} {inWord : Bool}
    (h : name ∈ arraysFrom skip inWord s) :
    ∃ before item behind, SpellsArray item name ∧ s = before ++ (item ++ behind) ∧
      endsWord before = false ∧ (before = [] → inWord = false) := by
  induction s generalizing skip inWord with
  | nil => cases h
  | cons c rest ih =>
    -- what is found behind the first character has this character in front of it
    have hlater {skip : Nat} (hmem : name ∈ arraysFrom skip (isWord c) rest) :
        ∃ before item behind, SpellsArray item name ∧ c :: rest = before ++ (item ++ behind) ∧
          endsWord before = false ∧ (before = [] → inWord = false) := by
      obtain ⟨before, item, behind, hitem, rfl, hbefore, hnil⟩ := ih hmem
      refine ⟨c :: before, item, behind, hitem, rfl, ?_, fun hempty ↦ by cases hempty⟩
      cases before with
      | nil => exact (endsWord_concat [] c).trans (hnil rfl)
      | cons d before => exact (endsWord_cons_cons c d before).trans hbefore
    unfold arraysFrom at h
    cases hfound : (if (!inWord && skip == 0) = true then array? (c :: rest) else none) with
    | none =>
      rw [hfound] at h
      exact hlater h
    | some found =>
      obtain ⟨declared, behind⟩ := found
      rw [hfound] at h
      obtain rfl | hmem := List.mem_cons.1 h
      · split at hfound
        next hstart =>
          obtain ⟨item, hitem, htext⟩ := spellsArray_of_array? hfound
          have hword : inWord = false := by
            rw [Bool.and_eq_true] at hstart
            simpa using hstart.1
          exact ⟨[], item, behind, hitem, htext, rfl, fun _ ↦ hword⟩
        next => cases hfound
      · exact hlater hmem

theorem isDeclaredIn_of_mem {code : List Char} {name : String} (h : name ∈ declaredArrays code) :
    IsDeclaredIn code name := by
  obtain ⟨chars, hmem, rfl⟩ := List.mem_map.1 h
  obtain ⟨before, item, behind, hitem, hcode, hbefore, -⟩ := exists_spellsArray_of_mem hmem
  refine ⟨item, ?_, before, behind, hcode, hbefore⟩
  rwa [String.toList_ofList]

end GridPuzzle.Document
