import GridPuzzle.Document.Check
import GridPuzzle.Proofs.Constraint.Item
import GridPuzzle.Proofs.Document.ArrayDeclaration
import GridPuzzle.Proofs.Document.Check
import GridPuzzle.Proofs.Document.Search
import GridPuzzle.Proofs.Value

/-!
# What is written for cells, seen by the check

Elements, lists, sums and numerals of cells are written without breaks and percent signs, and each
of the cells stands in the text behind a character that belongs to no word. So the search finds all
the cells of such a text wherever it occurs in a document, and a document that the check accepts
has all of them within the shape of their array or declares the array.
-/

namespace GridPuzzle

open Fallible
open CellReference (ofElement search)
open Text (isWritable_of_lt)

namespace Document

/-- What is written for cells of a variable kind. -/
inductive Writes (kind : String) : List (Int × Int) → String → Prop
  | cellRef {cell : Int × Int} {text : String} (h : cellRef kind cell.1 cell.2 = .ok text) :
    Writes kind [cell] text
  | cellList {cells : List (Int × Int)} {text : String} (h : cellList kind cells = .ok text) :
    Writes kind cells text
  | cellSum {cells : List (Int × Int)} {text : String} (h : cellSum kind cells = .ok text) :
    Writes kind cells text
  | numeral {cells : List (Int × Int)} {text : String} (h : numeral kind cells = .ok text) :
    Writes kind cells text

/-! ## The texts -/

section Texts

variable {kind array text : String} {cells : List (Int × Int)} {refs : List String}

theorem elementText_of_cellRef {row col : Int} (h : cellRef kind row col = .ok text) :
    text = elementText (family kind) row col := by
  obtain ⟨array, harray, h⟩ := bind_eq_ok.1 h
  rw [arrayName_eq_ok harray] at h
  split at h
  next => exact (Except.ok.inj h).symm
  next => cases h

theorem elementTexts_of_cellRefs (h : cellRefs kind cells = .ok refs) :
    refs = cells.map fun cell ↦ elementText (family kind) cell.1 cell.2 := by
  unfold cellRefs at h
  induction cells generalizing refs with
  | nil => exact (Except.ok.inj h).symm
  | cons cell cells ih =>
    rw [List.mapM_cons] at h
    obtain ⟨ref, href, h⟩ := bind_eq_ok.1 h
    obtain ⟨rest, hrest, h⟩ := bind_eq_ok.1 h
    rw [← Except.ok.inj h, elementText_of_cellRef href, ih hrest, List.map_cons]

/-- A cell stands in the term of its place. -/
theorem exists_numeralTerm {ref : String} (href : ref ∈ refs) :
    ∃ term ∈ numeralTerms refs, StandsIn ref.toList term.toList := by
  fun_induction numeralTerms refs with
  | case1 => cases href
  | case2 first => exact ⟨first, List.mem_cons_self, List.mem_singleton.1 href ▸ .refl _⟩
  | case3 first next rest ih =>
    obtain rfl | href := List.mem_cons.1 href
    · refine ⟨_, List.mem_cons_self, ?_⟩
      have hterm : (powerText (rest.length + 1) ++ " * " ++ ref).toList =
          ((powerText (rest.length + 1)).toList ++ [' ', '*']) ++ ' ' :: ref.toList := by
        simp
      rw [hterm]
      exact (StandsIn.refl _).append_cons (by decide) _
    · obtain ⟨term, hterm, hstands⟩ := ih href
      exact ⟨term, List.mem_cons_of_mem _ hterm, hstands⟩

theorem standsIn_numeralText {ref : String} (href : ref ∈ refs) :
    StandsIn ref.toList (numeralText refs).toList := by
  unfold numeralText
  split
  next first => exact List.mem_singleton.1 href ▸ .refl _
  next =>
    obtain ⟨term, hterm, hstands⟩ := exists_numeralTerm href
    have hjoin : StandsIn term.toList (Text.join " + " (numeralTerms refs)).toList :=
      .join (by decide) hterm
    have hbody := ((hstands.trans hjoin).append_cons (c := '(') (by decide) []).append_right [')']
    simpa using hbody

/-- A text that is written for cells is part of a line without percent signs, and the elements for
the cells stand in it. -/
structure HoldsCells (array : String) (cells : List (Int × Int)) (text : String) : Prop where
  chars : ∀ c ∈ text.toList, isBodyChar c = true
  stands : ∀ cell ∈ cells, StandsIn (elementText array cell.1 cell.2).toList text.toList

/-- The text of an element is a body of itself. -/
theorem isBody_elementText (harray : isPlainIdentifier array.toList = true) (row col : Nat) :
    IsBody (fun _ ↦ True) (elementText array row col).toList := by
  rw [toList_elementText]
  exact .element harray trivial

/-- The texts for cells that stand one behind another, between separators that belong to no word. -/
theorem HoldsCells.join (hbody : ∀ cell ∈ cells,
      IsBody (fun _ ↦ True) (elementText array cell.1 cell.2).toList) {sep : String}
    (hsep : isSeparator sep.toList = true)
    (hend : sep.toList.getLast?.any (!Text.isWord ·) = true) :
    HoldsCells array cells
      (Text.join sep (cells.map fun cell ↦ elementText array cell.1 cell.2)) where
  chars := (IsBody.join hsep (List.forall_mem_map.2 hbody)).chars
  stands _ hcell := .join hend (List.mem_map_of_mem hcell)

theorem HoldsCells.brackets (h : HoldsCells array cells text) :
    HoldsCells array cells ("[" ++ text ++ "]") := by
  have htext : ("[" ++ text ++ "]").toList = '[' :: (text.toList ++ [']']) := by simp
  constructor
  · intro c hc
    rw [htext, List.mem_cons, List.mem_append, List.mem_singleton] at hc
    obtain rfl | hc | rfl := hc
    · decide
    · exact h.chars c hc
    · decide
  · intro cell hcell
    rw [htext]
    exact ((h.stands cell hcell).append_right [']']).append_cons (by decide) []

theorem holdsCells_numeralText (hbody : ∀ cell ∈ cells,
      IsBody (fun _ ↦ True) (elementText array cell.1 cell.2).toList) :
    HoldsCells array cells
      (numeralText (cells.map fun cell ↦ elementText array cell.1 cell.2)) where
  chars := (isBody_numeralText (List.forall_mem_map.2 hbody)).chars
  stands _ hcell := standsIn_numeralText (List.mem_map_of_mem hcell)

/-- What is written for cells is the element of one, or consists of the elements of all. -/
theorem Writes.holdsCells (h : Writes kind cells text)
    (hplain : isPlainIdentifier (family kind).toList = true)
    (hcells : ∀ cell ∈ cells, 0 ≤ cell.1 ∧ 0 ≤ cell.2) : HoldsCells (family kind) cells text := by
  have hbody : ∀ cell ∈ cells, IsBody (fun _ ↦ True)
      (elementText (family kind) cell.1 cell.2).toList := by
    rintro ⟨row, col⟩ hcell
    obtain ⟨hrow, hcol⟩ := hcells _ hcell
    lift row to Nat using hrow
    lift col to Nat using hcol
    exact isBody_elementText hplain row col
  cases h with
  | cellRef h =>
    rw [elementText_of_cellRef h]
    refine ⟨(hbody _ List.mem_cons_self).chars, fun cell hcell ↦ ?_⟩
    rw [List.mem_singleton.1 hcell]
    exact .refl _
  | cellList h =>
    obtain ⟨refs, hlist, h⟩ := bind_eq_ok.1 h
    rw [elementTexts_of_cellRefs hlist] at h
    obtain rfl := Except.ok.inj h
    exact (HoldsCells.join hbody (by decide) (by decide)).brackets
  | cellSum h =>
    obtain ⟨refs, hlist, h⟩ := bind_eq_ok.1 h
    rw [elementTexts_of_cellRefs hlist] at h
    obtain rfl := Except.ok.inj h
    exact .join hbody (by decide) (by decide)
  | numeral h =>
    unfold GridPuzzle.numeral at h
    split at h
    next => cases h
    next =>
      obtain ⟨refs, hlist, h⟩ := bind_eq_ok.1 h
      rw [elementTexts_of_cellRefs hlist, numeralOf] at h
      split at h
      next =>
        obtain rfl := Except.ok.inj h
        exact holdsCells_numeralText hbody
      next => cases h

end Texts

/-! ## Shapes -/

/-- Shapes as they are given, each as a pair of integers. -/
def shapesValue (shapes : List (String × (Int × Int))) : Value :=
  .mapping (shapes.map fun shape ↦ (.text shape.1, .tuple [.int shape.2.1, .int shape.2.2]))

theorem isAtMost_int (m n : Int) : (Value.int m).isAtMost (.int n) = .ok (decide (m ≤ n)) := by
  have horder : (decide (m < n) || m == n) = decide (m ≤ n) := by
    rw [Bool.eq_iff_iff]
    simp only [Bool.or_eq_true, decide_eq_true_eq, beq_iff_eq]
    omega
  simp [Value.isAtMost, Value.precedes, Value.isComparable, Value.isNumber, Value.lt, Value.same,
    Value.sameScalar, Value.toInt?, horder]

/-- The check of a reference against a pair of integers. -/
theorem checkWithinGiven_pair (rows cols : Int) (found : Found) :
    checkWithinGiven (.tuple [.int rows, .int cols]) found =
      if 1 ≤ found.1.row ∧ (found.1.row : Int) ≤ rows ∧ 1 ≤ found.1.col ∧
        (found.1.col : Int) ≤ cols then .ok ()
      else .error (.referenceOutside found.2 (.int rows) (.int cols)) := by
  have hpair : readPair (.tuple [.int rows, .int cols]) = .ok (.int rows, .int cols) := rfl
  obtain ⟨reference, text⟩ := found
  unfold checkWithinGiven
  dsimp only
  rw [hpair, ok_bind]
  simp only [isAtMost_int, pure_eq_ok, throw_eq_error]
  by_cases hrow : 1 ≤ reference.row
  · by_cases hrows : (reference.row : Int) ≤ rows
    · by_cases hcol : 1 ≤ reference.col
      · simp [hrow, hrows, hcol, Nat.not_lt.2 hrow, Nat.not_lt.2 hcol]
      · simp [hrow, hrows, hcol, Nat.not_lt.2 hrow, Nat.not_le.1 hcol]
    · simp [hrow, hrows, Nat.not_lt.2 hrow]
  · simp [hrow, Nat.not_le.1 hrow]

theorem givenCheck?_shapesValue (shapes : List (String × (Int × Int))) (array : String) :
    givenCheck? (shapesValue shapes) array =
      (shapes.lookup array).map fun shape ↦
        checkWithinGiven (.tuple [.int shape.1, .int shape.2]) := by
  have hfind : Entries.find? (shapes.map fun shape ↦
      (.text shape.1, .tuple [.int shape.2.1, .int shape.2.2])) array =
        (shapes.lookup array).map fun shape ↦ .tuple [.int shape.1, .int shape.2] := by
    unfold Entries.find?
    induction shapes with
    | nil => rfl
    | cons shape shapes ih =>
      rw [List.map_cons, List.find?_cons, List.lookup_cons, Value.text_same_text, BEq.comm]
      cases array == shape.1 with
      | true => rfl
      | false => exact ih
  unfold givenCheck?
  rw [shapesValue]
  simp only [Value.entries?, Value.opened]
  rw [hfind, Option.map_map]
  rfl

theorem lookup_map_snd {α β : Type} (shapes : List (String × α)) (f : α → β) (array : String) :
    (shapes.map fun shape ↦ (shape.1, f shape.2)).lookup array =
      (shapes.lookup array).map f := by
  induction shapes with
  | nil => rfl
  | cons shape shapes ih =>
    rw [List.map_cons, List.lookup_cons, List.lookup_cons]
    cases array == shape.1 with
    | true => rfl
    | false => exact ih

/-- A shape of any integers from the shape of a grid. -/
def ofShape (shape : Nat × Nat) : Int × Int := (shape.1, shape.2)

/-- The check against the shape of a grid is the one against untyped shapes. -/
theorem check_eq_checkGiven (text : String) (shapes : Shapes) : check text shapes =
    checkGiven text (shapesValue (shapes.map fun shape ↦ (shape.1, ofShape shape.2))) := by
  unfold check checkGiven
  congr 1
  funext array
  rw [givenCheck?_shapesValue, lookup_map_snd, Option.map_map]
  congr 1
  funext shape found
  rw [Function.comp_apply, checkWithinGiven_pair]
  simp only [checkWithin, ofShape, Bool.and_eq_true, decide_eq_true_eq, Nat.cast_le, and_assoc]

/-! ## The check -/

/-- What a document that is accepted says of each reference found in it. -/
theorem checkReference_of_checkWith {checkOf : String → Option (Found → Except Error Unit)}
    {text : String} (h : checkWith checkOf text = .ok ()) {found : Found}
    (hfound : found ∈ search (codeOf text)) :
    checkReference checkOf (declaredArrays (codeOf text)) found = .ok () := by
  unfold checkWith at h
  split at h
  next => cases h
  next =>
    rw [CellReference.search_eq_allIn] at hfound
    exact forM_eq_ok.1 h found hfound

/-- Every cell of what is written for a kind and occurs in a document is found by the search, and
it lies within the shape of its array if there is one, and else the array is declared. -/
def CoversCells (shape? : String → Option (Int × Int)) (text : String) : Prop :=
  ∀ kind cells written, isPlainIdentifier (family kind).toList = true →
    (∀ cell ∈ cells, 0 ≤ cell.1 ∧ 0 ≤ cell.2) → Writes kind cells written →
    Occurs written.toList text → ∀ cell ∈ cells,
      (∃ reference, (reference, elementText (family kind) cell.1 cell.2) ∈ search (codeOf text) ∧
        reference.array = family kind ∧ (reference.row : Int) = cell.1 + 1 ∧
        (reference.col : Int) = cell.2 + 1) ∧
      match shape? (family kind) with
      | some (rows, cols) => cell.1 < rows ∧ cell.2 < cols
      | none => IsDeclaredIn (codeOf text) (family kind)

/-- An element is found wherever it occurs. -/
theorem mem_search_of_occurs {array text : String} (harray : isPlainIdentifier array.toList = true)
    {row col : Nat} (h : Occurs (elementText array row col).toList text) :
    (ofElement array.toList (row + 1) (col + 1), elementText array row col) ∈
      search (codeOf text) := by
  obtain ⟨hline, hpercent, -⟩ := isLine_of_isBodyChar (isBody_elementText harray row col).chars
  have hspells := CellReference.spells_element harray (row + 1) (col + 1)
  rw [← toList_elementText] at hspells
  have hne : (elementText array row col).toList ≠ [] := by
    intro hnil
    have hstart := hspells.isFramed.1
    rw [hnil] at hstart
    cases hstart
  have hfound := hspells.mem_search (h.standsIn_codeOf hne hline hpercent)
  rwa [String.ofList_toList] at hfound

/-- A reference that passes the check lies within the shape of its array if there is one, and else
its array is declared. -/
theorem within_or_declared_of_checkReference {shapes : List (String × (Int × Int))}
    {declared : List String} {found : Found}
    (h : checkReference (givenCheck? (shapesValue shapes)) declared found = .ok ()) :
    match shapes.lookup found.1.array with
    | some (rows, cols) => (found.1.row : Int) ≤ rows ∧ (found.1.col : Int) ≤ cols
    | none => found.1.array ∈ declared := by
  unfold checkReference at h
  dsimp only at h
  rw [givenCheck?_shapesValue] at h
  split at h
  next => cases h
  next =>
    cases hshape : shapes.lookup found.1.array with
    | some shape =>
      rw [hshape, Option.map_some] at h
      dsimp only at h
      rw [checkWithinGiven_pair] at h
      split at h
      next hwithin => exact ⟨hwithin.2.1, hwithin.2.2.2⟩
      next => cases h
    | none =>
      rw [hshape, Option.map_none] at h
      dsimp only at h
      split at h
      next hdeclared => exact List.contains_iff_mem.1 hdeclared
      next => cases h

theorem checkGiven_coversCells {text : String} {shapes : List (String × (Int × Int))}
    (h : checkGiven text (shapesValue shapes) = .ok ()) :
    CoversCells (fun array ↦ shapes.lookup array) text := by
  intro kind cells written hplain hcells hwrites hoccurs cell hcell
  have hholds := hwrites.holdsCells hplain hcells
  obtain ⟨hline, hpercent, -⟩ := isLine_of_isBodyChar hholds.chars
  have helement := hoccurs.of_standsIn (hholds.stands cell hcell) hline hpercent
  obtain ⟨row, col⟩ := cell
  obtain ⟨hrow, hcol⟩ := hcells _ hcell
  lift row to Nat using hrow
  lift col to Nat using hcol
  have hfound := mem_search_of_occurs hplain helement
  have harray : (ofElement (family kind).toList (row + 1) (col + 1)).array = family kind :=
    String.ofList_toList
  refine ⟨⟨_, hfound, harray, Nat.cast_succ row, Nat.cast_succ col⟩, ?_⟩
  have hchecked := within_or_declared_of_checkReference (checkReference_of_checkWith h hfound)
  dsimp only at hchecked ⊢
  rw [harray] at hchecked
  cases hshape : shapes.lookup (family kind) with
  | some shape =>
    simp only [hshape, ofElement] at hchecked
    dsimp only
    omega
  | none =>
    simp only [hshape] at hchecked
    exact isDeclaredIn_of_mem hchecked

/-- A document that declares a table and compares its only element with a number of two digits. -/
def tableDocument : String :=
  "array[1..1, 1..1] of int: table;\nconstraint (10 * digits[1, 2] + digits[1, 1]) = table[1, 1];\n"

theorem check_tableDocument : check tableDocument [("digits", (1, 2))] = .ok () := by
  let lines := ["array[1..1, 1..1] of int: table;".toList,
    "constraint (10 * digits[1, 2] + digits[1, 1]) = table[1, 1];".toList]
  have hcode : codeOf tableDocument = codeOfLines lines := codeOf_of_lines (by decide) (by decide)
  have hnames : declaredNames tableDocument = ["table"] := by
    rw [declaredNames, hcode]
    decide +kernel
  have hfound : CellReference.allIn (codeOfLines lines) = [(⟨"digits", 1, 2, 1⟩, "digits[1, 2]"),
      (⟨"digits", 1, 1, 1⟩, "digits[1, 1]"), (⟨"table", 1, 1, 1⟩, "table[1, 1]")] := by
    decide +kernel
  have harrays : declaredArrays (codeOfLines lines) = ["table"] := by decide +kernel
  unfold check checkWith
  dsimp only
  rw [hnames, hcode, hfound, harrays]
  rfl

end Document

end GridPuzzle
