import GridPuzzle.Proofs.Sheet.Block
import GridPuzzle.Sheet.Workbook

/-!
# Solutions on a sheet

A solution that starts at a position is written value by value, row by row. All its values stand at
different positions, so when none is refused, each of them is found where it stands, and all other
positions hold what they held before; a null is not written. What is written at a position of a
sheet is found at the same place in the table that is read from the sheet.
-/

namespace GridPuzzle

open Fallible

/-! ## Entries under keys -/

section

variable {κ α : Type} [BEq κ] [LawfulBEq κ] {key : κ} {thing : α}

/-- What replaces the first entry of a key, or else is added at the end, is found under this key,
and nothing else changes. -/
theorem lookup_replaced (replace : List (κ × α) → List (κ × α)) (hnil : replace [] = [(key, thing)])
    (hcons : ∀ entry rest, replace (entry :: rest) =
      if entry.1 == key then (key, thing) :: rest else entry :: replace rest)
    (entries : List (κ × α)) (other : κ) : List.lookup other (replace entries) =
      if other == key then some thing else List.lookup other entries := by
  induction entries with
  | nil =>
    rw [hnil, List.lookup_cons, List.lookup_nil]
    cases other == key <;> rfl
  | cons entry rest ih =>
    rw [hcons]
    by_cases hentry : (entry.1 == key) = true
    · obtain rfl := eq_of_beq hentry
      rw [if_pos hentry, List.lookup_cons, List.lookup_cons]
      cases other == entry.1 <;> rfl
    · rw [if_neg hentry, List.lookup_cons, List.lookup_cons, ih]
      cases hother : other == entry.1 with
      | false => rfl
      | true =>
        obtain rfl := eq_of_beq hother
        exact (if_neg hentry).symm

theorem mem_of_lookup {entries : List (κ × α)} (h : List.lookup key entries = some thing) :
    (key, thing) ∈ entries := by
  obtain ⟨before, after, rfl, -⟩ := List.lookup_eq_some_iff.1 h
  exact List.mem_append_cons_self

/-- Entries of other keys may be left out. -/
theorem lookup_filter (keep : κ → Bool) (hkey : keep key = true) (entries : List (κ × α)) :
    List.lookup key (entries.filter (keep ·.1)) = List.lookup key entries := by
  induction entries with
  | nil => rfl
  | cons entry rest ih =>
    rw [List.filter_cons, List.lookup_cons]
    cases hentry : key == entry.1 with
    | true =>
      obtain rfl := eq_of_beq hentry
      rw [if_pos hkey, List.lookup_cons, hentry]
    | false =>
      cases keep entry.1 with
      | true => rw [if_pos rfl, List.lookup_cons, hentry, ih]
      | false => exact ih

end

section

variable {α : Type} {name : String} {thing : α} {things : List (String × α)}

theorem lookup_putNamed (name : String) (thing : α) (things : List (String × α)) (other : String) :
    List.lookup other (putNamed name thing things) =
      if other == name then some thing else List.lookup other things :=
  lookup_replaced (putNamed name thing) rfl (fun _ _ ↦ rfl) things other

theorem lookup_putNamed_self (name : String) (thing : α) (things : List (String × α)) :
    List.lookup name (putNamed name thing things) = some thing := by
  rw [lookup_putNamed, if_pos (beq_self_eq_true name)]

theorem lookup_putNamed_of_ne {other : String} (h : other ≠ name) (thing : α)
    (things : List (String × α)) :
    List.lookup other (putNamed name thing things) = List.lookup other things := by
  rw [lookup_putNamed, if_neg (by simpa using h)]

/-- Under a known name, what is put stands where what had this name stood. -/
theorem exists_putNamed_eq_append (h : List.lookup name things = some thing) :
    ∃ before after, things = before ++ (name, thing) :: after ∧
      ∀ other, putNamed name other things = before ++ (name, other) :: after := by
  induction things with
  | nil => cases h
  | cons entry rest ih =>
    rw [List.lookup_cons] at h
    by_cases hentry : (entry.1 == name) = true
    · obtain rfl := eq_of_beq hentry
      rw [beq_self_eq_true] at h
      obtain rfl := Option.some.inj h
      exact ⟨[], rest, rfl, fun other ↦ by rw [putNamed, if_pos hentry]; rfl⟩
    · have hname : (name == entry.1) = false := by
        rw [BEq.comm]
        exact Bool.eq_false_iff.2 hentry
      rw [hname] at h
      obtain ⟨before, after, rfl, hput⟩ := ih h
      exact ⟨entry :: before, after, rfl, fun other ↦ by rw [putNamed, if_neg hentry, hput]; rfl⟩

/-- What is put under a known name adds none. -/
theorem map_fst_putNamed (h : (List.lookup name things).isSome = true) (thing : α) :
    (putNamed name thing things).map Prod.fst = things.map Prod.fst := by
  obtain ⟨old, hold⟩ := Option.isSome_iff_exists.1 h
  obtain ⟨before, after, rfl, hput⟩ := exists_putNamed_eq_append hold
  rw [hput, List.map_append, List.map_append, List.map_cons, List.map_cons]

theorem putNamed_of_lookup (h : List.lookup name things = some thing) :
    putNamed name thing things = things := by
  obtain ⟨before, after, hthings, hput⟩ := exists_putNamed_eq_append h
  rw [hput, ← hthings]

theorem putNamed_putNamed (name : String) (first second : α) (things : List (String × α)) :
    putNamed name second (putNamed name first things) = putNamed name second things := by
  induction things with
  | nil => simp [putNamed]
  | cons entry rest ih =>
    by_cases hentry : (entry.1 == name) = true
    · simp [putNamed, hentry]
    · simp [putNamed, hentry, ih]

end

namespace Sheet

theorem get?_put (sheet : Sheet) (position other : Position) (value : Value) :
    (sheet.put position value).get? other =
      if other == position then some value else sheet.get? other :=
  lookup_replaced (put position value) rfl (fun _ _ ↦ rfl) sheet other

theorem write_eq_put {value : Value} (h : value ≠ .null) (sheet : Sheet) (position : Position) :
    sheet.write position value = sheet.put position value := by
  unfold write
  split
  · exact absurd rfl h
  · rfl

end Sheet

/-! ## Values one after another -/

/-- A value that is to be written to a row and a column. -/
structure Entry where
  row : Int
  col : Int
  value : Value

namespace Entry

def IsAt (entry : Entry) (position : Position) : Prop :=
  (position.1 : Int) = entry.row ∧ (position.2 : Int) = entry.col

/-- Whether the entry can be written: rows and columns are counted from one. -/
def IsWritable (entry : Entry) : Prop := 1 ≤ entry.row ∧ 1 ≤ entry.col

def writeTo (sheet : Sheet) (entry : Entry) : Except Error Sheet :=
  Directory.writeAt entry.row entry.col sheet entry.value

variable {entry : Entry} {sheet written : Sheet}

theorem writeTo_of_isWritable (h : entry.IsWritable) (sheet : Sheet) :
    writeTo sheet entry = .ok (sheet.write (entry.row.toNat, entry.col.toNat) entry.value) :=
  if_pos h

theorem writeTo_of_not_isWritable (h : ¬entry.IsWritable) (sheet : Sheet) :
    writeTo sheet entry = .error .wrongValue :=
  if_neg h

theorem isWritable_of_writeTo (h : writeTo sheet entry = .ok written) : entry.IsWritable := by
  by_contra hnot
  rw [writeTo_of_not_isWritable hnot] at h
  cases h

/-- An entry is found at its position, unless it is null. -/
theorem get?_writeTo_of_isAt (h : writeTo sheet entry = .ok written) (hvalue : entry.value ≠ .null)
    {position : Position} (hposition : entry.IsAt position) :
    written.get? position = some entry.value := by
  rw [writeTo_of_isWritable (isWritable_of_writeTo h)] at h
  obtain rfl := Except.ok.inj h
  have heq : position = (entry.row.toNat, entry.col.toNat) := by
    rw [← hposition.1, ← hposition.2]
    rfl
  rw [Sheet.write_eq_put hvalue, Sheet.get?_put, heq, if_pos (beq_self_eq_true _)]

/-- An entry changes no position but its own, and a null changes none. -/
theorem get?_writeTo_of_not_isAt (h : writeTo sheet entry = .ok written) {position : Position}
    (hposition : entry.value ≠ .null → ¬entry.IsAt position) :
    written.get? position = sheet.get? position := by
  have hwritable := isWritable_of_writeTo h
  rw [writeTo_of_isWritable hwritable] at h
  obtain rfl := Except.ok.inj h
  by_cases hvalue : entry.value = .null
  · rw [hvalue]
    rfl
  · have hne : position ≠ (entry.row.toNat, entry.col.toNat) := by
      rintro rfl
      obtain ⟨hrow, hcol⟩ := hwritable
      exact hposition hvalue ⟨Int.toNat_of_nonneg (by omega), Int.toNat_of_nonneg (by omega)⟩
    rw [Sheet.write_eq_put hvalue, Sheet.get?_put, if_neg (by simpa using hne)]

def writeAll (sheet : Sheet) (entries : List Entry) : Except Error Sheet :=
  entries.foldlM writeTo sheet

theorem writeAll_cons (sheet : Sheet) (entry : Entry) (entries : List Entry) :
    writeAll sheet (entry :: entries) =
      writeTo sheet entry >>= fun written ↦ writeAll written entries :=
  List.foldlM_cons

theorem writeAll_append (sheet : Sheet) (entries more : List Entry) :
    writeAll sheet (entries ++ more) =
      writeAll sheet entries >>= fun written ↦ writeAll written more :=
  List.foldlM_append

theorem writeAll_flatMap {α : Type} (entriesOf : α → List Entry) (l : List α) (sheet : Sheet) :
    writeAll sheet (l.flatMap entriesOf) =
      l.foldlM (fun sheet a ↦ writeAll sheet (entriesOf a)) sheet := by
  induction l generalizing sheet with
  | nil => rfl
  | cons a l ih =>
    rw [List.flatMap_cons, writeAll_append, List.foldlM_cons]
    exact congrArg _ (funext ih)

/-- Entries are written if all of them can be, and refused otherwise. -/
theorem writeAll_cases (sheet : Sheet) (entries : List Entry) :
    ((∀ entry ∈ entries, entry.IsWritable) ∧ ∃ written, writeAll sheet entries = .ok written) ∨
      (¬∀ entry ∈ entries, entry.IsWritable) ∧ writeAll sheet entries = .error .wrongValue := by
  induction entries generalizing sheet with
  | nil => exact .inl ⟨by simp, sheet, rfl⟩
  | cons entry entries ih =>
    rw [writeAll_cons, List.forall_mem_cons]
    by_cases hentry : entry.IsWritable
    · rw [writeTo_of_isWritable hentry, ok_bind, and_iff_right hentry]
      exact ih _
    · rw [writeTo_of_not_isWritable hentry]
      exact .inr ⟨fun h ↦ hentry h.1, rfl⟩

/-- What entries make of a sheet: all of them are found where they stand, except for nulls, and
where none stands the sheet is as it was. -/
structure AreWritten (entries : List Entry) (sheet written : Sheet) : Prop where
  found : ∀ entry ∈ entries, entry.value ≠ .null → ∀ position, entry.IsAt position →
    written.get? position = some entry.value
  kept : ∀ position, (∀ entry ∈ entries, entry.value ≠ .null → ¬entry.IsAt position) →
    written.get? position = sheet.get? position

/-- Whether two entries stand at different positions. -/
def IsApart (entry other : Entry) : Prop := ¬(entry.row = other.row ∧ entry.col = other.col)

theorem IsApart.not_isAt {other : Entry} {position : Position} (h : entry.IsApart other)
    (hposition : entry.IsAt position) : ¬other.IsAt position := fun hother ↦
  h ⟨hposition.1.symm.trans hother.1, hposition.2.symm.trans hother.2⟩

/-- Entries at different positions do not overwrite one another. -/
theorem areWritten_of_writeAll {entries : List Entry} (hapart : entries.Pairwise IsApart)
    (h : writeAll sheet entries = .ok written) : AreWritten entries sheet written := by
  induction entries generalizing sheet with
  | nil =>
    obtain rfl := Except.ok.inj h
    exact ⟨by simp, fun _ _ ↦ rfl⟩
  | cons entry entries ih =>
    rw [writeAll_cons] at h
    obtain ⟨next, hnext, h⟩ := bind_eq_ok.1 h
    obtain ⟨hfirst, hrest⟩ := List.pairwise_cons.1 hapart
    obtain ⟨hfound, hkept⟩ := ih hrest h
    refine ⟨List.forall_mem_cons.2 ⟨fun hvalue position hposition ↦ ?_, hfound⟩,
      fun position hposition ↦ ?_⟩
    -- the entries behind the first one leave its position as it is
    · rw [hkept position fun other hother _ ↦ (hfirst other hother).not_isAt hposition]
      exact get?_writeTo_of_isAt hnext hvalue hposition
    · obtain ⟨hentry, hothers⟩ := List.forall_mem_cons.1 hposition
      rw [hkept position hothers]
      exact get?_writeTo_of_not_isAt hnext hentry

/-! ## The entries of a solution -/

/-- The entries of a solution that starts at a row and a column, row by row. -/
def ofSolution (row col : Int) (solution : List (List Value)) : List Entry :=
  solution.zipIdx.flatMap fun (values, i) ↦
    values.zipIdx.map fun (value, j) ↦ ⟨row + i, col + j, value⟩

variable {row col : Int} {solution : List (List Value)}

theorem mem_ofSolution : entry ∈ ofSolution row col solution ↔ ∃ cell : Cell,
    entryAt? solution cell = some entry.value ∧ entry.row = row + cell.row ∧
      entry.col = col + cell.col := by
  obtain ⟨entryRow, entryCol, entryValue⟩ := entry
  simp only [ofSolution, List.mem_flatMap, List.mem_map, Prod.exists,
    List.mk_mem_zipIdx_iff_getElem?, Entry.mk.injEq, entryAt?, Option.bind_eq_some_iff]
  constructor
  · rintro ⟨values, i, hvalues, value, j, hvalue, rfl, rfl, rfl⟩
    exact ⟨⟨i, j⟩, ⟨values, hvalues, hvalue⟩, rfl, rfl⟩
  · rintro ⟨cell, ⟨values, hvalues, hvalue⟩, rfl, rfl⟩
    exact ⟨values, cell.row, hvalues, entryValue, cell.col, hvalue, rfl, rfl, rfl⟩

theorem pairwise_ofSolution (row col : Int) (solution : List (List Value)) :
    (ofSolution row col solution).Pairwise IsApart := by
  refine List.pairwise_flatMap.2 ⟨fun ⟨values, i⟩ _ ↦ ?_, ?_⟩
  · refine List.pairwise_map.2 ((pairwise_zipIdx values).imp ?_)
    rintro ⟨value, j⟩ ⟨other, j'⟩ hlt ⟨-, hcol⟩
    dsimp only at hlt hcol
    omega
  · refine (pairwise_zipIdx solution).imp ?_
    rintro ⟨values, i⟩ ⟨others, i'⟩ hlt entry hentry other hother ⟨hrow, -⟩
    obtain ⟨_, -, rfl⟩ := List.mem_map.1 hentry
    obtain ⟨_, -, rfl⟩ := List.mem_map.1 hother
    dsimp only at hlt hrow
    omega

def solutionValue (solution : List (List Value)) : Value := .list (solution.map .list)

/-- A solution that starts at integers is written as its entries are, one after another. -/
theorem writeGiven_solutionValue (row col : Int) (sheet : Sheet) (solution : List (List Value)) :
    Directory.writeGiven (.int row) (.int col) sheet (solutionValue solution) =
      writeAll sheet (ofSolution row col solution) := by
  have hline (first : Int) (offset : Nat) :
      Directory.lineAt (.int first) offset = .ok (first + offset) := rfl
  have hitems (items : List Value) : readItems (.list items) = .ok items := rfl
  have hvalues (i : Nat) (values : List Value) (sheet : Sheet) :
      writeAll sheet (values.zipIdx.map fun (value, j) ↦ ⟨row + i, col + j, value⟩) =
        values.zipIdx.foldlM (fun sheet (value, j) ↦ do
          Directory.writeAt (← Directory.lineAt (.int row) i) (← Directory.lineAt (.int col) j)
            sheet value) sheet := by
    rw [writeAll, List.foldlM_map]
    rfl
  rw [ofSolution, writeAll_flatMap, Directory.writeGiven, solutionValue, hitems, ok_bind,
    List.zipIdx_map, List.foldlM_map]
  simp only [hvalues]
  rfl

end Entry

/-! ## Tables of sheets -/

theorem le_foldl_max {numbers : List Nat} {n : Nat} (h : n ∈ numbers) :
    n ≤ numbers.foldl max 0 := by
  rw [List.foldl_eq_foldr]
  exact List.le_max_of_le h le_rfl

namespace Sheet

/-- What stands at a position of a sheet stands at the same place in the table of the sheet. -/
theorem entryAt?_toTable {sheet : Sheet} {row col : Nat} {value : Value}
    (h : sheet.get? (row + 1, col + 1) = some value) :
    entryAt? sheet.toTable ⟨row, col⟩ = some (readable value) := by
  let isInRow (position : Position) : Bool := position.1 == row + 1
  let cells : Sheet := sheet.filter (isInRow ·.1)
  have hkeep : isInRow (row + 1, col + 1) = true := beq_self_eq_true (row + 1)
  have hcells : cells.get? (row + 1, col + 1) = some value :=
    (lookup_filter isInRow hkeep sheet).trans h
  have hrow : row < sheet.lastRow := le_foldl_max (List.mem_map_of_mem (mem_of_lookup h))
  have hcol : col < lastCol cells := le_foldl_max (List.mem_map_of_mem (mem_of_lookup hcells))
  have hline : sheet.toTable[row]? = some (sheet.rowValues (row + 1)) := by
    rw [toTable, List.getElem?_map, List.getElem?_range hrow]
    rfl
  have hvalue : (sheet.rowValues (row + 1))[col]? = some (readable value) := by
    change ((List.range (lastCol cells)).map fun col ↦
      readable ((get? cells (row + 1, col + 1)).getD .null))[col]? = _
    rw [List.getElem?_map, List.getElem?_range hcol, Option.map_some, hcells]
    rfl
  rw [entryAt?, hline, Option.bind_some, hvalue]

end Sheet

end GridPuzzle
