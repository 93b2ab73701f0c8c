import GridPuzzle.Proofs.Sheet.Clues
import GridPuzzle.Proofs.Sheet.Editing

/-!
# Solutions in copies

To save a solution either fails and leaves all files as they were, or changes one sheet of one file:
the values of the solution stand where they belong, and everything else is as before. A copy has a
name of its own and the content of the original, so what is saved into the copy never reaches the
original. A matrix of integers that has been saved is read back as one clue for each of its entries.
-/

namespace GridPuzzle

open Fallible

namespace Directory

def valueAt? (files : Directory) (file title : String) (position : Position) : Option Value :=
  (List.lookup file files).bind fun book ↦ (List.lookup title book).bind (·.get? position)

variable {files saved : Directory} {file title : String} {row col : Int}
  {solution : List (List Value)}

theorem workbook_eq_ok {book : Workbook} :
    files.workbook file = .ok book ↔ List.lookup file files = some book := by
  unfold workbook
  cases List.lookup file files <;> simp

/-! ## Saving -/

/-- What there is to be saved into: a file with a sheet of the title. -/
def HasSheet (files : Directory) (file title : String) : Prop :=
  ∃ book, files.workbook file = .ok book ∧ (List.lookup title book).isSome = true

/-- Every value of a solution, nulls among them, stands in a row and a column from the first ones
on. -/
def IsWritableFrom (row col : Int) (solution : List (List Value)) : Prop :=
  ∀ cell value, entryAt? solution cell = some value → 1 ≤ row + cell.row ∧ 1 ≤ col + cell.col

theorem isWritableFrom_iff : IsWritableFrom row col solution ↔
    ∀ entry ∈ Entry.ofSolution row col solution, entry.IsWritable := by
  constructor
  · intro h entry hentry
    obtain ⟨cell, hvalue, hrow, hcol⟩ := Entry.mem_ofSolution.1 hentry
    rw [Entry.IsWritable, hrow, hcol]
    exact h cell entry.value hvalue
  · intro h cell value hvalue
    exact h ⟨row + cell.row, col + cell.col, value⟩
      (Entry.mem_ofSolution.2 ⟨cell, hvalue, rfl, rfl⟩)

/-- A solution is saved where there is a sheet for it and all its values can be written. -/
theorem saveGiven_cases (files : Directory) (file title : String) (solution : List (List Value))
    (row col : Int) :
    (∃ book sheet written, files.workbook file = .ok book ∧ List.lookup title book = some sheet ∧
        IsWritableFrom row col solution ∧
        Entry.writeAll sheet (Entry.ofSolution row col solution) = .ok written ∧
        files.saveGiven file title (Entry.solutionValue solution) (.int row) (.int col) =
          .ok (putNamed file (putNamed title written book) files)) ∨
      (¬(files.HasSheet file title ∧ IsWritableFrom row col solution) ∧
        ∃ fault, files.saveGiven file title (Entry.solutionValue solution) (.int row) (.int col) =
          .error fault) := by
  unfold saveGiven HasSheet
  cases hbook : files.workbook file with
  | error fault => exact .inr ⟨by simp, fault, rfl⟩
  | ok book =>
    rw [ok_bind]
    cases hsheet : List.lookup title book with
    | none =>
      refine .inr ⟨?_, .sheetMissing title, rfl⟩
      rintro ⟨⟨_, hsame, hsome⟩, -⟩
      obtain rfl := Except.ok.inj hsame
      rw [hsheet] at hsome
      cases hsome
    | some sheet =>
      dsimp only
      rw [Entry.writeGiven_solutionValue, isWritableFrom_iff]
      obtain ⟨hall, written, hwritten⟩ | ⟨hnot, hwritten⟩ :=
        Entry.writeAll_cases sheet (Entry.ofSolution row col solution)
      · exact .inl ⟨book, sheet, written, rfl, hsheet, hall, hwritten, by rw [hwritten]; rfl⟩
      · exact .inr ⟨fun h ↦ hnot h.2, .wrongValue, by rw [hwritten]; rfl⟩

theorem exists_saveGiven_iff :
    (∃ saved, files.saveGiven file title (Entry.solutionValue solution) (.int row) (.int col) =
      .ok saved) ↔ files.HasSheet file title ∧ IsWritableFrom row col solution := by
  obtain ⟨book, sheet, written, hbook, hsheet, hwritable, -, hsaved⟩ | ⟨hnot, fault, hfault⟩ :=
    saveGiven_cases files file title solution row col
  · exact iff_of_true ⟨_, hsaved⟩ ⟨⟨book, hbook, by rw [hsheet]; rfl⟩, hwritable⟩
  · refine iff_of_false ?_ hnot
    rintro ⟨saved, hsaved⟩
    rw [hfault] at hsaved
    cases hsaved

/-- What is saved is written to a sheet that was there. -/
theorem saveGiven_eq_ok
    (h : files.saveGiven file title (Entry.solutionValue solution) (.int row) (.int col) =
      .ok saved) : ∃ book sheet written, List.lookup file files = some book ∧
        List.lookup title book = some sheet ∧ IsWritableFrom row col solution ∧
        Entry.AreWritten (Entry.ofSolution row col solution) sheet written ∧
        saved = putNamed file (putNamed title written book) files := by
  obtain ⟨book, sheet, written, hbook, hsheet, hwritable, hwritten, hsaved⟩ | ⟨-, fault, hfault⟩ :=
    saveGiven_cases files file title solution row col
  · exact ⟨book, sheet, written, workbook_eq_ok.1 hbook, hsheet, hwritable,
      Entry.areWritten_of_writeAll (Entry.pairwise_ofSolution row col solution) hwritten,
      Except.ok.inj (h.symm.trans hsaved)⟩
  · rw [hfault] at h
    cases h

theorem saveGiven_of_sheetMissing {book : Workbook} (hbook : files.workbook file = .ok book)
    (htitle : List.lookup title book = none) (given firstRow firstCol : Value) :
    files.saveGiven file title given firstRow firstCol = .error (.sheetMissing title) := by
  rw [saveGiven, hbook, ok_bind, htitle]
  rfl

/-- Whatever is saved, it is saved into one file. -/
theorem lookup_of_saveGiven {given firstRow firstCol : Value}
    (h : files.saveGiven file title given firstRow firstCol = .ok saved) {other : String}
    (hother : other ≠ file) : List.lookup other saved = List.lookup other files := by
  unfold saveGiven at h
  obtain ⟨book, -, h⟩ := bind_eq_ok.1 h
  split at h
  · cases h
  · obtain ⟨written, -, h⟩ := bind_eq_ok.1 h
    obtain rfl := Except.ok.inj h
    exact lookup_putNamed_of_ne hother _ files

/-- Whether a value of a solution stands at a position. A null stands nowhere. -/
def Places (row col : Int) (solution : List (List Value)) (position : Position) (value : Value) :
    Prop :=
  ∃ cell : Cell, entryAt? solution cell = some value ∧ value ≠ .null ∧
    (position.1 : Int) = row + cell.row ∧ (position.2 : Int) = col + cell.col

/-- The files after a solution has been saved: its values are found at their positions in one sheet,
all other values are as they were, and there are no other files or sheets than before. -/
structure IsSaved (file title : String) (row col : Int) (solution : List (List Value))
    (files saved : Directory) : Prop where
  fileNames : saved.map Prod.fst = files.map Prod.fst
  otherFiles : ∀ other ≠ file, List.lookup other saved = List.lookup other files
  titles : ∃ book changed, List.lookup file files = some book ∧
    List.lookup file saved = some changed ∧ changed.map Prod.fst = book.map Prod.fst
  found : ∀ cell value, entryAt? solution cell = some value → value ≠ .null →
    ∃ position : Position, (position.1 : Int) = row + cell.row ∧
      (position.2 : Int) = col + cell.col ∧ saved.valueAt? file title position = some value
  kept : ∀ other position, (other = title → ∀ value, ¬Places row col solution position value) →
    saved.valueAt? file other position = files.valueAt? file other position

theorem isSaved_of_saveGiven
    (h : files.saveGiven file title (Entry.solutionValue solution) (.int row) (.int col) =
      .ok saved) : IsSaved file title row col solution files saved := by
  obtain ⟨book, sheet, written, hfile, hsheet, hwritable, ⟨hfound, hkept⟩, rfl⟩ :=
    saveGiven_eq_ok h
  have hvalueAt (other : String) (position : Position) :
      valueAt? (putNamed file (putNamed title written book) files) file other position =
        (List.lookup other (putNamed title written book)).bind (·.get? position) := by
    rw [valueAt?, lookup_putNamed_self, Option.bind_some]
  exact {
    fileNames := map_fst_putNamed (by rw [hfile]; rfl) _
    otherFiles := fun other ↦ lookup_of_saveGiven h
    titles := ⟨book, _, hfile, lookup_putNamed_self file _ files,
      map_fst_putNamed (by rw [hsheet]; rfl) written⟩
    found := by
      intro cell value hentry hvalue
      have hmem : (⟨row + cell.row, col + cell.col, value⟩ : Entry) ∈
          Entry.ofSolution row col solution := Entry.mem_ofSolution.2 ⟨cell, hentry, rfl, rfl⟩
      -- the positions written to count from one, so the sums are natural numbers
      obtain ⟨hrow, hcol⟩ := hwritable cell value hentry
      lift row + (cell.row : Int) to ℕ using by omega with i hi
      lift col + (cell.col : Int) to ℕ using by omega with j hj
      refine ⟨(i, j), rfl, rfl, ?_⟩
      rw [hvalueAt, lookup_putNamed_self, Option.bind_some]
      exact hfound _ hmem hvalue (i, j) ⟨rfl, rfl⟩
    kept := by
      intro other position hother
      rw [hvalueAt, valueAt?, hfile, Option.bind_some]
      by_cases htitle : other = title
      · subst htitle
        rw [lookup_putNamed_self, hsheet, Option.bind_some, Option.bind_some]
        refine hkept position fun entry hentry hvalue hposition ↦ ?_
        obtain ⟨cell, hcell, hrow, hcol⟩ := Entry.mem_ofSolution.1 hentry
        exact hother rfl entry.value
          ⟨cell, hcell, hvalue, hposition.1.trans hrow, hposition.2.trans hcol⟩
      · rw [lookup_putNamed_of_ne htitle] }

/-! ## Reading back -/

def IsClueAt (kind : Value) (matrix : List (List Int)) (cell : Cell) (clue : Clue) : Prop :=
  clue.cell = cell ∧ clue.kind = kind ∧ ∃ n, entryAt? matrix cell = some n ∧ clue.value = .int n

/-- A block that shows an integer in each of its cells gives a clue for each of them. -/
theorem exists_clues {block : Block} {table : Table} {matrix : List (List Int)}
    (h : ∀ cell ∈ rectangle block.rows.toNat block.cols.toNat, ∃ n,
      entryAt? matrix cell = some n ∧ block.contentAt? table cell = some (.int n))
    (sheet : String) (kind : Value) : ∃ clues, block.clues sheet kind table = .ok clues ∧
      List.Forall₂ (IsClueAt kind matrix) (rectangle block.rows.toNat block.cols.toNat) clues := by
  have hgiven (cell : Cell) (hcell : cell ∈ rectangle block.rows.toNat block.cols.toNat) :
      ∃ n, entryAt? matrix cell = some n ∧
        ((block.contentAt? table cell).filter (!Block.isBlankCell ·)).map (cell, ·) =
          some (cell, .int n) := by
    obtain ⟨n, hn, hcontent⟩ := h cell hcell
    exact ⟨n, hn, by rw [hcontent]; rfl⟩
  rw [Block.clues, Block.filledCells_eq, Block.given]
  have hread (entry : Cell × Value) (hentry : entry ∈ (rectangle block.rows.toNat
      block.cols.toNat).filterMap fun cell ↦
        ((block.contentAt? table cell).filter (!Block.isBlankCell ·)).map (cell, ·)) :
      ∃ clue, (Block.readDigit sheet (Block.placeOf entry.1) entry.2).map
        (fun n ↦ (⟨entry.1, kind, .int n⟩ : Clue)) = .ok clue := by
    obtain ⟨cell, hcell, hentry⟩ := List.mem_filterMap.1 hentry
    obtain ⟨n, -, hn⟩ := hgiven cell hcell
    obtain rfl := Option.some.inj (hn.symm.trans hentry)
    exact ⟨_, rfl⟩
  obtain ⟨clues, hclues⟩ := exists_mapM_eq_ok hread
  refine ⟨clues, hclues, forall₂_of_filterMap_mapM_eq_ok hclues fun cell hcell ↦ ?_⟩
  obtain ⟨n, hn, hentry⟩ := hgiven cell hcell
  refine ⟨_, hentry, fun clue hclue ↦ ?_⟩
  obtain rfl := Except.ok.inj hclue
  exact ⟨rfl, rfl, n, hn, rfl⟩

/-- A solution that is written to a sheet is shown by the block of its size at the same place. -/
theorem contentAt?_of_areWritten {sheet written : Sheet}
    (h : Entry.AreWritten (Entry.ofSolution row col solution) sheet written)
    (hwritable : IsWritableFrom row col solution) {rows cols : Int} {cell : Cell} {value : Value}
    (hvalue : entryAt? solution cell = some value) (hnull : value ≠ .null) :
    Block.contentAt? ⟨row, col, rows, cols⟩ written.toTable cell = some (Sheet.readable value) := by
  obtain ⟨hrow, hcol⟩ := hwritable cell value hvalue
  obtain ⟨i, hi⟩ := Int.eq_ofNat_of_zero_le (show 0 ≤ row + cell.row - 1 by omega)
  obtain ⟨j, hj⟩ := Int.eq_ofNat_of_zero_le (show 0 ≤ col + cell.col - 1 by omega)
  have hposition : written.get? (i + 1, j + 1) = some value := by
    refine h.found ⟨row + cell.row, col + cell.col, value⟩
      (Entry.mem_ofSolution.2 ⟨cell, hvalue, rfl, rfl⟩) hnull (i + 1, j + 1) ⟨?_, ?_⟩
    · dsimp only
      omega
    · dsimp only
      omega
  exact Block.contentAt?_eq_some.2 ⟨i, j, hi.symm, hj.symm, Sheet.entryAt?_toTable hposition⟩

/-- A matrix of integers is read back from the place where it was saved. -/
theorem readClues_of_saveGiven {matrix : List (List Int)} {cols : Nat}
    (hshape : HasShape matrix.length cols matrix)
    (h : files.saveGiven file title (Entry.solutionValue (matrix.map (·.map .int))) (.int row)
      (.int col) = .ok saved) (kind : Value) :
    ∃ clues, saved.readClues file title kind (.int row) (.int col) (.int matrix.length)
      (.int cols) = .ok clues ∧
        List.Forall₂ (IsClueAt kind matrix) (rectangle matrix.length cols) clues := by
  obtain ⟨book, sheet, written, -, -, hwritable, hareWritten, rfl⟩ := saveGiven_eq_ok h
  have htable : table (putNamed file (putNamed title written book) files) file title =
      .ok written.toTable := by
    rw [table, workbook_eq_ok.2 (lookup_putNamed_self file _ files), ok_bind,
      lookup_putNamed_self]
    rfl
  rw [readClues, htable, ok_bind, Block.readClues_int]
  refine exists_clues (fun cell hcell ↦ ?_) title kind
  obtain ⟨n, hn⟩ := Option.isSome_iff_exists.1
    (hshape.isSome_entryAt?_iff.2 (mem_rectangle.1 hcell))
  have hvalue : entryAt? (matrix.map (·.map Value.int)) cell = some (.int n) := by
    rw [entryAt?_map, hn]
    rfl
  exact ⟨n, hn, contentAt?_of_areWritten hareWritten hwritable hvalue Value.noConfusion⟩

/-! ## Copying -/

/-- A stem and a suffix make up the name. -/
theorem splitName_append (name : String) : (splitName name).1 ++ (splitName name).2 = name := by
  unfold splitName
  dsimp only
  cases hstem : name.toList.reverse.dropWhile (· != '.') with
  | nil => exact String.append_empty
  | cons point stem =>
    have hpoint := List.head?_dropWhile_not (· != '.') name.toList.reverse
    rw [hstem, List.head?_cons] at hpoint
    obtain rfl : point = '.' := by simpa using hpoint
    have hparts : name.toList.reverse.takeWhile (· != '.') ++ '.' :: stem =
        name.toList.reverse := by
      rw [← hstem]
      exact List.takeWhile_append_dropWhile
    have hchars : stem.reverse ++ '.' :: (name.toList.reverse.takeWhile (· != '.')).reverse =
        name.toList := by
      have hreversed := congrArg List.reverse hparts
      rwa [List.reverse_append, List.reverse_cons, List.reverse_reverse, List.append_assoc,
        List.singleton_append] at hreversed
    dsimp only
    split
    next => exact String.append_empty
    next => rw [← String.ofList_append, hchars, String.ofList_toList]

/-- Only an empty addition makes the name of a copy that of the original. -/
theorem copyName_eq_iff {addition : String} : copyName file addition = file ↔ addition = "" := by
  have hname : copyName file addition =
      (splitName file).1 ++ (addition ++ (splitName file).2) := String.append_assoc
  constructor
  · intro h
    have hsame := congrArg String.length (h.trans (splitName_append file).symm)
    rw [hname, String.length_append, String.length_append, String.length_append] at hsame
    exact String.length_eq_zero_iff.1 (by omega)
  · rintro rfl
    rw [hname, String.empty_append, splitName_append]

/-- The files after a file has been copied: the copy has a name of its own, which differs from that
of the original by an addition in front of the suffix, and the same content, and nothing else has
changed. -/
structure IsCopied (file addition name : String) (files copied : Directory) : Prop where
  named : name = copyName file addition
  ne : name ≠ file
  equal : ∃ book, List.lookup file files = some book ∧ List.lookup name copied = some book
  others : ∀ other ≠ name, List.lookup other copied = List.lookup other files

theorem copy_eq (files : Directory) (file addition : String) : files.copy file addition =
    if '/' ∈ (copyName file addition).toList then .error .wrongValue
    else
      match List.lookup file files with
      | none => .error (.misuse .missingFile)
      | some book =>
        if addition = "" then .error (.misuse .sameFile)
        else .ok (putNamed (copyName file addition) book files, copyName file addition) := by
  unfold copy workbook
  dsimp only
  by_cases hslash : '/' ∈ (copyName file addition).toList
  · rw [if_pos hslash, if_pos (List.contains_iff_mem.2 hslash)]
    rfl
  · rw [if_neg hslash, if_neg (mt List.contains_iff_mem.1 hslash)]
    cases List.lookup file files with
    | none => rfl
    | some book =>
      dsimp only [ok_bind]
      by_cases hempty : addition = ""
      · rw [if_pos hempty, if_pos (beq_iff_eq.2 (copyName_eq_iff.2 hempty))]
        rfl
      · rw [if_neg hempty, if_neg (mt beq_iff_eq.1 (mt copyName_eq_iff.1 hempty))]
        rfl

/-- A file is copied if it is there and the name of the copy is one, and not that of the file. -/
theorem copy_eq_ok_iff {addition name : String} {copied : Directory} :
    files.copy file addition = .ok (copied, name) ↔
      name = copyName file addition ∧ '/' ∉ name.toList ∧ addition ≠ "" ∧
        ∃ book, List.lookup file files = some book ∧ copied = putNamed name book files := by
  rw [copy_eq]
  by_cases hslash : '/' ∈ (copyName file addition).toList
  · rw [if_pos hslash]
    refine iff_of_false nofun ?_
    rintro ⟨rfl, hnot, -⟩
    exact hnot hslash
  · rw [if_neg hslash]
    cases List.lookup file files with
    | none => simp
    | some book =>
      by_cases hempty : addition = ""
      · simp [hempty]
      · dsimp only
        rw [if_neg hempty, Except.ok.injEq, Prod.mk.injEq]
        constructor
        · rintro ⟨rfl, rfl⟩
          exact ⟨rfl, hslash, hempty, book, rfl, rfl⟩
        · rintro ⟨rfl, -, -, other, hother, rfl⟩
          obtain rfl := Option.some.inj hother
          exact ⟨rfl, rfl⟩

theorem exists_copy_iff {addition name : String} :
    (∃ copied, files.copy file addition = .ok (copied, name)) ↔
      name = copyName file addition ∧ '/' ∉ name.toList ∧ addition ≠ "" ∧
        (List.lookup file files).isSome = true := by
  simp only [copy_eq_ok_iff, Option.isSome_iff_exists]
  constructor
  · rintro ⟨-, hname, hslash, hempty, book, hbook, -⟩
    exact ⟨hname, hslash, hempty, book, hbook⟩
  · rintro ⟨hname, hslash, hempty, book, hbook⟩
    exact ⟨_, hname, hslash, hempty, book, hbook, rfl⟩

/-- A file is not copied onto itself. -/
theorem exists_copy_error (files : Directory) (file : String) :
    ∃ fault, files.copy file "" = .error fault := by
  cases hcopy : files.copy file "" with
  | error fault => exact ⟨fault, rfl⟩
  | ok made =>
    obtain ⟨-, -, hempty, -⟩ := copy_eq_ok_iff.1 hcopy
    exact absurd rfl hempty

theorem isCopied_of_copy {addition name : String} {copied : Directory}
    (h : files.copy file addition = .ok (copied, name)) :
    IsCopied file addition name files copied := by
  obtain ⟨hname, -, haddition, book, hbook, rfl⟩ := copy_eq_ok_iff.1 h
  refine ⟨hname, ?_, ⟨book, hbook, lookup_putNamed_self name book files⟩,
    fun other hother ↦ lookup_putNamed_of_ne hother book files⟩
  rw [hname]
  exact mt copyName_eq_iff.1 haddition

end Directory

namespace Editing

/-- To save a solution fails and leaves all files as they were, or writes the values of the solution
into one sheet of one file and changes nothing else; it succeeds just if there is the sheet and no
row or column to be written to is before the first. A full matrix of integers is then read back as
one clue for each entry. To copy a file fails, as it does without an addition to the name, and
leaves all files as they were, or makes one with the same content and another name. So the original
is never changed by what is saved into the copy. -/
theorem files_saved_and_copied (desk : Desk) (file : String) :
    (∀ title given firstRow firstCol fault left,
      (saveSolution file title given firstRow firstCol).runOn desk = (.error fault, left) →
        left.files = desk.files) ∧
    (∀ title given firstRow firstCol book, desk.files.workbook file = .ok book →
      List.lookup title book = none → ∃ left,
        (saveSolution file title given firstRow firstCol).runOn desk =
          (.error (.sheetMissing title), left)) ∧
    (∀ title solution (row col : Int),
      (∃ left, (saveSolution file title (Entry.solutionValue solution) (.int row) (.int col)).runOn
        desk = (.ok (), left)) ↔
          desk.files.HasSheet file title ∧ Directory.IsWritableFrom row col solution) ∧
    (∀ title solution (row col : Int) left,
      (saveSolution file title (Entry.solutionValue solution) (.int row) (.int col)).runOn desk =
        (.ok (), left) → Directory.IsSaved file title row col solution desk.files left.files) ∧
    (∀ title (matrix : List (List Int)) cols (row col : Int) left kind,
      HasShape matrix.length cols matrix →
      (saveSolution file title (Entry.solutionValue (matrix.map (·.map .int))) (.int row)
        (.int col)).runOn desk = (.ok (), left) →
          ∃ clues, left.files.readClues file title kind (.int row) (.int col)
            (.int matrix.length) (.int cols) = .ok clues ∧
              List.Forall₂ (Directory.IsClueAt kind matrix) (rectangle matrix.length cols) clues) ∧
    (∀ addition fault left, (copyFile file addition).runOn desk = (.error fault, left) →
      left.files = desk.files) ∧
    (∃ fault left, (copyFile file "").runOn desk = (.error fault, left) ∧
      left.files = desk.files) ∧
    (∀ addition name, (∃ left, (copyFile file addition).runOn desk = (.ok name, left)) ↔
      name = Directory.copyName file addition ∧ '/' ∉ name.toList ∧ addition ≠ "" ∧
        (List.lookup file desk.files).isSome = true) ∧
    ∀ addition name left, (copyFile file addition).runOn desk = (.ok name, left) →
      Directory.IsCopied file addition name desk.files left.files ∧
        ∀ title given firstRow firstCol,
          List.lookup file
              ((saveSolution name title given firstRow firstCol).runOn left).2.files =
            List.lookup file desk.files := by
  have hsave (title : String) (given firstRow firstCol : Value) :=
    follows_saveSolution file title given firstRow firstCol desk
  have hcopy (addition : String) := follows_copyFile file addition desk
  refine ⟨fun title given firstRow firstCol fault left h ↦
      (hsave title given firstRow firstCol).files_eq h,
    fun title given firstRow firstCol book hbook htitle ↦ ?_, fun title solution row col ↦ ?_,
    fun title solution row col left h ↦ Directory.isSaved_of_saveGiven (saveGiven_of_runOn h),
    fun title matrix cols row col left kind hshape h ↦
      Directory.readClues_of_saveGiven hshape (saveGiven_of_runOn h) kind,
    fun addition fault left h ↦ (hcopy addition).files_eq h, ?_, fun addition name ↦ ?_,
    fun addition name left h ↦ ?_⟩
  · have hmissing := Directory.saveGiven_of_sheetMissing hbook htitle given firstRow firstCol
    obtain ⟨left, hrun, -⟩ :=
      (hsave title given firstRow firstCol).exists_error (map_eq_error.2 hmissing)
    exact ⟨left, hrun⟩
  · rw [exists_runOn_saveSolution_iff, Directory.exists_saveGiven_iff]
  · obtain ⟨fault, hfault⟩ := Directory.exists_copy_error desk.files file
    exact ⟨fault, (hcopy "").exists_error hfault⟩
  · rw [(hcopy addition).exists_ok_iff, Directory.exists_copy_iff]
  · have hcopied := Directory.isCopied_of_copy ((hcopy addition).change_eq h)
    refine ⟨hcopied, fun title given firstRow firstCol ↦ ?_⟩
    rw [← hcopied.others file hcopied.ne.symm]
    cases hrun : (saveSolution name title given firstRow firstCol).runOn left with
    | mk answer after =>
      cases answer with
      | error fault =>
        rw [(follows_saveSolution name title given firstRow firstCol left).files_eq hrun]
      | ok made =>
        exact Directory.lookup_of_saveGiven (saveGiven_of_runOn hrun) hcopied.ne.symm

/-- A puzzle of two given digits, and a sheet of notes beside it. -/
def puzzleDesk : Desk where
  files := [("puzzle.xlsx",
    [("Grid", [((1, 1), .int 1), ((2, 2), .int 1)]), ("Notes", [((1, 1), .text "easy")])])]

/-- The digits that are missing in the puzzle; nothing is to be written over the given ones. -/
def missingDigits : List (List Value) := [[.null, .int 2], [.int 2]]

/-- The missing digits can be saved, but not above the first row and not into a sheet that is not
there. A full square of digits is read back, and what is saved into a copy leaves the puzzle as it
is. -/
theorem missingDigits_saved_and_copied :
    (∃ fault left, (saveSolution "puzzle.xlsx" "Grid" (Entry.solutionValue missingDigits)
        (.int 0) (.int 1)).runOn puzzleDesk = (.error fault, left) ∧
      left.files = puzzleDesk.files) ∧
    (∃ left, (saveSolution "puzzle.xlsx" "Answer" .null .null .null).runOn puzzleDesk =
      (.error (.sheetMissing "Answer"), left)) ∧
    (∃ left, (saveSolution "puzzle.xlsx" "Grid" (Entry.solutionValue missingDigits)
        (.int 1) (.int 1)).runOn puzzleDesk = (.ok (), left) ∧
      Directory.IsSaved "puzzle.xlsx" "Grid" 1 1 missingDigits puzzleDesk.files left.files) ∧
    (∃ left clues, (saveSolution "puzzle.xlsx" "Grid" (Entry.solutionValue
        [[.int 1, .int 2], [.int 2, .int 1]]) (.int 4) (.int 1)).runOn puzzleDesk = (.ok (), left) ∧
      left.files.readClues "puzzle.xlsx" "Grid" (.text "digit") (.int 4) (.int 1) (.int 2)
        (.int 2) = .ok clues ∧
      List.Forall₂ (Directory.IsClueAt (.text "digit") [[1, 2], [2, 1]]) (rectangle 2 2) clues) ∧
    (∃ fault left, (copyFile "puzzle.xlsx" "/solved").runOn puzzleDesk = (.error fault, left) ∧
      left.files = puzzleDesk.files) ∧
    ∃ left, (copyFile "puzzle.xlsx" "_solved").runOn puzzleDesk =
        (.ok "puzzle_solved.xlsx", left) ∧
      Directory.IsCopied "puzzle.xlsx" "_solved" "puzzle_solved.xlsx" puzzleDesk.files left.files ∧
      ∀ title given firstRow firstCol, List.lookup "puzzle.xlsx"
          ((saveSolution "puzzle_solved.xlsx" title given firstRow firstCol).runOn left).2.files =
        List.lookup "puzzle.xlsx" puzzleDesk.files := by
  obtain ⟨hfailed, hmissing, hsaved, hframe, hread, hcopyFailed, -, -, hcopied⟩ :=
    files_saved_and_copied puzzleDesk "puzzle.xlsx"
  have hsheet : puzzleDesk.files.HasSheet "puzzle.xlsx" "Grid" := ⟨_, rfl, rfl⟩
  have hwritable {row : Int} (hrow : 1 ≤ row) (solution : List (List Value)) :
      Directory.IsWritableFrom row 1 solution := fun cell _ _ ↦ by omega
  refine ⟨?_, hmissing "Answer" .null .null .null _ rfl rfl, ?_, ?_,
    ⟨_, _, rfl, hcopyFailed "/solved" _ _ rfl⟩, ⟨_, rfl, hcopied "_solved" _ _ rfl⟩⟩
  · cases hrun : (saveSolution "puzzle.xlsx" "Grid" (Entry.solutionValue missingDigits)
        (.int 0) (.int 1)).runOn puzzleDesk with
    | mk answer left =>
      cases answer with
      | error fault => exact ⟨fault, left, rfl, hfailed _ _ _ _ _ _ hrun⟩
      | ok made =>
        obtain ⟨-, hall⟩ := (hsaved _ _ 0 1).1 ⟨left, hrun⟩
        exact absurd (hall ⟨0, 0⟩ .null rfl).1 (by decide)
  · obtain ⟨left, hrun⟩ := (hsaved "Grid" missingDigits 1 1).2 ⟨hsheet, hwritable (by decide) _⟩
    exact ⟨left, hrun, hframe _ _ _ _ _ hrun⟩
  · obtain ⟨left, hrun⟩ := (hsaved "Grid" [[.int 1, .int 2], [.int 2, .int 1]] 4 1).2
      ⟨hsheet, hwritable (by decide) _⟩
    obtain ⟨clues, hclues⟩ := hread "Grid" [[1, 2], [2, 1]] 2 4 1 left (.text "digit")
      (by decide) hrun
    exact ⟨left, clues, hrun, hclues⟩

end Editing

end GridPuzzle
