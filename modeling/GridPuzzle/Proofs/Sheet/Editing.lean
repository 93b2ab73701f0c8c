import GridPuzzle.Proofs.Sheet.Writing
import GridPuzzle.Sheet.Editing

/-!
# Editing touches files last

Every step of a solution that is saved changes the open workbook only, in one of its sheets, as the
same step changes the sheet alone. So a fault in any of them leaves all files as they were, and if
there is none, the one file that is named is replaced by the workbook with the changed sheet.
-/

namespace GridPuzzle

open Fallible

def Desk.withSheet (desk : Desk) (title : String) (sheet : Sheet) : Desk :=
  { desk with opened := putNamed title sheet desk.opened }

namespace Editing

variable {α β : Type}

/-! ## Operations one after the other -/

theorem runOn_bind (first : Editing α) (next : α → Editing β) (desk : Desk) :
    runOn (first >>= next) desk =
      match runOn first desk with
      | (.ok a, left) => runOn (next a) left
      | (.error fault, left) => (.error fault, left) := by
  change ExceptT.bindCont next (first.run desk).1 (first.run desk).2 = _
  rw [runOn]
  rcases first.run desk with ⟨_ | _, _⟩ <;> rfl

/-- The second operation goes on with the desk that the first one leaves. -/
theorem runOn_bind_of_ok {first : Editing α} {a : α} {desk left : Desk}
    (h : runOn first desk = (.ok a, left)) (next : α → Editing β) :
    runOn (first >>= next) desk = runOn (next a) left := by
  rw [runOn_bind, h]

theorem runOn_bind_of_error {first : Editing α} {fault : Error} {desk left : Desk}
    (h : runOn first desk = (.error fault, left)) (next : α → Editing β) :
    runOn (first >>= next) desk = (.error fault, left) := by
  rw [runOn_bind, h]

theorem runOn_get_bind (next : Desk → Editing β) (desk : Desk) :
    runOn (get >>= next) desk = runOn (next desk) desk := rfl

theorem runOn_attempt_bind (x : Except Error α) (next : α → Editing β) (desk : Desk) :
    runOn (attempt x >>= next) desk =
      match x with
      | .ok a => runOn (next a) desk
      | .error fault => (.error fault, desk) := by
  cases x with
  | ok a => rfl
  | error fault => rfl

theorem runOn_sheet_bind_of_some {title : String} {desk : Desk} {found : Sheet}
    (h : List.lookup title desk.opened = some found) (next : Sheet → Editing β) :
    runOn (sheet title >>= next) desk = runOn (next found) desk := by
  refine runOn_bind_of_ok ?_ next
  rw [sheet, runOn_get_bind, h]
  rfl

theorem runOn_sheet_bind_of_none {title : String} {desk : Desk}
    (h : List.lookup title desk.opened = none) (next : Sheet → Editing β) :
    runOn (sheet title >>= next) desk = (.error (.sheetMissing title), desk) := by
  refine runOn_bind_of_error ?_ next
  rw [sheet, runOn_get_bind, h]
  rfl

/-! ## Changes of one sheet -/

/-- An operation does to a sheet of the open workbook what a change does to the sheet alone. If the
change is refused, so is the operation, and no file is touched in either case. -/
def Edits (title : String) (operation : Editing Unit) (change : Sheet → Except Error Sheet) :
    Prop :=
  ∀ (desk : Desk) (sheet : Sheet), List.lookup title desk.opened = some sheet →
    (∀ changed, change sheet = .ok changed →
      operation.runOn desk = (.ok (), desk.withSheet title changed)) ∧
    ∀ fault, change sheet = .error fault →
      ∃ opened, operation.runOn desk = (.error fault, { desk with opened })

namespace Edits

variable {title : String}

theorem writeCell (title : String) (row col : Int) (value : Value) :
    Edits title (writeCell title row col value)
      fun sheet ↦ Directory.writeAt row col sheet value := by
  intro desk sheet hsheet
  have hrun : (Editing.writeCell title row col value).runOn desk =
      match Directory.writeAt row col sheet value with
      | .ok written => (.ok (), desk.withSheet title written)
      | .error fault => (.error fault, desk) := by
    rw [Editing.writeCell, runOn_sheet_bind_of_some hsheet, runOn_attempt_bind]
    cases Directory.writeAt row col sheet value <;> rfl
  dsimp only
  exact ⟨fun changed h ↦ by rw [hrun, h], fun fault h ↦ ⟨desk.opened, by rw [hrun, h]⟩⟩

theorem attempt_bind {x : Except Error α} {next : α → Editing Unit}
    {change : α → Sheet → Except Error Sheet} (h : ∀ a, Edits title (next a) (change a)) :
    Edits title (attempt x >>= next) fun sheet ↦ x >>= fun a ↦ change a sheet := by
  intro desk sheet hsheet
  cases x with
  | ok a => exact h a desk sheet hsheet
  | error fault =>
    refine ⟨nofun, fun other hother ↦ ⟨desk.opened, ?_⟩⟩
    obtain rfl := Except.error.inj hother
    rfl

/-- Operations along a list do what the changes do one after another. -/
theorem forM {operation : α → Editing Unit} {change : Sheet → α → Except Error Sheet}
    (h : ∀ a, Edits title (operation a) (change · a)) (l : List α) :
    Edits title (l.forM operation) (l.foldlM change ·) := by
  induction l with
  | nil =>
    refine fun desk sheet hsheet ↦ ⟨fun changed hchanged ↦ ?_, nofun⟩
    obtain rfl := Except.ok.inj hchanged
    rw [Desk.withSheet, putNamed_of_lookup hsheet]
    rfl
  | cons a l ih =>
    intro desk sheet hsheet
    obtain ⟨hok, herror⟩ := h a desk sheet hsheet
    change (∀ changed, (a :: l).foldlM change sheet = .ok changed →
        (operation a >>= fun _ ↦ l.forM operation).runOn desk = _) ∧
      ∀ fault, (a :: l).foldlM change sheet = .error fault →
        ∃ opened, (operation a >>= fun _ ↦ l.forM operation).runOn desk = _
    rw [List.foldlM_cons]
    cases hfirst : change sheet a with
    | error first =>
      obtain ⟨opened, hrun⟩ := herror first hfirst
      refine ⟨nofun, fun fault hfault ↦ ⟨opened, ?_⟩⟩
      obtain rfl := Except.error.inj hfault
      exact runOn_bind_of_error hrun _
    | ok changed =>
      have hrun := hok changed hfirst
      obtain ⟨hrest, hfault⟩ :=
        ih (desk.withSheet title changed) changed (lookup_putNamed_self title changed desk.opened)
      refine ⟨fun last hlast ↦ ?_, fun fault hlast ↦ ?_⟩
      · rw [runOn_bind_of_ok hrun, hrest last hlast, Desk.withSheet, Desk.withSheet,
          putNamed_putNamed]
        rfl
      · obtain ⟨opened, hrun'⟩ := hfault fault hlast
        exact ⟨opened, by rw [runOn_bind_of_ok hrun, hrun']; rfl⟩

/-- Writing a solution cell by cell changes a sheet as writing it at once does. -/
theorem writeSolution (title : String) (solution firstRow firstCol : Value) :
    Edits title (writeSolution title solution firstRow firstCol)
      fun sheet ↦ Directory.writeGiven firstRow firstCol sheet solution := by
  refine attempt_bind fun lines ↦ forM (fun (line, i) ↦ ?_) lines.zipIdx
  refine attempt_bind fun values ↦ forM (fun (value, j) ↦ ?_) values.zipIdx
  exact attempt_bind fun row ↦ attempt_bind fun col ↦ Edits.writeCell title row col value

end Edits

/-! ## Changes of a directory -/

/-- A run answers as a change of the files does and leaves the files that the change makes. Where
the change is refused, it leaves the files as they were. -/
def Follows (run : Except Error α × Desk) (files : Directory) :
    Except Error (Directory × α) → Prop
  | .ok (made, a) => run.1 = .ok a ∧ run.2.files = made
  | .error fault => run.1 = .error fault ∧ run.2.files = files

theorem follows_saveSolution (file title : String) (solution firstRow firstCol : Value)
    (desk : Desk) :
    Follows ((saveSolution file title solution firstRow firstCol).runOn desk) desk.files
      ((desk.files.saveGiven file title solution firstRow firstCol).map (·, ())) := by
  unfold saveSolution Directory.saveGiven
  cases hbook : desk.files.workbook file with
  | error fault =>
    have hopen : (openFile file).runOn desk = (.error fault, desk) := by
      rw [openFile, runOn_get_bind, runOn_attempt_bind, hbook]
    rw [runOn_bind_of_error hopen]
    exact ⟨rfl, rfl⟩
  | ok book =>
    have hopen : (openFile file).runOn desk = (.ok (), { desk with opened := book }) := by
      rw [openFile, runOn_get_bind, runOn_attempt_bind, hbook]
      rfl
    rw [runOn_bind_of_ok hopen, ok_bind]
    cases hsheet : List.lookup title book with
    | none =>
      rw [runOn_sheet_bind_of_none hsheet]
      exact ⟨rfl, rfl⟩
    | some sheet =>
      rw [runOn_sheet_bind_of_some hsheet]
      obtain ⟨hok, herror⟩ := Edits.writeSolution title solution firstRow firstCol
        { desk with opened := book } sheet hsheet
      dsimp only at hok herror ⊢
      cases hwritten : Directory.writeGiven firstRow firstCol sheet solution with
      | error fault =>
        obtain ⟨opened, hrun⟩ := herror fault hwritten
        rw [runOn_bind_of_error hrun]
        exact ⟨rfl, rfl⟩
      | ok written =>
        rw [runOn_bind_of_ok (hok written hwritten)]
        exact ⟨rfl, rfl⟩

theorem follows_copyFile (file addition : String) (desk : Desk) :
    Follows ((copyFile file addition).runOn desk) desk.files (desk.files.copy file addition) := by
  unfold copyFile Directory.copy
  dsimp only
  split
  next => exact ⟨rfl, rfl⟩
  next =>
    rw [runOn_get_bind, runOn_attempt_bind]
    cases desk.files.workbook file with
    | error fault => exact ⟨rfl, rfl⟩
    | ok book =>
      dsimp only [ok_bind]
      split
      next => exact ⟨rfl, rfl⟩
      next => exact ⟨rfl, rfl⟩

section

variable {run : Except Error α × Desk} {files : Directory}
  {change : Except Error (Directory × α)} {left : Desk} {fault : Error} {a : α}

/-- A run that fails leaves the files as they were. -/
theorem Follows.files_eq (h : Follows run files change) (hrun : run = (.error fault, left)) :
    left.files = files := by
  subst hrun
  cases change with
  | error other => exact h.2
  | ok made => cases h.1

theorem Follows.change_eq (h : Follows run files change) (hrun : run = (.ok a, left)) :
    change = .ok (left.files, a) := by
  subst hrun
  cases change with
  | error other => cases h.1
  | ok made => exact congrArg Except.ok (Prod.ext h.2.symm (Except.ok.inj h.1).symm)

theorem Follows.exists_error (h : Follows run files change) (hchange : change = .error fault) :
    ∃ left, run = (.error fault, left) ∧ left.files = files := by
  subst hchange
  exact ⟨run.2, Prod.ext h.1 rfl, h.2⟩

theorem Follows.exists_ok_iff (h : Follows run files change) :
    (∃ left, run = (.ok a, left)) ↔ ∃ made, change = .ok (made, a) := by
  constructor
  · rintro ⟨left, hrun⟩
    exact ⟨left.files, h.change_eq hrun⟩
  · rintro ⟨made, rfl⟩
    exact ⟨run.2, Prod.ext h.1 rfl⟩

end

variable {file title : String} {given firstRow firstCol : Value} {desk left : Desk}

theorem saveGiven_of_runOn
    (h : (saveSolution file title given firstRow firstCol).runOn desk = (.ok (), left)) :
    desk.files.saveGiven file title given firstRow firstCol = .ok left.files := by
  obtain ⟨saved, hsaved, heq⟩ := map_eq_ok.1
    ((follows_saveSolution file title given firstRow firstCol desk).change_eq h)
  rw [hsaved, (Prod.mk.inj heq).1]

theorem exists_runOn_saveSolution_iff :
    (∃ left, (saveSolution file title given firstRow firstCol).runOn desk = (.ok (), left)) ↔
      ∃ saved, desk.files.saveGiven file title given firstRow firstCol = .ok saved := by
  rw [(follows_saveSolution file title given firstRow firstCol desk).exists_ok_iff]
  simp [map_eq_ok]

end Editing

end GridPuzzle
