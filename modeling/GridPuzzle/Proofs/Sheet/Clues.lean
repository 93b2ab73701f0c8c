import GridPuzzle.Proofs.Double.Value
import GridPuzzle.Proofs.Sheet.Block
import GridPuzzle.Proofs.Text.IntegerText
import GridPuzzle.Proofs.Value

/-!
# Clues from a block

Every cell of a block with content gives one clue, in reading order. The value of a clue is the
integer that the cell is equal to, but a number with a fraction is cut at the point. The first cell
that gives no integer is a fault, of the configuration if the cell holds a text, a date or a moment,
but an overflow if it holds an infinity.
-/

namespace GridPuzzle

open Fallible

namespace Value

/-! ## The integers of contents -/

/-- The integer that a content is equal to; a text is equal to the integer that it stands for. -/
def EqualsInt (content : Value) (n : Int) : Prop :=
  match content with
  | int m => m = n
  | bool b => (b.toNat : Int) = n
  | float x => x.Equals n
  | text s => Text.StandsFor s.toList n
  | _ => False

/-- A number that is no integer, and what is in front of its point. -/
def IsCutTo (content : Value) (n : Int) : Prop :=
  ∃ x, content = float x ∧ x.exponentField ≠ Double.topExponent ∧ (∀ m, ¬x.Equals m) ∧
    n = Double.towardsZero x.value

def IsUnbounded (content : Value) : Prop := ∃ x, content = float x ∧ x.isInfinite = true

theorem IsCutTo.not_equalsInt {content : Value} {n : Int} (h : content.IsCutTo n) (m : Int) :
    ¬content.EqualsInt m := by
  obtain ⟨x, rfl, -, hnone, -⟩ := h
  exact hnone m

end Value

namespace Block

/-- The integer that a cell gives is the one that it is equal to, or its part in front of the point.
-/
theorem readDigit_eq_ok_iff {sheet : String} {place content : Value} {n : Int} :
    readDigit sheet place content = .ok n ↔ content.EqualsInt n ∨ content.IsCutTo n := by
  have hcut (h : ∀ x, content ≠ .float x) : ¬content.IsCutTo n := fun ⟨x, hx, _⟩ ↦ h x hx
  cases content with
  | int m => simp [readDigit, Value.EqualsInt, hcut]
  | bool b => simp [readDigit, Value.EqualsInt, hcut]
  | float x =>
    have hread : readDigit sheet place (.float x) = .ok n ↔ x.truncate? = some n := by
      rw [readDigit]
      cases x.truncate? <;> simp
    rw [hread]
    constructor
    · intro h
      obtain ⟨hfinite, hn⟩ := Double.truncate?_eq_some.1 h
      by_cases hequal : ∃ m, x.Equals m
      · obtain ⟨m, hm⟩ := hequal
        obtain rfl := Option.some.inj ((Double.truncate?_of_equals hm).symm.trans h)
        exact .inl hm
      · exact .inr ⟨x, rfl, hfinite, not_exists.1 hequal, hn⟩
    · rintro (hequal | ⟨y, heq, hfinite, -, hn⟩)
      · exact Double.truncate?_of_equals hequal
      · obtain rfl := Value.float.inj heq
        exact Double.truncate?_eq_some.2 ⟨hfinite, hn⟩
  | text s =>
    have hread : readDigit sheet place (.text s) = .ok n ↔ Text.readInt s = .ok n := by
      rw [readDigit]
      cases Text.readInt s <;> simp
    rw [hread, Text.readInt_eq_ok_iff, or_iff_left (hcut (by simp))]
    rfl
  | _ =>
    refine iff_of_false (fun h ↦ ?_) (by simp [Value.EqualsInt, hcut])
    obtain ⟨_, -, h⟩ := bind_eq_ok.1 h
    cases h

/-- A cell with content that gives no integer is a fault of the configuration, unless it holds an
infinity. -/
theorem readDigit_eq_error_iff {sheet : String} {place content : Value} {e : Error}
    (hcontent : content.IsSheetContent) (hblank : isBlankCell content = false) :
    readDigit sheet place content = .error e ↔ content.IsUnbounded ∧ e = .misuse .overflow ∨
      (¬content.IsUnbounded ∧ ∀ n, ¬(content.EqualsInt n ∨ content.IsCutTo n)) ∧
        e = .sheetDigit place sheet content := by
  simp only [← @readDigit_eq_ok_iff sheet place]
  have hunbounded (h : ∀ x, content ≠ .float x) : ¬content.IsUnbounded := fun ⟨x, hx, _⟩ ↦ h x hx
  cases content with
  | float x =>
    have hnan : x.isNaN = false := hblank
    by_cases hfield : x.exponentField = Double.topExponent
    · have hinfinite : (Value.float x).IsUnbounded :=
        ⟨x, rfl, by simp [Double.isInfinite, hfield, Double.fraction_of_not_isNaN hnan hfield]⟩
      simp [readDigit, Double.truncate?, hfield, hinfinite, eq_comm]
    · have hfinite : ¬(Value.float x).IsUnbounded := by
        rintro ⟨y, heq, hinfinite⟩
        obtain rfl := Value.float.inj heq
        simp [Double.isInfinite, hfield] at hinfinite
      simp [readDigit, Double.truncate?, hfield, hfinite]
  | text s =>
    cases hread : Text.readInt s <;> simp [readDigit, hread, hunbounded, eq_comm]
  | int n => simp [readDigit, hunbounded]
  | bool b => simp [readDigit, hunbounded]
  | date day => simp [readDigit, checkSingle, hunbounded, eq_comm]
  | moment time => simp [readDigit, checkSingle, hunbounded, eq_comm]
  | null => cases hblank
  | _ => exact hcontent.elim

/-- A clue at a cell with content, whose value the content gives. -/
def IsClueOf (kind : Value) (entry : Cell × Value) (clue : Clue) : Prop :=
  clue.cell = entry.1 ∧ clue.kind = kind ∧
    ∃ n, clue.value = .int n ∧ (entry.2.EqualsInt n ∨ entry.2.IsCutTo n)

def IsFaultOf (sheet : String) (entry : Cell × Value) (e : Error) : Prop :=
  entry.2.IsUnbounded ∧ e = .misuse .overflow ∨
    (¬entry.2.IsUnbounded ∧ ∀ n, ¬(entry.2.EqualsInt n ∨ entry.2.IsCutTo n)) ∧
      e = .sheetDigit (placeOf entry.1) sheet entry.2

theorem isClueOf_iff {sheet : String} {kind : Value} {entry : Cell × Value} {clue : Clue} :
    (readDigit sheet (placeOf entry.1) entry.2).map (fun n ↦ (⟨entry.1, kind, .int n⟩ : Clue)) =
      .ok clue ↔ IsClueOf kind entry clue := by
  obtain ⟨cell, own, value⟩ := clue
  rw [map_eq_ok]
  simp only [readDigit_eq_ok_iff]
  constructor
  · rintro ⟨n, hn, heq⟩
    obtain ⟨rfl, rfl, rfl⟩ := Clue.mk.inj heq
    exact ⟨rfl, rfl, n, rfl, hn⟩
  · rintro ⟨rfl, rfl, n, rfl, hn⟩
    exact ⟨n, hn, rfl⟩

theorem exists_isClueOf {kind : Value} {entry : Cell × Value} :
    (∃ clue, IsClueOf kind entry clue) ↔
      ∃ n, entry.2.EqualsInt n ∨ entry.2.IsCutTo n := by
  constructor
  · rintro ⟨_, -, -, n, -, hn⟩
    exact ⟨n, hn⟩
  · rintro ⟨n, hn⟩
    exact ⟨⟨entry.1, kind, .int n⟩, rfl, rfl, n, rfl, hn⟩

/-- A fault that names a cell is one of the configuration, unless the cell cannot be written. -/
theorem IsFaultOf.settled {sheet : String} {entry : Cell × Value} {e : Error}
    (hcontent : entry.2.IsSheetContent) (h : IsFaultOf sheet entry e) :
    e.settled.category = .configuration ∨ (e = .misuse .overflow ∧ entry.2.IsUnbounded) ∨
      e.settled = .wrongValue ∧ Error.isWritableCell entry.1 = false := by
  obtain ⟨hunbounded, rfl⟩ | ⟨⟨-, hnone⟩, rfl⟩ := h
  · exact .inr (.inl ⟨rfl, hunbounded⟩)
  · obtain hcategory | ⟨hsettled, hwordable⟩ := Error.settled_of_category
      (e := .sheetDigit (placeOf entry.1) sheet entry.2) rfl
    · exact .inl hcategory
    · refine .inr (.inr ⟨hsettled, ?_⟩)
      obtain ⟨cell, content⟩ := entry
      have hwritable : content.isWritable = true := by
        cases content with
        | int n => exact absurd (.inl rfl) (hnone n)
        | list | tuple | set | mapping | linked => exact hcontent.elim
        | _ => rfl
      simpa [Error.isWordable, placeOf, Value.isWritable, Value.areWritable, hwritable,
        Error.isWritableCell, Error.isWritableSize] using hwordable

/-- A block of a sheet is read as clues just if each cell with content gives an integer, and then
there is one clue for each of them, in reading order, with the integer that the cell is equal to or,
for a number with a fraction, its part in front of the point. Otherwise the first cell that gives
none is a fault: an infinity overflows, and any other cell is a fault of the configuration, if its
place can be written. So no clue differs from its cell just if no number has a fraction. -/
theorem readClues_of_sheet {table : Table} (htable : IsSheetTable table) (sheet : String)
    (kind : Value) (block : Block) :
    (∀ clues, readClues sheet kind (.int block.firstRow) (.int block.firstCol) (.int block.rows)
      (.int block.cols) table = .ok clues ↔
        List.Forall₂ (IsClueOf kind) (block.given table) clues) ∧
    (∀ e, readClues sheet kind (.int block.firstRow) (.int block.firstCol) (.int block.rows)
      (.int block.cols) table = .error e ↔
        ∃ before entry after, block.given table = before ++ entry :: after ∧
          (∀ other ∈ before, ∃ n, other.2.EqualsInt n ∨ other.2.IsCutTo n) ∧
          IsFaultOf sheet entry e) ∧
    (∀ e, readClues sheet kind (.int block.firstRow) (.int block.firstCol) (.int block.rows)
      (.int block.cols) table = .error e →
        e.settled.category = .configuration ∨
          (e = .misuse .overflow ∧ ∃ entry ∈ block.given table, entry.2.IsUnbounded) ∨
          e.settled = .wrongValue ∧
            ∃ entry ∈ block.given table, Error.isWritableCell entry.1 = false) ∧
    ∀ clues, readClues sheet kind (.int block.firstRow) (.int block.firstCol) (.int block.rows)
      (.int block.cols) table = .ok clues →
        (List.Forall₂ (fun entry clue ↦ ∃ n, clue.value = .int n ∧ entry.2.EqualsInt n)
          (block.given table) clues ↔ ∀ entry ∈ block.given table, ∀ n, ¬entry.2.IsCutTo n) := by
  have hsheet : ∀ entry ∈ block.given table, entry.2.IsSheetContent ∧
      isBlankCell entry.2 = false := fun entry hentry ↦
    ⟨isSheetContent_of_contentAt? htable (mem_given.1 hentry).1.2, (mem_given.1 hentry).2⟩
  have hok (clues : List Clue) : readClues sheet kind (.int block.firstRow) (.int block.firstCol)
      (.int block.rows) (.int block.cols) table = .ok clues ↔
        List.Forall₂ (IsClueOf kind) (block.given table) clues := by
    rw [readClues_int, Block.clues, filledCells_eq, mapM_eq_ok]
    simp only [isClueOf_iff]
  have herror (e : Error) : readClues sheet kind (.int block.firstRow) (.int block.firstCol)
      (.int block.rows) (.int block.cols) table = .error e ↔
        ∃ before entry after, block.given table = before ++ entry :: after ∧
          (∀ other ∈ before, ∃ n, other.2.EqualsInt n ∨ other.2.IsCutTo n) ∧
          IsFaultOf sheet entry e := by
    rw [readClues_int, Block.clues, filledCells_eq, mapM_eq_error_iff]
    refine exists_congr fun before ↦ exists_congr fun entry ↦ exists_congr fun after ↦
      and_congr_right fun hsplit ↦ ?_
    obtain ⟨hcontent, hblank⟩ := hsheet entry (by simp [hsplit])
    simp only [isClueOf_iff, exists_isClueOf]
    rw [map_eq_error, readDigit_eq_error_iff hcontent hblank]
    rfl
  refine ⟨hok, herror, fun e he ↦ ?_, fun clues hclues ↦ ?_⟩
  · obtain ⟨before, entry, after, hsplit, -, hfault⟩ := (herror e).1 he
    have hentry : entry ∈ block.given table := by simp [hsplit]
    obtain h | ⟨h, hunbounded⟩ | ⟨h, hcell⟩ := hfault.settled (hsheet entry hentry).1
    · exact .inl h
    · exact .inr (.inl ⟨h, entry, hentry, hunbounded⟩)
    · exact .inr (.inr ⟨h, entry, hentry, hcell⟩)
  · constructor
    · intro hequal
      have hnone := hequal.imp fun entry clue ⟨m, _, hm⟩ ↦
        (⟨fun n hcut ↦ hcut.not_equalsInt m hm, trivial⟩ : (∀ n, ¬entry.2.IsCutTo n) ∧ True)
      exact ((List.forall₂_and_left _ _).1 hnone).1
    · intro hnone
      refine ((List.forall₂_and_left _ _).2 ⟨hnone, (hok clues).1 hclues⟩).imp ?_
      rintro entry clue ⟨huncut, -, -, n, hvalue, hn⟩
      exact ⟨n, hvalue, hn.resolve_right (huncut n)⟩

def oneAndHalf : Double := ⟨0x3ff8000000000000⟩

/-- A cell that holds one and a half is read as a clue of one, and an infinity overflows. -/
theorem readClues_oneAndHalf :
    (∃ clues, readClues "s" (.text "numbers") (.int 1) (.int 1) (.int 1) (.int 1)
        [[.float oneAndHalf]] = .ok clues ∧
      clues.map (fun clue ↦ (clue.cell, clue.value)) = [(⟨0, 0⟩, .int 1)] ∧
      ¬List.Forall₂ (fun entry clue ↦ ∃ n, clue.value = .int n ∧ entry.2.EqualsInt n)
        (given ⟨1, 1, 1, 1⟩ [[.float oneAndHalf]]) clues) ∧
    readClues "s" (.text "numbers") (.int 1) (.int 1) (.int 1) (.int 1)
      [[.float (Double.infinity false)]] = .error (.misuse .overflow) := by
  have hsheet (x : Double) : IsSheetTable [[.float x]] := by
    simp [IsSheetTable, Value.IsSheetContent]
  obtain ⟨hfinite, hvalue⟩ := Double.truncate?_eq_some.1 (rfl : oneAndHalf.truncate? = some 1)
  have hnone : oneAndHalf.toInt? = none := rfl
  have hcut : (Value.float oneAndHalf).IsCutTo 1 := by
    refine ⟨oneAndHalf, rfl, hfinite, fun m hm ↦ ?_, hvalue⟩
    rw [← Double.toInt?_eq_some, hnone] at hm
    cases hm
  obtain ⟨hok, -, -, hequal⟩ :=
    readClues_of_sheet (hsheet oneAndHalf) "s" (.text "numbers") ⟨1, 1, 1, 1⟩
  obtain ⟨-, herror, -, -⟩ :=
    readClues_of_sheet (hsheet (Double.infinity false)) "s" (.text "numbers") ⟨1, 1, 1, 1⟩
  have hclues := (hok [⟨⟨0, 0⟩, .text "numbers", .int 1⟩]).2
    (.cons ⟨rfl, rfl, 1, rfl, .inr hcut⟩ .nil)
  refine ⟨⟨_, hclues, rfl, fun h ↦ ?_⟩, (herror _).2 ⟨[], _, [], rfl, by simp, ?_⟩⟩
  · exact (hequal _ hclues).1 h _ List.mem_cons_self 1 hcut
  · exact .inl ⟨⟨_, rfl, rfl⟩, rfl⟩

end Block

end GridPuzzle
