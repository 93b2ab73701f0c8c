import GridPuzzle.Proofs.Double.Value
import GridPuzzle.Proofs.Sheet.Block

/-!
# The labels of cells

A label is what the content of a cell is compared by. A number is known by the quantity that it
stands for, whatever its kind; a text by its characters without the white space around it; a day by
its date; and a moment by the instant, apart from whether it has an offset. Cells without content
have no label, and the equality of contents is the equality of their labels.
-/

namespace GridPuzzle

/-- What the content of a cell is compared by. -/
inductive Label where
  | number (quantity : Double.Quantity)
  | text (s : String)
  | day (date : Date)
  | moment (isAware : Bool) (instant : Int)

namespace Value

/-- The quantity that a number or a truth value stands for. -/
def quantity? : Value → Option Double.Quantity
  | bool b => some (.finite b.toNat)
  | int n => some (.finite n)
  | float x => if x.isNaN then none else some x.quantity
  | _ => none

/-- The integer that a number is equal to is the quantity that it stands for. -/
theorem toInt?_eq_some_iff {content : Value} {quantity : Double.Quantity}
    (h : content.quantity? = some quantity) (n : Int) :
    content.toInt? = some n ↔ quantity = .finite n := by
  cases content with
  | bool b =>
    obtain rfl := Option.some.inj h
    simp only [toInt?, Option.some.injEq, Double.Quantity.finite.injEq]
    norm_cast
  | int m =>
    obtain rfl := Option.some.inj h
    simp [toInt?]
  | float x =>
    obtain ⟨-, hx⟩ := Option.ite_none_left_eq_some.1 h
    obtain rfl := Option.some.inj hx
    rw [toInt?, Double.toInt?_eq_some, Double.quantity_eq_intCast]
  | _ => cases h

/-- What stands for a quantity that is no integer is a floating-point number. -/
theorem exists_of_quantity? {content : Value} {quantity : Double.Quantity}
    (h : content.quantity? = some quantity) :
    (∃ n : Int, quantity = .finite n) ∨ ∃ x, content = float x := by
  cases content with
  | bool b => exact .inl ⟨b.toNat, by simpa [quantity?] using h.symm⟩
  | int n => exact .inl ⟨n, (Option.some.inj h).symm⟩
  | float x => exact .inr ⟨x, rfl⟩
  | _ => cases h

/-- Numbers that are not both floating-point are the same if they are equal to one integer. -/
theorem same_iff_toInt? {a b : Value} {p q : Double.Quantity} (ha : a.quantity? = some p)
    (hb : b.quantity? = some q) (hfloat : ∀ x y, a = float x → b ≠ float y) :
    a.same b = true ↔ ∃ n, a.toInt? = some n ∧ b.toInt? = some n := by
  cases a with
  | bool | int =>
    cases b with
    | bool | int => simp [same, sameScalar, toInt?, @eq_comm Int]
    | float y => cases hy : y.toInt? <;> simp [same, sameScalar, toInt?, hy, @eq_comm Int]
    | _ => cases hb
  | float x =>
    cases b with
    | bool | int => cases hx : x.toInt? <;> simp [same, sameScalar, toInt?, hx, @eq_comm Int]
    | float y => exact absurd rfl (hfloat x y rfl)
    | _ => cases hb
  | _ => cases ha

/-- Numbers are the same if they stand for the same quantity. -/
theorem same_iff_of_quantity? {a b : Value} {p q : Double.Quantity} (ha : a.quantity? = some p)
    (hb : b.quantity? = some q) : a.same b = true ↔ p = q := by
  by_cases hfloat : ∀ x y, a = float x → b ≠ float y
  · rw [same_iff_toInt? ha hb hfloat]
    simp only [toInt?_eq_some_iff ha, toInt?_eq_some_iff hb]
    constructor
    · rintro ⟨n, rfl, rfl⟩
      rfl
    · rintro rfl
      obtain ⟨n, hn⟩ | ⟨x, rfl⟩ := exists_of_quantity? ha
      · exact ⟨n, hn, hn⟩
      · obtain ⟨n, hn⟩ | ⟨y, rfl⟩ := exists_of_quantity? hb
        · exact ⟨n, hn, hn⟩
        · exact absurd rfl (hfloat x y rfl)
  · push Not at hfloat
    obtain ⟨x, y, rfl, rfl⟩ := hfloat
    obtain ⟨hx, hp⟩ := Option.ite_none_left_eq_some.1 ha
    obtain ⟨hy, hq⟩ := Option.ite_none_left_eq_some.1 hb
    obtain rfl := Option.some.inj hp
    obtain rfl := Option.some.inj hq
    rw [← Double.same_iff (by simpa using hx) (by simpa using hy)]
    simp only [same, sameScalar]

end Value

namespace Block

/-- The label of a cell with the given content, if it has one. -/
def label? : Value → Option Label
  | .text s => if Text.isBlankText s then none else some (.text (Text.strip s))
  | .date day => some (.day day)
  | .moment time => some (.moment time.offset.isSome time.instant)
  | content => content.quantity?.map .number

theorem label?_eq_none_iff {content : Value} (h : content.IsSheetContent) :
    label? content = none ↔ isBlankCell content = true := by
  cases content with
  | text s => simp [label?, isBlankCell]
  | null | bool | int | float | date | moment =>
    simp [label?, Value.quantity?, isBlankCell, isMissing, Value.isNonNumber]
  | _ => exact h.elim

theorem label?_of_quantity? {content : Value} {quantity : Double.Quantity}
    (h : content.quantity? = some quantity) :
    label? content = some (.number quantity) ∧ labelOf content = content := by
  cases content with
  | bool | int | float => exact ⟨by rw [label?, h, Option.map_some] <;> nofun, rfl⟩
  | _ => cases h

/-- Contents without the white space around them are the same if they have the same label. -/
theorem labelOf_same_iff {a b : Value} (ha : (label? a).isSome = true)
    (hb : (label? b).isSome = true) :
    (labelOf a).same (labelOf b) = true ↔ label? a = label? b := by
  cases hp : a.quantity? with
  | none =>
    cases a with
    | text | date | moment =>
      cases b <;> simp_all [label?, labelOf, Value.same, Value.sameScalar, Value.toInt?,
        Value.quantity?, Moment.same, Moment.isComparable]
    | _ => simp [label?, hp] at ha
  | some p =>
    cases hq : b.quantity? with
    | none =>
      cases b with
      | text | date | moment =>
        cases a <;> simp_all [label?, labelOf, Value.same, Value.sameScalar, Value.toInt?,
          Value.quantity?]
      | _ => simp [label?, hq] at hb
    | some q =>
      obtain ⟨halabel, hacontent⟩ := label?_of_quantity? hp
      obtain ⟨hblabel, hbcontent⟩ := label?_of_quantity? hq
      rw [halabel, hacontent, hblabel, hbcontent, Value.same_iff_of_quantity? hp hq]
      simp only [Option.some.injEq, Label.number.injEq]

end Block

end GridPuzzle
