import GridPuzzle.Proofs.Constraint.Sentence

/-!
# What generated items say

The text of generated items says of the digits and of the shared total what the items demand of
them. A numeral has the value that its digits denote in base ten, since the powers of ten written in
front of them are those of Horner's scheme.
-/

namespace GridPuzzle

/-! ## Numerals -/

theorem foldl_positional (digits : List Int) (acc : Int) :
    digits.foldl (fun acc digit ↦ acc * 10 + digit) acc =
      acc * 10 ^ digits.length + positional digits := by
  induction digits generalizing acc with
  | nil => simp [positional]
  | cons d ds ih =>
    rw [positional, List.foldl_cons, List.foldl_cons, ih, ih (0 * 10 + d), List.length_cons]
    ring

theorem positional_cons (d : Int) (ds : List Int) :
    positional (d :: ds) = 10 ^ ds.length * d + positional ds := by
  rw [positional, List.foldl_cons, foldl_positional]
  ring

/-! ## Terms -/

variable (value : Assignment) (total : Int)

theorem Cell.eval?_atom (cell : Cell) :
    cell.atom.eval? (.ofDigits value total) = some (value cell) := by
  simp [Cell.atom, Atom.eval?, Interpretation.ofDigits]

theorem sumOf?_cons {meaning : Interpretation} {summand : Summand} {summands : List Summand}
    {a b : Int} (ha : summand.eval? meaning = some a) (hb : sumOf? meaning summands = some b) :
    sumOf? meaning (summand :: summands) = some (a + b) := by
  obtain ⟨values, hvalues, rfl⟩ := Option.map_eq_some_iff.1 hb
  rw [sumOf?, List.mapM_cons, ha, hvalues]
  simp

theorem sumOf?_places (cells : List Cell) :
    sumOf? (.ofDigits value total) (Term.places cells) = some (positional (cells.map value)) := by
  induction cells with
  | nil => rfl
  | cons cell rest ih =>
    have hsummand : Summand.eval? (.ofDigits value total) ⟨10 ^ rest.length, cell.atom⟩ =
        some (10 ^ rest.length * value cell) := by
      rw [Summand.eval?, cell.eval?_atom]
      rfl
    rw [Term.places, sumOf?_cons hsummand ih, List.map_cons, positional_cons, List.length_map]

theorem sumOf?_digits (cells : List Cell) :
    sumOf? (.ofDigits value total) (cells.map fun cell ↦ ⟨1, cell.atom⟩) =
      some (cells.map value).sum := by
  induction cells with
  | nil => rfl
  | cons cell rest ih =>
    have hsummand : Summand.eval? (.ofDigits value total) ⟨1, cell.atom⟩ = some (value cell) := by
      simp [Summand.eval?, cell.eval?_atom]
    rw [List.map_cons, sumOf?_cons hsummand ih, List.map_cons, List.sum_cons]

/-- A term is read with its value. -/
theorem Term.sumOf?_summands (term : Term) :
    sumOf? (.ofDigits value total) term.summands = some (term.eval value total) := by
  cases term with
  | sum cells => exact sumOf?_digits value total cells
  | segmentSum cells => exact sumOf?_digits value total cells
  | numeral cells => exact sumOf?_places value total cells
  | constant n =>
    have hsign : (if n < 0 then -1 else 1) * (n.natAbs : Int) = n := by
      split <;> omega
    have hsummand : Summand.eval? (.ofDigits value total)
        ⟨if n < 0 then -1 else 1, .literal n.natAbs⟩ = some n := by
      rw [Summand.eval?, Atom.eval?, Option.map_some, hsign]
    rw [summands, sumOf?_cons hsummand (b := 0) rfl, Int.add_zero, eval]
  | sharedTotal =>
    have hsummand : Summand.eval? (.ofDigits value total)
        ⟨1, .name GridPuzzle.sharedTotal.toList⟩ = some total := by
      simp [Summand.eval?, Atom.eval?, Interpretation.ofDigits]
    rw [summands, sumOf?_cons hsummand (b := 0) rfl, Int.add_zero, eval]

/-! ## Items -/

variable {value total}

/-- An item is read as a sentence that holds just if the item does. -/
theorem Item.holds_sentence {item : Item} :
    (∀ sentence, item.sentence? = some sentence → sentence.Holds (.ofDigits value total)) ↔
      item.Holds value total := by
  cases item with
  | note text => simp [sentence?, Holds]
  | always => simp [sentence?, Holds, Sentence.Holds, Formula.Holds]
  | allDifferent cells =>
    have hvalues : (cells.map Cell.atom).mapM (Atom.eval? (.ofDigits value total)) =
        some (cells.map value) := by
      rw [Fallible.mapM_eq_some, List.forall₂_map_left_iff, List.forall₂_map_right_iff,
        List.forall₂_same]
      exact fun cell _ ↦ cell.eval?_atom value total
    simp [sentence?, Holds, Sentence.Holds, Formula.Holds, hvalues]
  | equal left right =>
    simp [sentence?, Holds, Sentence.Holds, Formula.Holds, Term.sumOf?_summands, eq_comm]
  | less a b =>
    have hdigit (cell : Cell) := sumOf?_digits value total [cell]
    simp only [List.map_cons, List.map_nil, List.sum_cons, List.sum_nil, Int.add_zero] at hdigit
    simp [sentence?, Holds, Sentence.Holds, Formula.Holds, hdigit]
  | farApart a b =>
    simp [sentence?, Holds, Sentence.Holds, Formula.Holds, Cell.eval?_atom, le_abs]
  | dotted relation a b =>
    have hname (other : DotRelation) :
        other.predicate.toList = relation.predicate.toList ↔ other = relation := by
      cases other <;> cases relation <;> decide
    have hrelated (m n : Int) : (Interpretation.ofDigits value total).related
        relation.predicate.toList m n ↔ relation.Holds m n := by
      simp [Interpretation.ofDigits, hname]
    simp [sentence?, Holds, Sentence.Holds, Formula.Holds, Cell.eval?_atom, hrelated]
  | defineTotal term =>
    have hname : (Interpretation.ofDigits value total).name sharedTotal.toList = some total := by
      simp [Interpretation.ofDigits]
    simp [sentence?, Holds, Sentence.Holds, Term.sumOf?_summands, hname, eq_comm]

theorem Items.hold_append {items more : List Item} :
    Items.Hold value total (items ++ more) ↔
      Items.Hold value total items ∧ Items.Hold value total more := List.forall_mem_append

theorem Items.hold_flatMap {α : Type} {l : List α} {f : α → List Item} :
    Items.Hold value total (l.flatMap f) ↔ ∀ a ∈ l, Items.Hold value total (f a) := by
  simp only [Items.Hold, List.mem_flatMap]
  exact ⟨fun h a ha item hitem ↦ h item ⟨a, ha, hitem⟩,
    fun h item ⟨a, ha, hitem⟩ ↦ h a ha item hitem⟩

/-- Items hold just if their sentences do. -/
theorem Items.hold_iff {items : List Item} : Items.Hold value total items ↔
    ∀ sentence ∈ items.filterMap Item.sentence?, sentence.Holds (.ofDigits value total) := by
  simp only [List.mem_filterMap]
  constructor
  · rintro hall sentence ⟨item, hitem, hsentence⟩
    exact Item.holds_sentence.2 (hall item hitem) sentence hsentence
  · intro hall item hitem
    exact Item.holds_sentence.1 fun sentence hsentence ↦ hall sentence ⟨item, hitem, hsentence⟩

theorem says_of_sentences? {meaning : Interpretation} {text : String} {sentences : List Sentence}
    (h : sentences? text = some sentences) :
    Says meaning text ↔ ∀ sentence ∈ sentences, sentence.Holds meaning := by
  simp [Says, h]

/-- The text of items says what the items demand. -/
theorem says_text {items : List Item} (h : ∀ item ∈ items, item.IsReadable) :
    Says (.ofDigits value total) (Items.text items) ↔ Items.Hold value total items := by
  rw [says_of_sentences? (sentences?_text h), Items.hold_iff]

end GridPuzzle
