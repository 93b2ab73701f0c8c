import GridPuzzle.Constraint.Item
import GridPuzzle.Proofs.Address
import GridPuzzle.Proofs.Constraint.Body

/-!
# The text of generated items

An item of a generator refers to the digits of its cells and to nothing else. The one item that
declares a name is the definition of the shared total.
-/

namespace GridPuzzle

open Document
open CellReference (ofElement)

/-! ## Cells -/

def Cell.digitReference (cell : Cell) : CellReference :=
  ofElement digitKind.toList (cell.row + 1) (cell.col + 1)

def Term.cells : Term → List Cell
  | sum cells | segmentSum cells | numeral cells => cells
  | constant _ | .sharedTotal => []

def Item.cells : Item → List Cell
  | note _ | always => []
  | allDifferent cells => cells
  | equal left right => left.cells ++ right.cells
  | less a b | farApart a b | dotted _ a b => [a, b]
  | defineTotal term => term.cells

def Item.declared : Item → List (List Char)
  | defineTotal _ => [sharedTotal.toList]
  | _ => []

variable {good : CellReference → Prop}

/-! ## Terms -/

theorem isBody_digitText {cell : Cell} (h : good cell.digitReference) :
    IsBody good cell.digitText.toList := by
  rw [Cell.digitText, toList_elementText]
  exact .element (by decide) h

/-- The two cells of an item on a pair. -/
theorem isBody_pair {a b : Cell} (h : ∀ cell ∈ [a, b], good cell.digitReference) :
    IsBody good a.digitText.toList ∧ IsBody good b.digitText.toList :=
  ⟨isBody_digitText (h a (by simp)), isBody_digitText (h b (by simp))⟩

theorem isBody_digits {cells : List Cell} (h : ∀ cell ∈ cells, good cell.digitReference) :
    ∀ p ∈ cells.map Cell.digitText, IsBody good p.toList := by
  intro p hp
  obtain ⟨cell, hcell, rfl⟩ := List.mem_map.1 hp
  exact isBody_digitText (h cell hcell)

/-- A body in round brackets. -/
theorem isBody_parenthesized {s : String} (h : IsBody good s.toList) :
    IsBody good ("(" ++ s ++ ")").toList := by
  have hbody : IsBody good ('(' :: (s.toList ++ ')' :: [])) :=
    .cons (by decide) (by decide) (h.append_cons (by decide) (by decide) (by decide) .nil)
  simpa using hbody

theorem isBody_powerText (exponent : Nat) : IsBody good (powerText exponent).toList := by
  have hdigits : ∀ c ∈ (powerText exponent).toList, c = '1' ∨ c = '0' := by
    intro c hc
    simp only [powerText, String.toList_ofList, List.mem_cons, List.mem_replicate] at hc
    exact hc.imp id And.right
  refine .of_no_bracket (fun c hc ↦ ?_) fun hmem ↦ ?_
  · obtain rfl | rfl := hdigits c hc <;> decide
  · obtain h | h := hdigits '[' hmem <;> simp at h

theorem isBody_numeralTerms {refs : List String} (h : ∀ p ∈ refs, IsBody good p.toList) :
    ∀ p ∈ numeralTerms refs, IsBody good p.toList := by
  fun_induction numeralTerms refs with
  | case1 => simp
  | case2 ref => exact h
  | case3 ref next rest ih =>
    have href := h ref List.mem_cons_self
    have hrest := ih fun p hp ↦ h p (List.mem_cons_of_mem ref hp)
    intro p hp
    obtain rfl | hp := List.mem_cons.1 hp
    · have hterm : IsBody good ((powerText (rest.length + 1)).toList ++ ' ' :: ([] ++ '*' ::
          ([] ++ ' ' :: ref.toList))) :=
        (isBody_powerText _).append_cons (by decide) (by decide) (by decide)
          (IsBody.nil.append_cons (by decide) (by decide) (by decide)
            (IsBody.nil.append_cons (by decide) (by decide) (by decide) href))
      simpa using hterm
    · exact hrest p hp

theorem isBody_numeralText {refs : List String} (h : ∀ p ∈ refs, IsBody good p.toList) :
    IsBody good (numeralText refs).toList := by
  unfold numeralText
  split
  next ref => exact h ref List.mem_cons_self
  next => exact isBody_parenthesized (IsBody.join (by decide) (isBody_numeralTerms h))

/-- A term refers to the digits of its cells. -/
theorem Term.isBody_text {term : Term} (h : ∀ cell ∈ term.cells, good cell.digitReference) :
    IsBody good term.text.toList := by
  cases term with
  | sum cells => exact IsBody.join (by decide) (isBody_digits h)
  | segmentSum cells => exact isBody_parenthesized (IsBody.join (by decide) (isBody_digits h))
  | numeral cells => exact isBody_numeralText (isBody_digits h)
  | constant n => exact .intText n
  | sharedTotal => exact .fixed (by decide)

/-! ## Items -/

theorem toList_constraintText (body : String) : (constraintText body).toList =
    constraintStart ++ (body.toList ++ [';']) := by
  rw [constraintText, String.toList_append, String.toList_append, toList_constraintStart,
    List.append_assoc]
  rfl

theorem emits_constraintText {body : String} (h : IsBody good body.toList) :
    Emits good (constraintText body).toList [] [] := by
  rw [toList_constraintText]
  exact .constraint h

theorem emits_neutralConstraint : Emits good neutralConstraint.toList [] [] :=
  @emits_constraintText good "true" (.fixed (by decide))

/-- The definition of the shared total declares its name, and the check finds it. -/
theorem emits_defineTotal {term : Term} (h : IsBody good term.text.toList) :
    Emits good (Item.defineTotal term).text.toList [sharedTotal.toList] [sharedTotal.toList] := by
  have htext : (Item.defineTotal term).text =
      "var int: region_sum_line_total = " ++ (term.text ++ ";") := by
    simp [Item.text, sharedTotal, String.append_assoc]
  rw [htext, String.toList_append, String.toList_append, String.toList_ofList, sharedTotal,
    String.toList_ofList]
  exact .declaration (by decide) (by decide) (.of_isInert (by decide)) (fun _ ↦ rfl)
    (fun _ ↦ rfl) h

/-- An item refers to the digits of its cells, and the check finds the names that it declares. -/
theorem Item.emits {item : Item} (h : ∀ cell ∈ item.cells, good cell.digitReference) :
    Emits good item.text.toList item.declared item.declared := by
  cases item with
  | note text => exact .comment text
  | always => exact emits_neutralConstraint
  | allDifferent cells =>
    have hlist : IsBody good (Text.join ", " (cells.map Cell.digitText)).toList :=
      IsBody.join (by decide) (isBody_digits h)
    have hname : IsBody good "all_different".toList :=
      .fixed (by decide)
    have hbrackets := IsBody.cons (c := '[') (by decide) (by decide)
      (hlist.append_cons (c := ']') (by decide) (by decide) (by decide) .nil)
    have hbody := hname.call hbrackets .nil
    exact emits_constraintText (by simpa using hbody)
  | equal left right =>
    have hleft := Term.isBody_text fun cell hcell ↦ h cell (List.mem_append_left _ hcell)
    have hright := Term.isBody_text fun cell hcell ↦ h cell (List.mem_append_right _ hcell)
    have hbody := hleft.operator (m := ['=']) (by decide) (by decide) hright
    exact emits_constraintText (by simpa using hbody)
  | less a b =>
    obtain ⟨ha, hb⟩ := isBody_pair h
    have hbody := ha.operator (m := ['<']) (by decide) (by decide) hb
    exact emits_constraintText (by simpa using hbody)
  | farApart a b =>
    obtain ⟨ha, hb⟩ := isBody_pair h
    have hname : IsBody good "abs".toList :=
      .fixed (by decide)
    have hbound : IsBody good " >= 5".toList :=
      .fixed (by decide)
    have hbody := hname.call (ha.operator (m := ['-']) (by decide) (by decide) hb) hbound
    exact emits_constraintText (by simpa using hbody)
  | dotted relation a b =>
    obtain ⟨ha, hb⟩ := isBody_pair h
    have hname : IsBody good relation.predicate.toList := by
      cases relation <;> exact .fixed (by decide)
    have hpair := ha.append_cons (c := ',') (by decide) (by decide) (by decide)
      (IsBody.cons (c := ' ') (by decide) (by decide) hb)
    have hbody := hname.call hpair .nil
    exact emits_constraintText (by simpa using hbody)
  | defineTotal term => exact emits_defineTotal (Term.isBody_text h)

/-! ## White space around items -/

theorem isFramed_commentLine (line : String) : Text.IsFramed (commentLine line).toList := by
  obtain ⟨rest, heq, _⟩ := Text.exists_trimEnd_cons (by decide : Text.isBlank '%' = false)
    (' ' :: line.toList)
  have htext : (commentLine line).toList = Text.trimEnd ('%' :: ' ' :: line.toList) := by
    simp [commentLine, Text.stripEnd]
  rw [htext]
  refine ⟨?_, Text.endsText_trimEnd (by simp [heq])⟩
  rw [heq]
  rfl

theorem isFramed_comment {text : String} (h : text ≠ "") : Text.IsFramed (comment text).toList := by
  have hne : (Text.lines text).map commentLine ≠ [] := by
    obtain ⟨c, rest, hcons⟩ := List.exists_cons_of_ne_nil
      (show text.toList ≠ [] by simpa using h)
    simp [Text.lines, hcons, Text.splitLines]
  refine Text.isFramed_unlines hne fun l hl ↦ ?_
  obtain ⟨line, _, rfl⟩ := List.mem_map.1 hl
  exact isFramed_commentLine line

theorem isFramed_constraintText (body : String) :
    Text.IsFramed (constraintText body).toList := by
  rw [toList_constraintText]
  refine ⟨Text.startsText_append (by decide) _, Text.endsText_append _ (Text.endsText_append _ ?_)⟩
  decide

/-- The text of an item that is not an empty note has no white space around it. -/
theorem Item.isFramed_text {item : Item} (h : item ≠ .note "") :
    Text.IsFramed item.text.toList := by
  cases item with
  | note text => exact isFramed_comment fun hempty ↦ h (by rw [hempty])
  | always => exact isFramed_constraintText "true"
  | allDifferent cells => exact isFramed_constraintText _
  | equal left right => exact isFramed_constraintText _
  | less a b => exact isFramed_constraintText _
  | farApart a b => exact isFramed_constraintText _
  | dotted relation a b => exact isFramed_constraintText _
  | defineTotal term =>
    refine ⟨?_, Text.endsText_ofList_append (by decide)⟩
    simp only [Item.text, String.toList_append, List.append_assoc]
    exact Text.startsText_append (Text.startsText_ofList (by decide)) _

end GridPuzzle
