import GridPuzzle.Catalog.Standard
import GridPuzzle.Proofs.Constraint.Item

/-!
# Fragments of the standard catalog

The fragments of the standard catalog hold no references with literal coordinates. The two dots
declare a predicate each, and the other fragments declare nothing.
-/

namespace GridPuzzle

open Document
open CellReference (isInert)

variable {good : CellReference → Prop}

def Rule.declared (rule : Rule) : List String :=
  (rule.fragment.map Document.declaredNames).getD []

namespace Standard

/-! ## Texts of lines -/

theorem toList_fragmentText {lines : List String} (hne : lines ≠ []) :
    (fragmentText lines).toList = (Text.unlines lines).toList ++ ['\n'] := by
  have hjoin : (fragmentText lines).toList = Text.joinLines (lines.map String.toList) := by
    simp [fragmentText, Text.joinLines, List.flatMap_map]
  rw [hjoin, ← joinLines_eq_intercalate (by simpa using hne), Text.unlines, Text.toList_join]
  rfl

/-- Lines of a fragment may be taken together. -/
theorem fragmentText_append (lines : List String) {more : List String} (hne : more ≠ []) :
    fragmentText (lines ++ more) = fragmentText (lines ++ [Text.unlines more]) := by
  have happend (first second : List String) : fragmentText (first ++ second) =
      fragmentText first ++ fragmentText second := by
    simp [fragmentText]
  have hmore : fragmentText more = fragmentText [Text.unlines more] := by
    rw [← String.toList_inj, toList_fragmentText hne, toList_fragmentText (List.cons_ne_nil _ _),
      Text.unlines_singleton]
  rw [happend, happend, hmore]

/-- A fragment that starts and ends with text emits what its lines emit, and these are the names
that it declares. -/
theorem emits_of_lines {rule : Rule} {fragment : String} (hfragment : rule.fragment = some fragment)
    {lines : List String} {names : List (List Char)} {declared : List String}
    (htext : fragment = fragmentText lines) (hne : lines ≠ [])
    (hstart : Text.StartsText (lines.head hne).toList)
    (hend : Text.EndsText (lines.getLast hne).toList) (h : EmitsAll good lines names names)
    (hnames : names.map String.ofList = declared) :
    Emits good (Text.strip fragment).toList (rule.declared.map String.toList)
      (rule.declared.map String.toList) ∧ rule.declared = declared := by
  have hchars := toList_fragmentText hne
  have hframed : Text.IsFramed (Text.unlines lines).toList := by
    refine ⟨?_, Text.endsText_unlines hne hend⟩
    rw [← List.cons_head_tail hne]
    exact Text.startsText_unlines hstart _
  have hdeclared : rule.declared = names.map String.ofList := by
    rw [Rule.declared, hfragment, htext]
    exact (h.unlines.read hchars).2.1
  have hlists : rule.declared.map String.toList = names := by
    simp [hdeclared, Function.comp_def]
  refine ⟨?_, hdeclared.trans hnames⟩
  rw [hlists, htext, Text.strip, hchars, Text.trim_concat_break hframed, String.toList_ofList]
  exact h.unlines

/-- What stands in a constraint between its keyword and its semicolon. -/
def constraintBody (text : List Char) : List Char :=
  (text.drop constraintStart.length).dropLast

/-- Whether a line is a comment, or a constraint that refers to no literal coordinates. -/
def isSilentLine (line : List Char) : Bool :=
  line.all (!Text.isLineBreak ·) && (line.head? == some '%' ||
    line == constraintStart ++ (constraintBody line ++ [';']) &&
      (constraintBody line).all isBodyChar && isInert (constraintBody line))

theorem emits_of_isSilentLine {text : String} {line : List Char} (htext : text.toList = line)
    (h : isSilentLine line = true) : Emits good text.toList [] [] := by
  rw [htext]
  simp only [isSilentLine, Bool.and_eq_true, Bool.or_eq_true, beq_iff_eq] at h
  obtain ⟨hchars, hhead | ⟨⟨hline, hbody⟩, hinert⟩⟩ := h
  · obtain ⟨rest, rfl⟩ := List.head?_eq_some_iff.1 hhead
    have hline : Text.IsLine ('%' :: rest) := fun c hc ↦ by
      simpa using List.all_eq_true.1 hchars c hc
    exact ⟨['%' :: rest], by simpa using hline, by simp, IsBlock.nil⟩
  · rw [hline]
    exact .constraint (.of_refers (List.all_eq_true.1 hbody) (.of_isInert hinert))

/-- The line of a predicate. -/
theorem emits_predicate {line name : List Char} (hchars : line.all (!Text.isLineBreak ·) = true)
    (hpercent : '%' ∉ line) (hinert : isInert line = true)
    (hitem : ∀ tail, item? (line ++ tail) = none)
    (hpredicate : ∀ tail, predicate? (line ++ tail) = some name)
    (hsemicolon : line = line.dropLast ++ [';'] ∧ ';' ∉ line.dropLast)
    (hname : itemName? line.dropLast = some name) :
    Emits good (String.ofList line).toList [name] [name] := by
  have hline : Text.IsLine line := fun c hc ↦ by simpa using List.all_eq_true.1 hchars c hc
  have hbreak : '\n' ∉ line := fun hmem ↦ Bool.noConfusion (hline '\n' hmem)
  rw [String.toList_ofList]
  refine .line hline hpercent ⟨.of_isInert hinert, ?_, ?_⟩
  · exact .of_predicate hbreak (fun tail _ ↦ hitem tail) fun tail _ ↦ hpredicate tail
  · have hintroduces := Introduces.item hsemicolon.2
    rwa [← hsemicolon.1, hname] at hintroduces

/-- A constraint on three lines, the second of which is indented. -/
theorem emits_indented {first second third : List Char}
    (hchars : [first, second, third].all (·.all fun c ↦
      !Text.isLineBreak c && c != '%' && c != ':') = true)
    (hinert : isInert (['\n'].intercalate [first, second, third]) = true)
    (hheads : [first, third].all (·.head?.all (!declarationStarts.contains ·)) = true)
    (harray : ∀ tail, behind? "array[".toList (skipBlanks (second ++ tail)) = none)
    (hpredicate : ∀ tail, predicate? (second ++ tail) = none)
    {text : List Char} (htext : text = ['\n'].intercalate [first, second, third])
    (hsemicolon : ';' ∉ constraintBody text)
    (hconstraint : text = constraintStart ++ (constraintBody text ++ [';'])) :
    Emits good (Text.unlines [.ofList first, .ofList second, .ofList third]).toList [] [] := by
  have hlines : ∀ l ∈ [first, second, third],
      Text.IsLine l ∧ '%' ∉ l ∧ ':' ∉ l ∧ '\n' ∉ l := by
    intro l hl
    have hall : ∀ c ∈ l, Text.isLineBreak c = false ∧ c ≠ '%' ∧ c ≠ ':' := fun c hc ↦ by
      simpa [and_assoc] using List.all_eq_true.1 (List.all_eq_true.1 hchars l hl) c hc
    exact ⟨fun c hc ↦ (hall c hc).1, fun hmem ↦ (hall _ hmem).2.1 rfl,
      fun hmem ↦ (hall _ hmem).2.2 rfl, fun hmem ↦ Bool.noConfusion (hall _ hmem).1⟩
  have hhead (l : List Char) (hl : l ∈ [first, third]) (hmem : l ∈ [first, second, third]) :
      Declares l [] :=
    .of_head (hlines l hmem).2.2.2 (hlines l hmem).2.2.1 (List.all_eq_true.1 hheads l hl)
  have hsecond : Declares second [] := by
    obtain ⟨_, _, hcolon, hbreak⟩ := hlines second (by simp)
    exact .of_none hbreak (fun tail htail ↦ item?_eq_none hcolon htail (harray tail))
      fun tail _ ↦ hpredicate tail
  have hfinds : Declares (['\n'].intercalate [first, second, third]) [] := by
    have happend := (hhead first (by simp) (by simp)).append
      (hsecond.append (hhead third (by simp) (by simp)))
    simpa [List.intercalate] using happend
  have hblock : IsBlock good (['\n'].intercalate [first, second, third]) [] [] := by
    refine ⟨.of_isInert hinert, hfinds, ?_⟩
    rw [← htext, hconstraint]
    exact .constraint hsemicolon
  rw [Text.unlines, Text.toList_join]
  simpa using Emits.lines (List.cons_ne_nil _ _)
    (fun l hl ↦ ⟨(hlines l hl).1, (hlines l hl).2.1⟩) hblock

/-! ## Fragments -/

theorem emits_rowsDiffer : Emits good rowsDiffer.toList [] [] := by
  unfold rowsDiffer
  exact emits_of_isSilentLine String.toList_ofList (by decide)

theorem emits_colsDiffer : Emits good colsDiffer.toList [] [] := by
  unfold colsDiffer
  exact emits_of_isSilentLine String.toList_ofList (by decide)

/-- The constraint on regions, which takes three lines. -/
def regionsDiffer : List String :=
  ["constraint forall(g in 1..n_regions)(",
    "  all_different([numbers[r, c] | r in 1..rows, c in 1..cols where regions[r, c] = g])",
    ");"]

theorem emits_regionsDiffer : Emits good (Text.unlines regionsDiffer).toList [] [] := by
  unfold regionsDiffer
  exact emits_indented (by decide) (by decide) (by decide) (fun _ ↦ rfl) (fun _ ↦ rfl) rfl
    (by decide) (by decide)

theorem toList_ofList_append (s t : List Char) :
    (String.ofList s ++ String.ofList t).toList = s ++ t := by
  rw [String.toList_append, String.toList_ofList, String.toList_ofList]

/-- The predicates that fragments of the standard catalog declare, under the ids of the rules. -/
def predicates : List (String × String) :=
  [(blackDot.id, "kropki_ratio"), (whiteDot.id, "kropki_consecutive")]

/-- A rule of the standard catalog with a fragment emits the names that the fragment declares, which
are the predicate of the rule, if it has one. -/
theorem emits_fragment {rule : Rule} (hrule : rule ∈ rules) {fragment : String}
    (hfragment : rule.fragment = some fragment) :
    Emits good (Text.strip fragment).toList (rule.declared.map String.toList)
      (rule.declared.map String.toList) ∧ rule.declared = (predicates.lookup rule.id).toList := by
  simp only [rules, List.mem_cons, List.not_mem_nil, or_false] at hrule
  obtain rfl | rfl | rfl | rfl | rfl | rfl | rfl | rfl | rfl | rfl | rfl | rfl := hrule
  all_goals first | exact absurd hfragment (Option.some_ne_none fragment).symm | skip
  all_goals have htext := (Option.some.inj hfragment).symm
  · refine emits_of_lines hfragment htext (List.cons_ne_nil _ _)
      (Text.startsText_ofList (by decide)) ?_ (.silent ?_) rfl
    · exact Text.endsText_ofList_append (by decide)
    · simp only [List.forall_mem_cons, List.not_mem_nil, false_implies, implies_true, and_true]
      exact ⟨emits_of_isSilentLine String.toList_ofList (by decide),
        emits_of_isSilentLine (toList_ofList_append _ _) (by decide)⟩
  · refine emits_of_lines hfragment htext (List.cons_ne_nil _ _)
      (Text.startsText_ofList (by decide)) ?_ (.silent ?_) rfl
    · exact Text.endsText_ofList (by decide)
    · simp only [List.forall_mem_cons, List.not_mem_nil, false_implies, implies_true, and_true]
      exact ⟨emits_of_isSilentLine String.toList_ofList (by decide), emits_rowsDiffer,
        emits_colsDiffer⟩
  · refine emits_of_lines hfragment htext (List.cons_ne_nil _ _)
      (Text.startsText_ofList (by decide)) ?_ (.silent ?_) rfl
    · exact Text.endsText_ofList_append (by decide)
    · simp only [List.forall_mem_cons, List.not_mem_nil, false_implies, implies_true, and_true]
      exact ⟨emits_of_isSilentLine String.toList_ofList (by decide),
        emits_of_isSilentLine (toList_ofList_append _ _) (by decide),
        emits_of_isSilentLine (toList_ofList_append _ _) (by decide)⟩
  -- the lines of the constraint on regions emit nothing only together
  · refine emits_of_lines hfragment
      (htext.trans (@fragmentText_append [_, _, _] regionsDiffer (List.cons_ne_nil _ _)))
      (List.cons_ne_nil _ _) (Text.startsText_ofList (by decide)) ?_ (.silent ?_) rfl
    · exact Text.endsText_unlines (List.cons_ne_nil _ _) (Text.endsText_ofList (by decide))
    · simp only [List.forall_mem_cons, List.cons_append, List.nil_append, List.not_mem_nil,
        false_implies, implies_true, and_true]
      exact ⟨emits_of_isSilentLine String.toList_ofList (by decide), emits_rowsDiffer,
        emits_colsDiffer, emits_regionsDiffer⟩
  · exact emits_of_lines hfragment htext (List.cons_ne_nil _ _)
      (Text.startsText_ofList (by decide)) (Text.endsText_ofList (by decide))
      (.singleton (emits_predicate (by decide) (by decide) (by decide) (fun _ ↦ rfl) (fun _ ↦ rfl)
        (by decide) rfl)) rfl
  · exact emits_of_lines hfragment htext (List.cons_ne_nil _ _)
      (Text.startsText_ofList (by decide)) (Text.endsText_ofList (by decide))
      (.singleton (emits_predicate (by decide) (by decide) (by decide) (fun _ ↦ rfl) (fun _ ↦ rfl)
        (by decide) rfl)) rfl

end Standard

end GridPuzzle
