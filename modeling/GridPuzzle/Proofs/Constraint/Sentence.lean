import GridPuzzle.Proofs.Constraint.Sum

/-!
# Reading generated items back

The text of generated items is read back sentence by sentence: a note is no sentence, and every
other item is one. An item in which a sum or a list is empty cannot be read.
-/

namespace GridPuzzle

open Token

/-! ## Formulas -/

theorem splitOn_of_notMem {x : Token} {tokens : List Token} (h : x ∉ tokens) :
    tokens.splitOn x = [tokens] := by
  have hsplit : ([x].intercalate [tokens]).splitOn x = [tokens] :=
    List.splitOn_intercalate x (by simpa using h) (by simp)
  simpa [List.intercalate] using hsplit

theorem splitOn_append_cons {x : Token} {left right : List Token} (hleft : x ∉ left)
    (hright : x ∉ right) : (left ++ x :: right).splitOn x = [left, right] := by
  have hsplit : ([x].intercalate [left, right]).splitOn x = [left, right] :=
    List.splitOn_intercalate x (by simp [hleft, hright]) (by simp)
  simpa [List.intercalate] using hsplit

/-- A text that is read as a formula and ends no sentence. -/
structure Formula.IsRead (text : String) (formula : Formula) : Prop where
  plain : '%' ∉ text.toList
  noEnd : sign ';' ∉ all text.toList
  reads : Formula.read? (all text.toList) = some formula

namespace Formula

/-- Two sums with a sign between them are no application of a function. -/
theorem read?_relation {left right : List Token} {c : Char} (hc : c ≠ '(')
    (h : sign '(' ∈ left → left.head? = some (sign '(')) :
    Formula.read? (left ++ sign c :: right) = relation? (left ++ sign c :: right) := by
  have hnot : left ++ sign c :: right ≠ [word "true".toList] := by
    cases left <;> simp
  have happlication (name : List Char) (more : List Token) :
      left ++ sign c :: right ≠ word name :: sign '(' :: more := by
    match left with
    | [] => simp
    | [_] => simpa using fun _ heq ↦ absurd heq hc
    | first :: second :: rest =>
      intro heq
      simp only [List.cons_append, List.cons.injEq] at heq
      obtain ⟨rfl, rfl, -⟩ := heq
      simpa using h (by simp)
  unfold Formula.read?
  split
  next heq => exact absurd heq (happlication _ _)
  next => exact if_neg hnot

namespace IsRead

variable {left right : String} {l r : List Summand}

/-- Two sums with the sign of a relation between them. -/
theorem relation (hl : SumIsRead left l) (hr : SumIsRead right r) {operator : String} {c : Char}
    (hoperator : operator.toList = [' ', c, ' ']) (hc : c = '=' ∨ c = '<') {formula : Formula}
    (h : relation? (all left.toList ++ sign c :: all right.toList) = some formula) :
    IsRead (left ++ operator ++ right) formula := by
  have hsign : isSign c = true ∧ c ≠ '%' ∧ c ≠ ';' ∧ c ≠ '(' := by
    obtain rfl | rfl := hc <;> decide
  obtain ⟨hsign, hpercent, hsemicolon, hbracket⟩ := hsign
  have htext : (left ++ operator ++ right).toList =
      left.toList ++ ' ' :: c :: ' ' :: right.toList := by
    simp [hoperator]
  have hall : all (left ++ operator ++ right).toList =
      all left.toList ++ sign c :: all right.toList := by
    rw [htext, all_operator hl.plain hsign]
  refine ⟨?_, ?_, ?_⟩
  · rw [htext]
    simpa using ⟨hl.plain, hpercent.symm, hr.plain⟩
  · rw [hall]
    simpa using ⟨hl.signs.notMem (by decide), hsemicolon.symm, hr.signs.notMem (by decide)⟩
  · rw [hall, read?_relation hbracket hl.opens, h]

theorem equal (hl : SumIsRead left l) (hr : SumIsRead right r) :
    IsRead (left ++ " = " ++ right) (.equal l r) := by
  refine relation hl hr rfl (.inl rfl) ?_
  rw [relation?, splitOn_append_cons (hl.signs.notMem (by decide)) (hr.signs.notMem (by decide))]
  simp only [hl.reads, hr.reads]
  rfl

theorem less (hl : SumIsRead left l) (hr : SumIsRead right r) :
    IsRead (left ++ " < " ++ right) (.less l r) := by
  have hequal : sign '=' ∉ all left.toList ++ sign '<' :: all right.toList := by
    simpa using ⟨hl.signs.notMem (by decide), hr.signs.notMem (by decide)⟩
  refine relation hl hr rfl (.inr rfl) ?_
  rw [relation?, splitOn_of_notMem hequal,
    splitOn_append_cons (hl.signs.notMem (by decide)) (hr.signs.notMem (by decide))]
  simp only [hl.reads, hr.reads]
  rfl

theorem always : IsRead "true" .always where
  plain := by decide
  noEnd := by decide
  reads := by decide

end IsRead

/-! ## Lists of elements -/

/-- The tokens of cells with commas between them. -/
theorem all_digitTexts (cells : List Cell) :
    '%' ∉ (Text.join ", " (cells.map Cell.digitText)).toList ∧
      all (Text.join ", " (cells.map Cell.digitText)).toList =
        [sign ','].intercalate (cells.map Cell.tokens) := by
  have hplain : ∀ p ∈ cells.map Cell.digitText, '%' ∉ p.toList := by
    intro p hp
    obtain ⟨cell, _, rfl⟩ := List.mem_map.1 hp
    exact cell.notMem_digitText
  refine ⟨Text.notMem_join (by decide) hplain, ?_⟩
  rw [all_join [','] rfl (by decide) hplain, List.map_map]
  congr 1
  exact List.map_congr_left fun cell _ ↦ cell.all_digitText

theorem elements?_intercalate {cells : List Cell} (hne : cells ≠ []) {c : Char} (hc : c ≠ ',')
    (rest : List Token) :
    elements? ([sign ','].intercalate (cells.map Cell.tokens) ++ sign c :: rest) =
      some (cells.map Cell.atom, sign c :: rest) := by
  induction cells with
  | nil => exact absurd rfl hne
  | cons cell cells ih =>
    cases cells with
    | nil =>
      simp [List.intercalate, Cell.tokens, elements?, Atom.element?, Text.digits?_decimal, hc,
        Cell.atom]
    | cons next cells =>
      rw [List.map_cons, List.map_cons, List.intercalate_cons_cons, List.append_assoc,
        List.append_assoc, ← List.map_cons]
      have hstep (tokens : List Token) : elements? (cell.tokens ++ ([sign ','] ++ tokens)) =
          (elements? tokens).map (Prod.map (cell.atom :: ·) id) := by
        cases hread : elements? tokens <;>
          simp [Cell.tokens, elements?, Text.digits?_decimal, Cell.atom, hread, Prod.map]
      rw [hstep, ih (List.cons_ne_nil next cells)]
      rfl

namespace IsRead

/-- A function or predicate that is applied to what stands behind it. -/
theorem application {text : String} (name : List Char) {rest : List Char} {tokens : List Token}
    {formula : Formula} (htokens : all rest = tokens) (htext : text.toList = name ++ '(' :: rest)
    (hname : isPlainIdentifier name = true) (hplain : '%' ∉ rest) (hend : sign ';' ∉ tokens)
    (h : application? name tokens = some formula) : IsRead text formula := by
  have hchars := isIdentifierChar_of_plain hname
  have hne : name ≠ [] := by
    rintro rfl
    cases hname
  have hpercent : '%' ∉ name := fun hmem ↦ absurd (hchars '%' hmem) (by decide)
  have hall : all text.toList = word name :: sign '(' :: tokens := by
    rw [htext, all_append_cons hpercent (by decide), all_word hne hchars, all_sign (by decide),
      htokens]
    rfl
  refine ⟨?_, by simpa [hall] using hend, ?_⟩
  · rw [htext]
    simpa using ⟨hpercent, hplain⟩
  · rw [hall]
    exact h

theorem allDifferent {cells : List Cell} (hne : cells ≠ []) :
    IsRead ("all_different([" ++ Text.join ", " (cells.map Cell.digitText) ++ "])")
      (.allDifferent (cells.map Cell.atom)) := by
  obtain ⟨hplain, htokens⟩ := all_digitTexts cells
  have hall : all ('[' :: ((Text.join ", " (cells.map Cell.digitText)).toList ++ [']', ')'])) =
      sign '[' :: ([sign ','].intercalate (cells.map Cell.tokens) ++ [sign ']', sign ')']) := by
    rw [all_sign (by decide), all_append_cons hplain (by decide), htokens]
    rfl
  refine application "all_different".toList hall (by simp) (by decide) ?_ ?_ ?_
  · simpa using hplain
  · have hsigns : SignsIn [',', '[', ']'] ([sign ','].intercalate (cells.map Cell.tokens)) := by
      refine Text.forall_mem_intercalate (by simp) fun tokens htokens ↦ ?_
      obtain ⟨cell, _, rfl⟩ := List.mem_map.1 htokens
      simp [Cell.tokens]
    simpa using hsigns.notMem (by decide)
  · simp [application?, elements?_intercalate hne]

theorem apart (a b : Cell) : IsRead ("abs(" ++ a.digitText ++ " - " ++ b.digitText ++ ") >= 5")
    (.apart a.atom b.atom 5) := by
  have hall : all (a.digitText.toList ++ ' ' :: '-' :: ' ' ::
      (b.digitText.toList ++ ')' :: " >= 5".toList)) =
        a.tokens ++ sign '-' :: (b.tokens ++ [sign ')', sign '>', sign '=', word ['5']]) := by
    rw [all_operator a.notMem_digitText (by decide), a.all_digitText,
      all_append_cons b.notMem_digitText (by decide), b.all_digitText]
    rfl
  refine application "abs".toList hall (by simp) (by decide) ?_ ?_ ?_
  · simpa using ⟨a.notMem_digitText, b.notMem_digitText⟩
  · simp [Cell.tokens]
  · have hfive : Text.digits? ['5'] = some 5 := by decide
    simp [application?, Cell.element?_tokens, hfive]

theorem related (relation : DotRelation) (a b : Cell) :
    IsRead (relation.predicate ++ "(" ++ a.digitText ++ ", " ++ b.digitText ++ ")")
      (.related relation.predicate.toList a.atom b.atom) := by
  obtain ⟨hplain, htokens⟩ := all_digitTexts [a, b]
  have hall : all ((Text.join ", " ([a, b].map Cell.digitText)).toList ++ [')']) =
      [sign ','].intercalate ([a, b].map Cell.tokens) ++ [sign ')'] := by
    rw [all_append_cons hplain (by decide), htokens]
    rfl
  refine application relation.predicate.toList hall ?_ ?_ ?_ ?_ ?_
  · simp [Text.toList_join, List.intercalate]
  · cases relation <;> decide
  · simpa using hplain
  · simp [List.intercalate, Cell.tokens]
  · have hname : relation.predicate.toList ≠ "all_different".toList ∧
        relation.predicate.toList ≠ "abs".toList := by
      cases relation <;> decide
    unfold application?
    rw [if_neg hname.1, if_neg hname.2,
      elements?_intercalate (List.cons_ne_nil a [b]) (by decide)]
    rfl

end IsRead

end Formula

/-! ## Sentences -/

/-- A text that is read as one sentence. -/
def Sentence.IsRead (text : String) (sentence : Sentence) : Prop :=
  ∃ tokens, all text.toList = tokens ++ [sign ';'] ∧ sign ';' ∉ tokens ∧
    Sentence.read? tokens = some sentence

namespace Sentence.IsRead

theorem constraint {body : String} {formula : Formula} (h : Formula.IsRead body formula) :
    Sentence.IsRead (constraintText body) (.constraint formula) := by
  have htext : (constraintText body).toList =
      "constraint".toList ++ ' ' :: (body.toList ++ ';' :: []) := by simp [constraintText]
  have hkeyword : all "constraint".toList = [word "constraint".toList] :=
    all_word (by decide) (isIdentifierChar_of_plain (by decide))
  refine ⟨word "constraint".toList :: all body.toList, ?_, by simpa using h.noEnd, ?_⟩
  · rw [htext, all_append_cons (by decide) (by decide), hkeyword, all_space,
      all_append_cons h.plain (by decide)]
    rfl
  · rw [Sentence.read?, if_pos rfl, h.reads]
    rfl

/-- The definition of the shared total. -/
theorem define {term : Term} (h : term.IsReadable) : Sentence.IsRead
    (Item.defineTotal term).text (.define sharedTotal.toList term.summands) := by
  have hsum := Term.sumIsRead h
  have hname : all sharedTotal.toList = [word sharedTotal.toList] :=
    all_word (by decide) (isIdentifierChar_of_plain (by decide))
  have htext : (Item.defineTotal term).text.toList = "var int: ".toList ++
      (sharedTotal.toList ++ ' ' :: '=' :: ' ' :: (term.text.toList ++ ';' :: [])) := by
    simp [Item.text]
  have hstart (s : List Char) : all ("var int: ".toList ++ s) =
      word "var".toList :: word "int".toList :: sign ':' :: all s := rfl
  refine ⟨word "var".toList :: word "int".toList :: sign ':' :: word sharedTotal.toList ::
    sign '=' :: all term.text.toList, ?_, by simpa using hsum.signs.notMem (by decide), ?_⟩
  · rw [htext, hstart, all_operator (by decide) (by decide), hname,
      all_append_cons hsum.plain (by decide)]
    rfl
  · rw [Sentence.read?, if_neg (by decide), if_pos rfl, definition?, if_pos rfl, hsum.reads]
    rfl

end Sentence.IsRead

/-! ## Items -/

namespace Item

/-- What an item is read as. Notes are no sentences. -/
def sentence? : Item → Option Sentence
  | note _ => none
  | always => some (.constraint .always)
  | allDifferent cells => some (.constraint (.allDifferent (cells.map Cell.atom)))
  | equal left right => some (.constraint (.equal left.summands right.summands))
  | less a b => some (.constraint (.less [⟨1, a.atom⟩] [⟨1, b.atom⟩]))
  | farApart a b => some (.constraint (.apart a.atom b.atom 5))
  | dotted relation a b =>
    some (.constraint (.related relation.predicate.toList a.atom b.atom))
  | defineTotal term => some (.define sharedTotal.toList term.summands)

/-- An item without empty sums and lists. -/
def IsReadable : Item → Prop
  | allDifferent cells => cells ≠ []
  | equal left right => left.IsReadable ∧ right.IsReadable
  | defineTotal term => term.IsReadable
  | _ => True

/-- An item is read as a sentence or passed over. -/
theorem isRead_text {item : Item} (h : item.IsReadable) :
    (item.sentence? = none ∧ all item.text.toList = []) ∨
      ∃ sentence, item.sentence? = some sentence ∧ Sentence.IsRead item.text sentence := by
  cases item with
  | note text => exact .inl ⟨rfl, all_comment text⟩
  | always => exact .inr ⟨_, rfl, .constraint .always⟩
  | allDifferent cells => exact .inr ⟨_, rfl, .constraint (.allDifferent h)⟩
  | equal left right =>
    exact .inr ⟨_, rfl, .constraint (.equal (Term.sumIsRead h.1) (Term.sumIsRead h.2))⟩
  | less a b => exact .inr ⟨_, rfl, .constraint (.less (.single (.cell a)) (.single (.cell b)))⟩
  | farApart a b => exact .inr ⟨_, rfl, .constraint (.apart a b)⟩
  | dotted relation a b => exact .inr ⟨_, rfl, .constraint (.related relation a b)⟩
  | defineTotal term => exact .inr ⟨_, rfl, .define h⟩

end Item

theorem splitOn_flatMap {x : Token} {pieces : List (List Token)} (h : ∀ p ∈ pieces, x ∉ p) :
    (pieces.flatMap (· ++ [x])).splitOn x = pieces ++ [[]] := by
  have hjoin : [x].intercalate (pieces ++ [[]]) = pieces.flatMap (· ++ [x]) := by
    clear h
    induction pieces with
    | nil => rfl
    | cons p pieces ih =>
      rw [List.flatMap_cons, ← ih]
      cases pieces <;> simp [List.intercalate]
  rw [← hjoin, List.splitOn_intercalate x _ (by simp)]
  exact List.forall_mem_append.2 ⟨h, by simp⟩

/-- The tokens of items are those of their sentences, each with a semicolon behind it. -/
theorem exists_pieces {items : List Item} (h : ∀ item ∈ items, item.IsReadable) :
    ∃ pieces : List (List Token), all (Items.text items).toList = pieces.flatMap (· ++ [sign ';']) ∧
      (∀ piece ∈ pieces, sign ';' ∉ piece) ∧
      pieces.mapM Sentence.read? = some (items.filterMap Item.sentence?) := by
  rw [Items.text, all_unlines, List.flatMap_map]
  induction items with
  | nil => exact ⟨[], rfl, by simp, rfl⟩
  | cons item items ih =>
    obtain ⟨hitem, hrest⟩ := List.forall_mem_cons.1 h
    obtain ⟨pieces, hall, hend, hread⟩ := ih hrest
    obtain ⟨hnone, hempty⟩ | ⟨sentence, hsome, tokens, htokens, hnot, hsentence⟩ :=
      Item.isRead_text hitem
    · refine ⟨pieces, ?_, hend, ?_⟩
      · rw [List.flatMap_cons, hempty, hall, List.nil_append]
      · rw [List.filterMap_cons_none hnone, hread]
    · refine ⟨tokens :: pieces, ?_, List.forall_mem_cons.2 ⟨hnot, hend⟩, ?_⟩
      · rw [List.flatMap_cons, htokens, hall, List.flatMap_cons]
      · rw [List.filterMap_cons_some hsome, List.mapM_cons, hsentence, hread]
        rfl

/-- The text of items is read as their sentences. -/
theorem sentences?_text {items : List Item} (h : ∀ item ∈ items, item.IsReadable) :
    sentences? (Items.text items) = some (items.filterMap Item.sentence?) := by
  obtain ⟨pieces, hall, hend, hread⟩ := exists_pieces h
  rw [sentences?, hall, splitOn_flatMap hend, List.reverse_append, List.reverse_singleton,
    List.singleton_append]
  dsimp only
  rw [List.reverse_reverse, hread]

end GridPuzzle
