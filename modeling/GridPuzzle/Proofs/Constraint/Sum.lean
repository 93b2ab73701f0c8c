import GridPuzzle.Constraint.Sentence
import GridPuzzle.Proofs.Constraint.Item
import GridPuzzle.Proofs.Constraint.Token
import GridPuzzle.Proofs.Fallible
import GridPuzzle.Proofs.Text.Separated

/-!
# Reading sums back

The text of a term is read back as a sum: a sum of cells as the sum of their digits, a numeral as a
sum of multiples of digits by powers of ten, and an integer or the shared total as a sum of one. A
sum of no cells cannot be read.
-/

namespace GridPuzzle

open Token

/-! ## Cells -/

/-- A body of a constraint has no comment in it. -/
theorem notMem_of_isBody {s : List Char} (h : Document.IsBody (fun _ ↦ True) s) : '%' ∉ s :=
  (Document.isLine_of_isBodyChar h.chars).2.1

theorem all_decimal (n : Nat) : all (Text.decimal n) = [word (Text.decimal n)] :=
  all_word (Text.decimal_ne_nil n) fun c hc ↦
    Text.isIdentifierChar_of_isAsciiDigit (Text.isAsciiDigit_of_mem_decimal n c hc)

namespace Cell

def atom (cell : Cell) : Atom := .element digitKind.toList (cell.row + 1) (cell.col + 1)

def tokens (cell : Cell) : List Token :=
  [word digitKind.toList, sign '[', word (Text.decimal (cell.row + 1)), sign ',',
    word (Text.decimal (cell.col + 1)), sign ']']

theorem notMem_digitText (cell : Cell) : '%' ∉ cell.digitText.toList :=
  notMem_of_isBody (isBody_digitText trivial)

theorem all_digitText (cell : Cell) : all cell.digitText.toList = cell.tokens := by
  have hpercent (n : Nat) : '%' ∉ Text.decimal n := Text.notMem_decimal (by decide) n
  have hkind : all digitKind.toList = [word digitKind.toList] :=
    all_word (by decide) (isIdentifierChar_of_plain (by decide))
  have htext : cell.digitText.toList = digitKind.toList ++ '[' ::
      (Text.decimal (cell.row + 1) ++ ',' :: ' ' :: (Text.decimal (cell.col + 1) ++ [']'])) :=
    toList_elementText digitKind cell.row cell.col
  rw [htext, all_append_cons (by decide) (by decide), hkind, all_sign (by decide),
    all_append_cons (hpercent _) (by decide), all_decimal, all_sign (by decide), all_space,
    all_append_cons (hpercent _) (by decide), all_decimal]
  rfl

variable (cell : Cell)

theorem element?_tokens (rest : List Token) :
    Atom.element? (cell.tokens ++ rest) = some (cell.atom, rest) := by
  simp [tokens, Atom.element?, Text.digits?_decimal, atom]

theorem read?_tokens : Atom.read? cell.tokens = some cell.atom := by
  simp [tokens, Atom.read?, Atom.element?, Text.digits?_decimal, atom]

end Cell

/-! ## Summands -/

/-- Tokens of which the signs are among given ones. -/
def SignsIn (signs : List Char) (tokens : List Token) : Prop :=
  ∀ token ∈ tokens, ∀ c, token = sign c → c ∈ signs

theorem SignsIn.notMem {signs : List Char} {tokens : List Token} (h : SignsIn signs tokens)
    {c : Char} (hc : c ∉ signs) : sign c ∉ tokens := fun hmem ↦ hc (h _ hmem c rfl)

theorem SignsIn.mono {signs more : List Char} {tokens : List Token} (h : SignsIn signs tokens)
    (hsub : signs ⊆ more) : SignsIn more tokens := fun token htoken c hc ↦
  hsub (h token htoken c hc)

/-- A text that is read as a summand, with the signs of elements and products only. -/
structure Summand.IsRead (text : String) (summand : Summand) : Prop where
  plain : '%' ∉ text.toList
  signs : SignsIn ['[', ',', ']', '*', '-'] (all text.toList)
  reads : Summand.read? (all text.toList) = some summand

namespace Summand.IsRead

theorem cell (cell : Cell) : Summand.IsRead cell.digitText ⟨1, cell.atom⟩ where
  plain := cell.notMem_digitText
  signs := by
    rw [cell.all_digitText]
    simp [SignsIn, Cell.tokens]
  reads := by
    rw [cell.all_digitText]
    have hread : Summand.read? cell.tokens = (Atom.read? cell.tokens).map (⟨1, ·⟩) := rfl
    rw [hread, cell.read?_tokens]
    rfl

/-- The digits of a power of ten denote it. -/
theorem digits?_powerText (exponent : Nat) :
    Text.digits? (powerText exponent).toList = some (10 ^ exponent) := by
  have hzeros (acc k : Nat) :
      Text.digitsFrom? acc (List.replicate k '0') = some (10 ^ k * acc) := by
    induction k generalizing acc with
    | zero => simp [Text.digitsFrom?]
    | succ k ih =>
      have hzero : Text.digitValue? '0' = some 0 := by decide
      rw [List.replicate_succ, Text.digitsFrom?, hzero, Option.bind_some, ih]
      congr 1
      ring
  have hone : Text.digitValue? '1' = some 1 := by decide
  rw [powerText, String.toList_ofList, Text.digits?, Text.digitsFrom?, hone, Option.bind_some,
    hzeros]
  simp

/-- A multiple of a digit. -/
theorem product (exponent : Nat) (cell : Cell) :
    Summand.IsRead (powerText exponent ++ " * " ++ cell.digitText) ⟨10 ^ exponent, cell.atom⟩ := by
  have hpower : all (powerText exponent).toList = [word (powerText exponent).toList] := by
    refine all_word (by simp [powerText]) fun c hc ↦ ?_
    simp only [powerText, String.toList_ofList, List.mem_cons, List.mem_replicate] at hc
    obtain rfl | ⟨-, rfl⟩ := hc <;> decide
  have hpercent : '%' ∉ (powerText exponent).toList := notMem_of_isBody (isBody_powerText exponent)
  have htext : (powerText exponent ++ " * " ++ cell.digitText).toList =
      (powerText exponent).toList ++ ' ' :: '*' :: ' ' :: cell.digitText.toList := by
    simp
  have hall : all (powerText exponent ++ " * " ++ cell.digitText).toList =
      word (powerText exponent).toList :: sign '*' :: cell.tokens := by
    rw [htext, all_operator hpercent (by decide), hpower, cell.all_digitText]
    rfl
  refine ⟨?_, ?_, ?_⟩
  · rw [htext]
    simpa using ⟨hpercent, cell.notMem_digitText⟩
  · rw [hall]
    simp [SignsIn, Cell.tokens]
  · rw [hall]
    simp [Summand.read?, digits?_powerText, cell.read?_tokens]

/-- What an integer is read as. -/
theorem intText (n : Int) : Summand.IsRead (Text.intText n)
    ⟨if n < 0 then -1 else 1, .literal n.natAbs⟩ := by
  have hatom (n : Nat) : Atom.read? [word (Text.decimal n)] = some (.literal n) := by
    simp [Atom.read?, Text.digits?_decimal]
  have hplain : '%' ∉ (Text.intText n).toList := notMem_of_isBody (.intText n)
  by_cases hn : n < 0
  · have hall : all (Text.intText n).toList = [sign '-', word (Text.decimal n.natAbs)] := by
      rw [Text.toList_intText_neg hn, all_sign (by decide), all_decimal]
    refine ⟨hplain, by simp [SignsIn, hall], ?_⟩
    simp [hall, Summand.read?, hatom, hn]
  · lift n to Nat using Int.not_lt.1 hn
    have hall : all (Text.intText n).toList = [word (Text.decimal n)] := by
      rw [Text.toList_intText_natCast, all_decimal]
    refine ⟨hplain, by simp [SignsIn, hall], ?_⟩
    simp [hall, Summand.read?, hatom]

theorem sharedTotal :
    Summand.IsRead GridPuzzle.sharedTotal ⟨1, .name GridPuzzle.sharedTotal.toList⟩ := by
  have hall : all GridPuzzle.sharedTotal.toList = [word GridPuzzle.sharedTotal.toList] :=
    all_word (by decide) (isIdentifierChar_of_plain (by decide))
  refine ⟨by decide, by simp [SignsIn, hall], ?_⟩
  rw [hall]
  rfl

end Summand.IsRead

/-! ## Sums -/

/-- A text that is read as a sum. Round brackets are around all of it or nowhere. -/
structure SumIsRead (text : String) (summands : List Summand) : Prop where
  plain : '%' ∉ text.toList
  signs : SignsIn ['+', '(', ')', '[', ',', ']', '*', '-'] (all text.toList)
  opens : sign '(' ∈ all text.toList → (all text.toList).head? = some (sign '(')
  reads : sum? (all text.toList) = some summands

theorem unbracketed_of_notMem {tokens : List Token} (h : sign '(' ∉ tokens) :
    unbracketed tokens = tokens := by
  unfold unbracketed
  split
  · exact absurd List.mem_cons_self h
  · rfl

theorem unbracketed_brackets (tokens : List Token) :
    unbracketed (sign '(' :: (tokens ++ [sign ')'])) = tokens := by
  simp [unbracketed]

/-- The tokens of summands that are joined. -/
theorem splitOn_join {pieces : List String} {summands : List Summand}
    (h : List.Forall₂ Summand.IsRead pieces summands) (hne : pieces ≠ []) :
    '%' ∉ (Text.join " + " pieces).toList ∧
    SignsIn ['+', '[', ',', ']', '*', '-'] (all (Text.join " + " pieces).toList) ∧
    ((all (Text.join " + " pieces).toList).splitOn (sign '+')).mapM Summand.read? =
      some summands := by
  have hread : ∀ p ∈ pieces, ∃ summand, Summand.IsRead p summand :=
    ((List.forall₂_and_left _ _).1 (h.imp fun _ summand hread ↦ ⟨⟨summand, hread⟩, hread⟩)).1
  have hplain : ∀ p ∈ pieces, '%' ∉ p.toList := fun p hp ↦ (hread p hp).elim fun _ h ↦ h.plain
  have hsigns : ∀ tokens ∈ pieces.map fun p ↦ all p.toList,
      SignsIn ['[', ',', ']', '*', '-'] tokens := by
    intro tokens htokens
    obtain ⟨p, hp, rfl⟩ := List.mem_map.1 htokens
    exact (hread p hp).elim fun _ h ↦ h.signs
  have hall : all (Text.join " + " pieces).toList =
      [sign '+'].intercalate (pieces.map fun p ↦ all p.toList) :=
    all_join [' ', '+'] rfl (by decide) hplain
  refine ⟨Text.notMem_join (by decide) hplain, ?_, ?_⟩
  · rw [hall]
    refine Text.forall_mem_intercalate (by simp) fun tokens htokens ↦ ?_
    exact (hsigns tokens htokens).mono (by simp)
  · rw [hall, List.splitOn_intercalate _ (fun tokens htokens ↦ (hsigns tokens htokens).notMem
      (by decide)) (by simpa using hne), Fallible.mapM_eq_some, List.forall₂_map_left_iff]
    exact h.imp fun _ _ hread ↦ hread.reads

namespace SumIsRead

variable {pieces : List String} {summands : List Summand}

theorem join (h : List.Forall₂ Summand.IsRead pieces summands) (hne : pieces ≠ []) :
    SumIsRead (Text.join " + " pieces) summands := by
  obtain ⟨hplain, hsigns, hreads⟩ := splitOn_join h hne
  have hnot : sign '(' ∉ all (Text.join " + " pieces).toList := hsigns.notMem (by decide)
  refine ⟨hplain, hsigns.mono (by simp), fun hmem ↦ absurd hmem hnot, ?_⟩
  rw [sum?, unbracketed_of_notMem hnot, hreads]

theorem brackets (h : List.Forall₂ Summand.IsRead pieces summands) (hne : pieces ≠ []) :
    SumIsRead ("(" ++ Text.join " + " pieces ++ ")") summands := by
  obtain ⟨hplain, hsigns, hreads⟩ := splitOn_join h hne
  have htext : ("(" ++ Text.join " + " pieces ++ ")").toList =
      '(' :: ((Text.join " + " pieces).toList ++ ')' :: []) := by simp
  have hall : all ("(" ++ Text.join " + " pieces ++ ")").toList =
      sign '(' :: (all (Text.join " + " pieces).toList ++ [sign ')']) := by
    rw [htext, all_sign (by decide), all_append_cons hplain (by decide)]
    rfl
  refine ⟨?_, ?_, fun _ ↦ by rw [hall]; rfl, ?_⟩
  · rw [htext]
    simpa using hplain
  · rw [hall]
    refine List.forall_mem_cons.2 ⟨by simp, List.forall_mem_append.2 ⟨?_, by simp⟩⟩
    exact hsigns.mono (by simp)
  · rw [sum?, hall, unbracketed_brackets, hreads]

/-- A summand is a sum. -/
theorem single {text : String} {summand : Summand} (h : Summand.IsRead text summand) :
    SumIsRead text [summand] := by
  have hsum := join (.cons h .nil) (List.cons_ne_nil text [])
  rwa [Text.join_singleton] at hsum

end SumIsRead

/-! ## Terms -/

namespace Term

/-- The digits of a numeral with the powers of ten of their places. -/
def places : List Cell → List Summand
  | [] => []
  | cell :: rest => ⟨10 ^ rest.length, cell.atom⟩ :: places rest

def summands : Term → List Summand
  | sum cells | segmentSum cells => cells.map fun cell ↦ ⟨1, cell.atom⟩
  | numeral cells => places cells
  | constant n => [⟨if n < 0 then -1 else 1, .literal n.natAbs⟩]
  | .sharedTotal => [⟨1, .name GridPuzzle.sharedTotal.toList⟩]

/-- A term that is not an empty sum. -/
def IsReadable : Term → Prop
  | sum cells | segmentSum cells | numeral cells => cells ≠ []
  | _ => True

theorem isRead_digits (cells : List Cell) : List.Forall₂ Summand.IsRead
    (cells.map Cell.digitText) (cells.map fun cell ↦ ⟨1, cell.atom⟩) := by
  simpa [List.forall₂_map_left_iff, List.forall₂_map_right_iff, List.forall₂_same] using
    fun cell _ ↦ Summand.IsRead.cell cell

theorem isRead_numeralTerms (cells : List Cell) :
    List.Forall₂ Summand.IsRead (numeralTerms (cells.map Cell.digitText)) (places cells) := by
  induction cells with
  | nil => exact .nil
  | cons cell rest ih =>
    cases rest with
    | nil => exact .cons (.cell cell) .nil
    | cons next rest =>
      have hlength : (rest.map Cell.digitText).length + 1 = (next :: rest).length := by simp
      rw [List.map_cons, List.map_cons, numeralTerms, hlength, places]
      exact .cons (.product _ cell) ih

theorem sumIsRead {term : Term} (h : term.IsReadable) : SumIsRead term.text term.summands := by
  cases term with
  | sum cells => exact .join (isRead_digits cells) (by simpa [IsReadable] using h)
  | segmentSum cells => exact .brackets (isRead_digits cells) (by simpa [IsReadable] using h)
  | numeral cells =>
    have hne : cells ≠ [] := h
    match cells with
    | [] => exact absurd rfl hne
    | [cell] => exact .single (.cell cell)
    | cell :: next :: rest =>
      exact .brackets (isRead_numeralTerms (cell :: next :: rest)) (by simp [numeralTerms])
  | constant n => exact .single (.intText n)
  | sharedTotal => exact .single .sharedTotal

end Term

end GridPuzzle
